import PlanQuota.Proofs.Overwriting
import PlanQuota.Proofs.Trace

/-!
Control loops of many entitlements over one remote side that overwrites what is set. Each loop
observes its entitlement and then makes the change that the observation asks for; the steps of
different loops may come in any order, so that others write between an observation and the change
it leads to. Whatever the order, a loop that was once through has nothing left to change.
-/
namespace PlanQuota.Interleaving

variable {ι : Type}

/-- A step of the loop of one entitlement. -/
inductive Step (ι : Type)
  /-- With `keep`, the quota of the loop's last observation counts as established. -/
  | observe (who : ι) (keep : Bool)
  /-- Makes the change that is due after an observation. -/
  | change (who : ι)
  deriving DecidableEq, Repr

structure World (ι : Type) where
  catalog : Catalog
  /-- What each loop observed last. -/
  last : ι → Option Observation
  /-- An observation whose change is not made yet. -/
  due : ι → Option Observation

def World.start (c : Catalog) : World ι := ⟨c, fun _ => none, fun _ => none⟩

inductive Event (ι : Type)
  | observed (who : ι) (outcome : Outcome Catalog Observation)
  | changed (who : ι) (outcome : Outcome Catalog Unit)

/-- The change that an observation asks for, if it asks for one. -/
def makeChange (remote : Remote Catalog) (desired : Desired) (o : Observation) (c : Catalog) :
    Outcome Catalog Unit :=
  match o.mutation with
  | .assign => Engine.create remote desired o.required c
  | .update => Engine.update remote desired o.required c
  | .none => ⟨.ok (), [], [], c⟩

/-- The quota that an observation starts from. -/
def World.established (w : World ι) (i : ι) (keep : Bool) : Option Quota :=
  if keep then (w.last i).map (·.required) else none

def step [DecidableEq ι] (R : Replacement) (desired : ι → Desired) (w : World ι) :
    Step ι → World ι × List (Event ι)
  | .observe i keep =>
    let outcome := Engine.observe R.remote (desired i) (w.established i keep) w.catalog
    (match outcome.result with
      | .ok o =>
        ⟨outcome.state, Function.update w.last i (some o), Function.update w.due i (some o)⟩
      | .error _ => { w with catalog := outcome.state },
      [.observed i outcome])
  | .change i =>
    match w.due i with
    | none => (w, [])
    | some o =>
      let outcome := makeChange R.remote (desired i) o w.catalog
      (⟨outcome.state, w.last, Function.update w.due i none⟩, [.changed i outcome])

/-- A loop was once through: it observed, and later came to its change. -/
def Completed (i : ι) (steps : List (Step ι)) : Prop :=
  ∃ keep, [Step.observe i keep, Step.change i].Sublist steps

namespace Event

def who : Event ι → ι
  | observed i _ => i
  | changed i _ => i

def calls : Event ι → List Call
  | observed _ outcome => outcome.calls
  | changed _ outcome => outcome.calls

/-- The requests of the calls that set something. -/
def sets (e : Event ι) : List SetRequest :=
  e.calls.filterMap fun
    | .read _ _ => none
    | .set request => some request

def Succeeds : Event ι → Prop
  | observed _ outcome => ∃ o, outcome.result = .ok o
  | changed _ outcome => outcome.result = .ok ()

def AsksForNothing : Event ι → Prop
  | observed _ outcome => ∃ o, outcome.result = .ok o ∧ o.mutation = .none
  | changed _ _ => True

/-- Nothing is set and, in an observation, nothing found to be changed. -/
def IsQuiet (e : Event ι) : Prop := e.sets = [] ∧ e.AsksForNothing

end Event

/-- What the loop of an entitlement sets. -/
def setsOf [DecidableEq ι] (i : ι) (events : List (Event ι)) : List SetRequest :=
  (events.filter (·.who = i)).flatMap Event.sets

/-- What an observation finds in a catalog in which an entitlement's plan is `plan`. -/
def finding (plan : EntitledPlan) (d : Desired) (c : Catalog) : Observation :=
  ⟨⟨plan, (c.held d).head?⟩, Quota.derive plan d⟩

/-- An observation made now would ask for no change. -/
def Settled (plan : EntitledPlan) (d : Desired) (c : Catalog) : Prop :=
  (finding plan d c).mutation = .none

variable {R : Replacement}

theorem finding_overwrite_other {d d' : Desired} (h : d'.target ≠ d.target) (plan : EntitledPlan)
    (q : Quota) (c : Catalog) :
    finding plan d' (R.overwrite (SetRequest.ofQuota d q) c) = finding plan d' c := by
  rw [finding, R.held_overwrite_other h, finding]

/-- A record as granted is up to date with the quota it was granted for. -/
theorem isUpToDate_of_granted {a : Assignment} {q : Quota}
    (ha : a.amount = q.amount?.map (fun n => Binary64.ofInt n.toInt)) (he : a.enabled = q.enable?)
    (plan : EntitledPlan) : PlanState.isUpToDate ⟨plan, some a⟩ q = true := by
  cases q with
  | numeric n => simp [PlanState.isUpToDate, ha, Quota.amount?, Binary64.same]
  | enabled b => simp [PlanState.isUpToDate, he, Quota.enable?]

theorem settled_overwrite_same (plan : EntitledPlan) (d : Desired) (c : Catalog) :
    Settled plan d (R.overwrite (SetRequest.ofQuota d (Quota.derive plan d)) c) := by
  obtain ⟨a, hheld, ha, he⟩ := R.held_overwrite_same d (Quota.derive plan d) c
  have hup := isUpToDate_of_granted ha he plan
  simp [Settled, finding, Observation.mutation, PlanState.mutation, hheld, hup]

variable (R) (desired : ι → Desired) (plan : ι → EntitledPlan)

/-- What every loop keeps true of the world. `plan` gives the plan of each entitlement, which no
write changes, and with it the quota that each loop requires in all its passes. -/
structure Sound (w : World ι) : Prop where
  entitled : ∀ i, w.catalog.entitledPlan (desired i).service (desired i).plan = .ok (plan i)
  single : ∀ i, (w.catalog.held (desired i)).length ≤ 1
  last : ∀ i o, w.last i = some o → o.required = Quota.derive (plan i) (desired i)
  due : ∀ i o, w.due i = some o → o.required = Quota.derive (plan i) (desired i) ∧
    (o.mutation = .none → Settled (plan i) (desired i) w.catalog)

/-- The ways a step can go in a sound world. -/
inductive Taken [DecidableEq ι] (w : World ι) : Step ι → World ι × List (Event ι) → Prop
  | observed (i : ι) (keep : Bool) (outcome : Outcome Catalog Observation)
      (result : outcome.result = .ok (finding (plan i) (desired i) w.catalog))
      (calls : outcome.calls = [.read (desired i).entity (desired i).service]) :
      Taken w (.observe i keep)
        (⟨w.catalog,
          Function.update w.last i (some (finding (plan i) (desired i) w.catalog)),
          Function.update w.due i (some (finding (plan i) (desired i) w.catalog))⟩,
          [.observed i outcome])
  | idle (i : ι) (due : w.due i = none) : Taken w (.change i) (w, [])
  | kept (i : ι) (o : Observation) (outcome : Outcome Catalog Unit) (due : w.due i = some o)
      (mutation : o.mutation = .none) (result : outcome.result = .ok ())
      (calls : outcome.calls = []) :
      Taken w (.change i)
        (⟨w.catalog, w.last, Function.update w.due i none⟩, [.changed i outcome])
  | made (i : ι) (o : Observation) (outcome : Outcome Catalog Unit) (due : w.due i = some o)
      (mutation : o.mutation ≠ .none) (result : outcome.result = .ok ())
      (calls : outcome.calls =
        [.set (SetRequest.ofQuota (desired i) (Quota.derive (plan i) (desired i)))]) :
      Taken w (.change i)
        (⟨R.overwrite (SetRequest.ofQuota (desired i) (Quota.derive (plan i) (desired i)))
          w.catalog, w.last, Function.update w.due i none⟩, [.changed i outcome])

variable {R desired plan} {w : World ι}

/-- Whether the loop keeps its last quota or not, it observes the same. -/
theorem Sound.observe_result (h : Sound desired plan w) (i : ι) (keep : Bool) :
    (Engine.observe R.remote (desired i) (w.established i keep) w.catalog).result =
      .ok (finding (plan i) (desired i) w.catalog) := by
  have hq : Quota.resolve (plan i) (desired i) (w.established i keep) =
      Quota.derive (plan i) (desired i) := by
    cases keep with
    | false => rfl
    | true =>
      cases hl : w.last i with
      | none => simp only [World.established, hl, if_true, Option.map_none, Quota.resolve]
      | some o =>
        simp only [World.established, hl, if_true, Option.map_some, h.last i o hl,
          Quota.resolve_derive]
  rw [Engine.observe_eq_ok_iff]
  refine ⟨w.catalog, rfl, ?_⟩
  rw [Engine.inspect_eq_ok_iff]
  refine ⟨plan i, _, h.entitled i, Catalog.assignment_of_length_le_one (h.single i), ?_⟩
  rw [hq, finding]

/-- A catalog in which every entitlement is observed without failure is a sound start. -/
theorem exists_sound_start {c : Catalog}
    (h : ∀ i, ∃ o, (Engine.observe R.remote (desired i) none c).result = .ok o) :
    ∃ plan, Sound desired plan (World.start c) := by
  have hlook (i : ι) : ∃ plan, c.entitledPlan (desired i).service (desired i).plan = .ok plan ∧
      (c.held (desired i)).length ≤ 1 := by
    obtain ⟨o, ho⟩ := h i
    obtain ⟨catalog, hread, hi⟩ := (Engine.observe_eq_ok_iff ..).mp ho
    obtain rfl : c = catalog := Except.ok.inj hread
    obtain ⟨plan, assignment, hp, ha, -⟩ := (Engine.inspect_eq_ok_iff _).mp hi
    exact ⟨plan, hp, Catalog.length_le_one_of_assignment ha⟩
  refine ⟨fun i => (hlook i).choose, ?_, ?_, ?_, ?_⟩
  · exact fun i => (hlook i).choose_spec.1
  · exact fun i => (hlook i).choose_spec.2
  · intro i o ho
    cases ho
  · intro i o ho
    cases ho

theorem makeChange_of_none {d : Desired} {o : Observation} (h : o.mutation = .none)
    (c : Catalog) : makeChange R.remote d o c = ⟨.ok (), [], [], c⟩ := by
  simp [makeChange, h]

theorem makeChange_of_ne_none {d : Desired} {o : Observation} (h : o.mutation ≠ .none)
    (c : Catalog) : makeChange R.remote d o c = Engine.update R.remote d o.required c := by
  unfold makeChange
  cases hm : o.mutation with
  | none => exact absurd hm h
  | assign => rfl
  | update => rfl

theorem Sound.taken [DecidableEq ι] (h : Sound desired plan w) (a : Step ι) :
    Taken R desired plan w a (step R desired w a) := by
  cases a with
  | observe i keep =>
    have hr := h.observe_result (R := R) i keep
    have hstate : (Engine.observe R.remote (desired i) (w.established i keep) w.catalog).state =
        w.catalog := Engine.observe_state R.remote (desired i) w.catalog _
    simp only [step, hr, hstate]
    exact .observed i keep _ hr (Engine.observe_calls ..)
  | change i =>
    cases hd : w.due i with
    | none =>
      simp only [step, hd]
      exact .idle i hd
    | some o =>
      simp only [step, hd]
      by_cases hm : o.mutation = .none
      · rw [makeChange_of_none hm]
        exact .kept i o _ hd hm rfl rfl
      · rw [makeChange_of_ne_none hm, (h.due i o hd).1]
        exact .made i o _ hd hm rfl rfl

variable (desired plan) in
/-- The loop of an entitlement has nothing left to change, now or later. -/
structure Done (i : ι) (w : World ι) : Prop where
  settled : Settled (plan i) (desired i) w.catalog
  due : ∀ o, w.due i = some o → o.mutation = .none

variable (desired plan) in
/-- The loop of an entitlement has a change due, or has nothing left to change. -/
def Begun (i : ι) (w : World ι) : Prop := (∃ o, w.due i = some o) ∨ Done desired plan i w

variable [DecidableEq ι] {a : Step ι} {r : World ι × List (Event ι)} {i : ι}

section Distinct

variable (hdistinct : Function.Injective fun i => (desired i).target)
include hdistinct

theorem Taken.sound (t : Taken R desired plan w a r) (h : Sound desired plan w) :
    Sound desired plan r.1 := by
  cases t with
  | observed i keep outcome result calls =>
    refine ⟨h.entitled, h.single, ?_, ?_⟩
    · intro j o ho
      rcases Trace.update_eq_some_iff.mp ho with ⟨rfl, hnew⟩ | ⟨-, hold⟩
      · obtain rfl := Option.some.inj hnew
        rfl
      · exact h.last j o hold
    · intro j o ho
      rcases Trace.update_eq_some_iff.mp ho with ⟨rfl, hnew⟩ | ⟨-, hold⟩
      · obtain rfl := Option.some.inj hnew
        exact ⟨rfl, id⟩
      · exact h.due j o hold
  | idle i due => exact h
  | kept i o outcome due mutation result calls =>
    refine ⟨h.entitled, h.single, h.last, ?_⟩
    intro j o' ho
    rcases Trace.update_eq_some_iff.mp ho with ⟨-, hnew⟩ | ⟨-, hold⟩
    · cases hnew
    · exact h.due j o' hold
  | made i o outcome due mutation result calls =>
    refine ⟨?_, ?_, h.last, ?_⟩
    · intro j
      simpa using h.entitled j
    · intro j
      by_cases hj : j = i
      · subst j
        obtain ⟨a, ha, -⟩ :=
          R.held_overwrite_same (desired i) (Quota.derive (plan i) (desired i)) w.catalog
        simp [ha]
      · rw [R.held_overwrite_other (hdistinct.ne hj)]
        exact h.single j
    · intro j o' ho
      rcases Trace.update_eq_some_iff.mp ho with ⟨-, hnew⟩ | ⟨hj, hold⟩
      · cases hnew
      · rw [Settled, finding_overwrite_other (hdistinct.ne hj)]
        exact h.due j o' hold

theorem Taken.done (t : Taken R desired plan w a r) (h : Done desired plan i w) :
    Done desired plan i r.1 := by
  cases t with
  | observed j keep outcome result calls =>
    refine ⟨h.settled, ?_⟩
    intro o ho
    rcases Trace.update_eq_some_iff.mp ho with ⟨rfl, hnew⟩ | ⟨-, hold⟩
    · obtain rfl := Option.some.inj hnew
      exact h.settled
    · exact h.due o hold
  | idle j due => exact h
  | kept j o outcome due mutation result calls =>
    refine ⟨h.settled, ?_⟩
    intro o' ho
    rcases Trace.update_eq_some_iff.mp ho with ⟨-, hnew⟩ | ⟨-, hold⟩
    · cases hnew
    · exact h.due o' hold
  | made j o outcome due mutation result calls =>
    -- The writing loop is another one, because nothing is left to change in this one.
    have hj : i ≠ j := by
      rintro rfl
      exact mutation (h.due o due)
    refine ⟨?_, ?_⟩
    · rw [Settled, finding_overwrite_other (hdistinct.ne hj)]
      exact h.settled
    · intro o' ho
      rcases Trace.update_eq_some_iff.mp ho with ⟨-, hnew⟩ | ⟨-, hold⟩
      · cases hnew
      · exact h.due o' hold

end Distinct

/-- A change that is due is either made now or was found to be needless. -/
theorem Taken.done_of_begun (t : Taken R desired plan w (.change i) r) (h : Sound desired plan w)
    (hb : Begun desired plan i w) : Done desired plan i r.1 := by
  cases t with
  | idle _ due =>
    cases hb with
    | inl hsome =>
      obtain ⟨o, ho⟩ := hsome
      rw [due] at ho
      cases ho
    | inr hdone => exact hdone
  | kept _ o outcome due mutation result calls =>
    exact ⟨(h.due i o due).2 mutation, fun o' ho => by simp at ho⟩
  | made _ o outcome due mutation result calls =>
    exact ⟨settled_overwrite_same (plan i) (desired i) w.catalog, fun o' ho => by simp at ho⟩

theorem Taken.begun_of_observe {keep : Bool}
    (t : Taken R desired plan w (.observe i keep) r) : Begun desired plan i r.1 := by
  cases t with
  | observed _ _ outcome result calls => exact .inl ⟨_, Function.update_self ..⟩

theorem Taken.begun (hdistinct : Function.Injective fun i => (desired i).target)
    (t : Taken R desired plan w a r) (h : Sound desired plan w) (hb : Begun desired plan i w) :
    Begun desired plan i r.1 := by
  by_cases ha : a = .change i
  · subst ha
    exact .inr (t.done_of_begun h hb)
  · cases hb with
    | inr hdone => exact .inr (t.done hdistinct hdone)
    | inl hdue =>
      left
      obtain ⟨o, ho⟩ := hdue
      cases t with
      | observed j keep outcome result calls =>
        by_cases hj : i = j
        · subst j
          exact ⟨_, Function.update_self ..⟩
        · exact ⟨o, by simpa [hj] using ho⟩
      | idle j due => exact ⟨o, ho⟩
      | kept j o' outcome due mutation result calls =>
        have hj : i ≠ j := by
          rintro rfl
          exact ha rfl
        exact ⟨o, by simpa [hj] using ho⟩
      | made j o' outcome due mutation result calls =>
        have hj : i ≠ j := by
          rintro rfl
          exact ha rfl
        exact ⟨o, by simpa [hj] using ho⟩

theorem Taken.succeeds (t : Taken R desired plan w a r) : ∀ e ∈ r.2, e.Succeeds := by
  intro e he
  cases t with
  | observed j keep outcome result calls =>
    obtain rfl : e = .observed j outcome := by simpa using he
    exact ⟨_, result⟩
  | idle j due => cases he
  | kept j o outcome due mutation result calls =>
    obtain rfl : e = .changed j outcome := by simpa using he
    exact result
  | made j o outcome due mutation result calls =>
    obtain rfl : e = .changed j outcome := by simpa using he
    exact result

theorem Taken.quiet (t : Taken R desired plan w a r) (h : Done desired plan i w) :
    ∀ e ∈ r.2, e.who = i → e.IsQuiet := by
  intro e he hi
  cases t with
  | observed j keep outcome result calls =>
    obtain rfl : e = .observed j outcome := by simpa using he
    obtain rfl : j = i := hi
    exact ⟨by simp [Event.sets, Event.calls, calls], _, result, h.settled⟩
  | idle j due => cases he
  | kept j o outcome due mutation result calls =>
    obtain rfl : e = .changed j outcome := by simpa using he
    exact ⟨by simp [Event.sets, Event.calls, calls], trivial⟩
  | made j o outcome due mutation result calls =>
    obtain rfl : e = .changed j outcome := by simpa using he
    obtain rfl : j = i := hi
    exact absurd (h.due o due) mutation

@[simp] theorem setsOf_singleton (i : ι) (e : Event ι) :
    setsOf i [e] = if e.who = i then e.sets else [] := by
  by_cases h : e.who = i <;> simp [setsOf, h]

/-- A step that sets something for an entitlement sets it once, and then nothing is left. -/
theorem Taken.setsOf (t : Taken R desired plan w a r) (h : Sound desired plan w) (i : ι) :
    setsOf i r.2 = [] ∨ (setsOf i r.2).length = 1 ∧ Done desired plan i r.1 := by
  cases t with
  | observed j keep outcome result calls =>
    left
    simp [Event.sets, Event.calls, calls]
  | idle j due => exact .inl rfl
  | kept j o outcome due mutation result calls =>
    left
    simp [Event.sets, Event.calls, calls]
  | made j o outcome due mutation result calls =>
    by_cases hj : j = i
    · subst j
      right
      refine ⟨by simp [Event.who, Event.sets, Event.calls, calls], ?_⟩
      exact (Taken.made i o outcome due mutation result calls).done_of_begun h (.inl ⟨o, due⟩)
    · left
      simp [Event.who, hj]

theorem setsOf_of_quiet {events : List (Event ι)} (h : ∀ e ∈ events, e.who = i → e.IsQuiet) :
    setsOf i events = [] := by
  rw [setsOf, List.flatMap_eq_nil_iff]
  intro e he
  rw [List.mem_filter, decide_eq_true_eq] at he
  exact (h e he.1 he.2).1

theorem setsOf_append (i : ι) (first second : List (Event ι)) :
    setsOf i (first ++ second) = setsOf i first ++ setsOf i second := by
  simp [setsOf]

section Runs

variable (hdistinct : Function.Injective fun i => (desired i).target)
include hdistinct

theorem Sound.step (h : Sound desired plan w) (a : Step ι) :
    Sound desired plan (step R desired w a).1 :=
  (h.taken a).sound hdistinct h

theorem Sound.run (h : Sound desired plan w) (steps : List (Step ι)) :
    Sound desired plan (Trace.run (Interleaving.step R desired) w steps).1 :=
  Trace.run_keeps (P := Sound desired plan) (fun _ a h => h.step hdistinct a) w h steps

theorem Sound.succeeds (h : Sound desired plan w) (steps : List (Step ι)) :
    ∀ e ∈ (Trace.run (Interleaving.step R desired) w steps).2, e.Succeeds :=
  Trace.run_emits (P := Sound desired plan) (fun _ a h => h.step hdistinct a)
    (fun _ a h => (h.taken a).succeeds) w h steps

theorem Done.quiet (hd : Done desired plan i w) (h : Sound desired plan w)
    (steps : List (Step ι)) :
    ∀ e ∈ (Trace.run (Interleaving.step R desired) w steps).2, e.who = i → e.IsQuiet :=
  Trace.run_emits (P := fun w => Sound desired plan w ∧ Done desired plan i w)
    (Q := fun e => e.who = i → e.IsQuiet)
    (fun _ a h => ⟨h.1.step hdistinct a, (h.1.taken a).done hdistinct h.2⟩)
    (fun _ a h => (h.1.taken a).quiet h.2) w ⟨h, hd⟩ steps

/-- A change is due from an observation on, until it is made or found to be needless. -/
theorem Sound.done_of_completed (h : Sound desired plan w) {steps : List (Step ι)}
    (hc : Completed i steps) :
    Done desired plan i (Trace.run (Interleaving.step R desired) w steps).1 := by
  obtain ⟨keep, hsub⟩ := hc
  obtain ⟨front, back, rfl, hobserve, hchange⟩ := List.cons_sublist_iff.mp hsub
  rw [Trace.run_append]
  have hfront := h.run (R := R) hdistinct front
  have hbegun : Begun desired plan i (Trace.run (Interleaving.step R desired) w front).1 :=
    Trace.run_reaches (P := Sound desired plan) (Q := Begun desired plan i)
      (fun _ a h => h.step hdistinct a)
      (fun _ a h hb => (h.taken a).begun hdistinct h hb)
      (fun _ h => (h.taken (.observe i keep)).begun_of_observe) w h hobserve
  exact Trace.run_reaches (P := fun w => Sound desired plan w ∧ Begun desired plan i w)
    (Q := Done desired plan i)
    (fun _ a h => ⟨h.1.step hdistinct a, (h.1.taken a).begun hdistinct h.1 h.2⟩)
    (fun _ a h hd => (h.1.taken a).done hdistinct hd)
    (fun _ h => (h.1.taken (.change i)).done_of_begun h.1 h.2) _ ⟨hfront, hbegun⟩
    (List.singleton_sublist.mp hchange)

theorem Sound.length_setsOf_le_one (h : Sound desired plan w) (i : ι) (steps : List (Step ι)) :
    (setsOf i (Trace.run (Interleaving.step R desired) w steps).2).length ≤ 1 := by
  induction steps generalizing w with
  | nil => simp [setsOf]
  | cons a rest ih =>
    have hnext := h.step (R := R) hdistinct a
    rw [Trace.run_cons, setsOf_append, List.length_append]
    cases (h.taken (R := R) a).setsOf h i with
    | inl hnone =>
      rw [hnone, List.length_nil, Nat.zero_add]
      exact ih hnext
    | inr hone =>
      rw [hone.1, setsOf_of_quiet (hone.2.quiet (R := R) hdistinct hnext rest)]
      simp

/-- Where nothing is left to change, the catalog stays. -/
theorem Sound.catalog_run_of_done (h : Sound desired plan w) (hd : ∀ i, Done desired plan i w)
    (steps : List (Step ι)) :
    (Trace.run (Interleaving.step R desired) w steps).1.catalog = w.catalog := by
  induction steps generalizing w with
  | nil => rfl
  | cons a rest ih =>
    have hsame : (Interleaving.step R desired w a).1.catalog = w.catalog := by
      have t := h.taken (R := R) a
      generalize Interleaving.step R desired w a = r at t
      cases t with
      | made j o outcome due mutation result calls => exact absurd ((hd j).due o due) mutation
      | _ => rfl
    rw [Trace.run_cons, ← hsame]
    exact ih (h.step hdistinct a) fun i => (h.taken a).done hdistinct (hd i)

end Runs

end PlanQuota.Interleaving
