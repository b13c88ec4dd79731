import PlanQuota.Memory
import PlanQuota.Proofs.Operations
import PlanQuota.Proofs.Trace

/-!
An entitlement over its lifetime. A control loop observes it in one pass after another; catalogs
come and go between the passes, reads fail, and the caller may desire something else each time. The
first success decides whether the quota is bounded or only switched on. That never changes, and the
amount of a bounded one is the last that a success was given.
-/
namespace PlanQuota.Lifetime

variable {σ : Type}

/-- What is desired in a pass, and the state in which the pass finds the remote side. -/
structure Pass (σ : Type) where
  desired : Desired
  state : σ

/-- What a pass found. -/
structure Finding where
  desired : Desired
  result : Except Failure Observation

/-- A pass goes on from the quota of the last success, if there was one. -/
def pass (remote : Remote σ) (established : Option Quota) (p : Pass σ) :
    Option Quota × List Finding :=
  let result := (Engine.observe remote p.desired established p.state).result
  (match result with
    | .ok o => some o.required
    | .error _ => established,
    [⟨p.desired, result⟩])

/-- What the passes of a lifetime found, one finding for each. -/
def findings (remote : Remote σ) (passes : List (Pass σ)) : List Finding :=
  (Trace.run (pass remote) none passes).2

/-- The amount that a success was given. -/
def Finding.given? (f : Finding) : Option Int64 := if f.result.isOk then f.desired.amount else none

/-- The last amount that a success was given. -/
def lastGiven? (fs : List Finding) : Option Int64 := (fs.filterMap Finding.given?).getLast?

theorem lastGiven?_cons_of_given {f : Finding} {a : Int64} (h : f.given? = some a)
    (fs : List Finding) : lastGiven? (f :: fs) = some ((lastGiven? fs).getD a) := by
  simp [lastGiven?, h, List.getLast?_cons]

theorem lastGiven?_cons (f : Finding) (fs : List Finding) (n : Int64) :
    (lastGiven? (f :: fs)).getD n = (lastGiven? fs).getD (f.given?.getD n) := by
  cases hg : f.given? with
  | none => simp [lastGiven?, hg]
  | some a => simp [lastGiven?_cons_of_given hg]

@[simp] theorem lastGiven?_failed (d : Desired) (failure : Failure) (fs : List Finding) :
    lastGiven? (⟨d, .error failure⟩ :: fs) = lastGiven? fs := rfl

/-- Findings in which each success renews the quota of the success before it. -/
inductive Linked : Option Quota → List Finding → Prop
  | nil (established : Option Quota) : Linked established []
  | failed {established : Option Quota} {fs : List Finding} (d : Desired) (failure : Failure)
      (later : Linked established fs) : Linked established (⟨d, .error failure⟩ :: fs)
  | found {established : Option Quota} {fs : List Finding} (d : Desired) (o : Observation)
      (renewed : o.required = Quota.resolve o.state.plan d established)
      (later : Linked (some o.required) fs) : Linked established (⟨d, .ok o⟩ :: fs)

theorem linked_run (remote : Remote σ) (established : Option Quota) (passes : List (Pass σ)) :
    Linked established (Trace.run (pass remote) established passes).2 := by
  induction passes generalizing established with
  | nil => exact .nil established
  | cons p rest ih =>
    cases hr : (Engine.observe remote p.desired established p.state).result with
    | error failure =>
      simpa [pass, hr] using Linked.failed p.desired failure (ih established)
    | ok o =>
      have hq := Engine.required_of_observe remote p.desired p.state hr
      simpa [pass, hr] using Linked.found p.desired o hq (ih (some o.required))

theorem linked_findings (remote : Remote σ) (passes : List (Pass σ)) :
    Linked none (findings remote passes) := linked_run remote none passes

/-- Once switched on, an entitlement stays of that kind. -/
theorem Linked.enabled {b : Bool} {fs : List Finding} (h : Linked (some (.enabled b)) fs) :
    ∀ f ∈ fs, ∀ o, f.result = .ok o → o.required = .enabled true := by
  induction fs generalizing b with
  | nil => simp
  | cons f rest ih =>
    intro g hg o ho
    cases h with
    | failed d failure later =>
      rcases List.mem_cons.mp hg with rfl | hg
      · cases ho
      · exact ih later g hg o ho
    | found d o₁ renewed later =>
      have hq : o₁.required = .enabled true := renewed
      rcases List.mem_cons.mp hg with rfl | hg
      · cases ho
        exact hq
      · rw [hq] at later
        exact ih later g hg o ho

/-- Once bounded by an amount, an entitlement is bounded by the last amount given. -/
theorem Linked.numeric {n : Int64} {fs : List Finding} (h : Linked (some (.numeric n)) fs) :
    ∀ (j : Nat) (f : Finding) (o : Observation), fs[j]? = some f → f.result = .ok o →
      o.required = .numeric ((lastGiven? (fs.take (j + 1))).getD n) := by
  induction fs generalizing n with
  | nil => simp
  | cons f rest ih =>
    intro j g o hj ho
    cases h with
    | failed d failure later =>
      cases j with
      | zero =>
        obtain rfl : ⟨d, .error failure⟩ = g := by simpa using hj
        cases ho
      | succ j =>
        rw [List.take_succ_cons, lastGiven?_failed]
        exact ih later j g o (by simpa using hj) ho
    | found d o₁ renewed later =>
      have hq : o₁.required = .numeric (d.amount.getD n) := renewed
      have hg : Finding.given? ⟨d, .ok o₁⟩ = d.amount := rfl
      rw [List.take_succ_cons, lastGiven?_cons, hg]
      cases j with
      | zero =>
        obtain rfl : ⟨d, .ok o₁⟩ = g := by simpa using hj
        cases ho
        exact hq
      | succ j =>
        rw [hq] at later
        exact ih later j g o (by simpa using hj) ho

/-- A front that holds failures only. -/
def FailsBefore (fs : List Finding) (i : Nat) : Prop :=
  ∀ k f, k < i → fs[k]? = some f → f.result.isOk = false

/-- Failures at the front decide nothing. -/
theorem Linked.drop_failures {established : Option Quota} {fs : List Finding}
    (h : Linked established fs) {i : Nat} (hi : FailsBefore fs i) :
    Linked established (fs.drop i) := by
  induction i generalizing fs with
  | zero => simpa using h
  | succ i ih =>
    cases h with
    | nil => simpa using Linked.nil established
    | failed d failure later =>
      rw [List.drop_succ_cons]
      exact ih later fun k f hk hf => hi (k + 1) f (by omega) (by simpa using hf)
    | found d o renewed later =>
      have := hi 0 ⟨d, .ok o⟩ (by omega) (by simp)
      cases this

theorem lastGiven?_take_add {fs : List Finding} {i : Nat} (hi : FailsBefore fs i) (m : Nat) :
    lastGiven? (fs.take (i + m)) = lastGiven? ((fs.drop i).take m) := by
  have hnone : (fs.take i).filterMap Finding.given? = [] := by
    rw [List.filterMap_eq_nil_iff]
    intro f hf
    obtain ⟨k, hk, hkf⟩ := List.mem_iff_getElem.mp hf
    rw [List.length_take] at hk
    have hfail := hi k f (by omega) (by
      rw [← hkf, List.getElem_take, List.getElem?_eq_getElem])
    simp [Finding.given?, hfail]
  simp [lastGiven?, List.take_add, hnone]

/-- The success that decides the kind of the quota. -/
structure FirstSuccess (fs : List Finding) (i : Nat) (d : Desired) (o : Observation) : Prop where
  found : fs[i]? = some ⟨d, .ok o⟩
  earlier : FailsBefore fs i

namespace FirstSuccess

variable {fs : List Finding} {i : Nat} {d : Desired} {o : Observation}

theorem drop_eq (h : FirstSuccess fs i d o) : fs.drop i = ⟨d, .ok o⟩ :: fs.drop (i + 1) := by
  obtain ⟨hlt, hget⟩ := List.getElem?_eq_some_iff.mp h.found
  rw [List.drop_eq_getElem_cons hlt, hget]

/-- The first success classifies, and those after it are linked to it. -/
theorem linked (h : FirstSuccess fs i d o) (hl : Linked none fs) :
    o.required = Quota.derive o.state.plan d ∧ Linked (some o.required) (fs.drop (i + 1)) := by
  have hi := hl.drop_failures h.earlier
  rw [h.drop_eq] at hi
  cases hi with
  | found _ _ renewed later => exact ⟨renewed, later⟩

/-- Every success stands where the first one does, or behind it. -/
theorem exists_add (h : FirstSuccess fs i d o) {j : Nat} {f : Finding} {o' : Observation}
    (hj : fs[j]? = some f) (hf : f.result = .ok o') :
    ∃ m, j = i + m ∧ (⟨d, .ok o⟩ :: fs.drop (i + 1))[m]? = some f := by
  by_cases hlt : j < i
  · have := h.earlier j f hlt hj
    rw [hf] at this
    cases this
  · refine ⟨j - i, by omega, ?_⟩
    rw [← h.drop_eq, List.getElem?_drop, ← hj]
    congr 1
    omega

theorem enabled (h : FirstSuccess fs i d o) (hl : Linked none fs)
    (hd : o.state.plan.unlimited = true ∨ d.amount = none) :
    ∀ f ∈ fs, ∀ o', f.result = .ok o' → o'.required = .enabled true := by
  obtain ⟨hq, later⟩ := h.linked hl
  rw [Quota.derive_of_unlimited hd] at hq
  rw [hq] at later
  intro f hf o' ho
  obtain ⟨j, hj⟩ := List.mem_iff_getElem?.mp hf
  obtain ⟨m, -, hm⟩ := h.exists_add hj ho
  cases m with
  | zero =>
    obtain rfl : ⟨d, .ok o⟩ = f := by simpa using hm
    cases ho
    exact hq
  | succ m => exact later.enabled f (List.mem_of_getElem? (by simpa using hm)) o' ho

theorem numeric (h : FirstSuccess fs i d o) (hl : Linked none fs)
    (hu : o.state.plan.unlimited = false) {n : Int64} (hd : d.amount = some n) :
    ∀ (j : Nat) (f : Finding) (o' : Observation), fs[j]? = some f → f.result = .ok o' →
      ∃ a, lastGiven? (fs.take (j + 1)) = some a ∧ o'.required = .numeric a := by
  obtain ⟨hq, later⟩ := h.linked hl
  rw [Quota.derive_of_limited hu hd] at hq
  rw [hq] at later
  have hg : Finding.given? ⟨d, .ok o⟩ = some n := hd
  intro j f o' hj ho
  obtain ⟨m, rfl, hm⟩ := h.exists_add hj ho
  rw [Nat.add_assoc, lastGiven?_take_add h.earlier, h.drop_eq, List.take_succ_cons,
    lastGiven?_cons_of_given hg]
  refine ⟨_, rfl, ?_⟩
  cases m with
  | zero =>
    obtain rfl : ⟨d, .ok o⟩ = f := by simpa using hm
    cases ho
    exact hq
  | succ m => exact later.numeric m f o' (by simpa using hm) ho

/-- The kind of the first success is the kind of all. -/
theorem isNumeric_eq (h : FirstSuccess fs i d o) (hl : Linked none fs) :
    ∀ f ∈ fs, ∀ o', f.result = .ok o' → o'.required.isNumeric = o.required.isNumeric := by
  intro f hf o' ho
  obtain ⟨hq, -⟩ := h.linked hl
  by_cases hd : o.state.plan.unlimited = true ∨ d.amount = none
  · rw [hq, Quota.derive_of_unlimited hd, h.enabled hl hd f hf o' ho]
  · rw [not_or] at hd
    have hu : o.state.plan.unlimited = false := by simpa using hd.1
    obtain ⟨n, hn⟩ := Option.ne_none_iff_exists'.mp hd.2
    obtain ⟨j, hj⟩ := List.mem_iff_getElem?.mp hf
    obtain ⟨a, -, ha⟩ := h.numeric hl hu hn j f o' hj ho
    rw [hq, Quota.derive_of_limited hu hn, ha]
    rfl

end FirstSuccess

/-- The requests that an observation leads to: they set what it requires or take that back, for
whatever is desired by then and wherever they are sent. -/
inductive Requested {τ : Type} (remote : Remote τ) (o : Observation) (r : SetRequest) : Prop
  | create (d : Desired) (t : τ) (h : .set r ∈ (Engine.create remote d o.required t).calls)
  | update (d : Desired) (t : τ) (h : .set r ∈ (Engine.update remote d o.required t).calls)
  | delete (d : Desired) (siblings : Nat) (t : τ)
      (h : .set r ∈ (Engine.delete remote d o siblings t).calls)

/-- A request carries the field of the quota's kind, and only that. -/
theorem Requested.fields {τ : Type} {remote : Remote τ} {o : Observation} {r : SetRequest}
    (h : Requested remote o r) :
    ∃ g, r.grants = [g] ∧ g.amount.isSome = o.required.isNumeric ∧
      g.enable.isSome = !o.required.isNumeric := by
  have fields (d : Desired) (q : Quota) (hq : q.isNumeric = o.required.isNumeric)
      (hr : r = SetRequest.ofQuota d q) : ∃ g, r.grants = [g] ∧
        g.amount.isSome = o.required.isNumeric ∧ g.enable.isSome = !o.required.isNumeric := by
    subst hr
    refine ⟨_, SetRequest.grants_ofQuota d q, ?_, ?_⟩
    · rw [Quota.isSome_amount?, hq]
    · rw [Quota.isSome_enable?, hq]
  cases h with
  | create d t h => exact fields d o.required rfl (by simpa using h)
  | update d t h => exact fields d o.required rfl (by simpa using h)
  | delete d siblings t h =>
    have he := Engine.mem_delete_calls remote d t h
    exact fields d o.required.removal (Quota.isNumeric_removal _) (by simpa using he)

theorem desired_findings (remote : Remote σ) (passes : List (Pass σ)) :
    (findings remote passes).map (·.desired) = passes.map (·.desired) :=
  Trace.run_labels Finding.desired Pass.desired (fun _ _ => rfl) none passes

/-- Let `first` be the first success of any lifetime. If its plan is unlimited or it was given no
amount, every success requires the entitlement to be switched on. Otherwise every success requires
the last amount that a success was given by then. So all requests carry the same field. -/
theorem kind_fixed_and_last_amount_wins (remote : Remote σ) (passes : List (Pass σ)) {i : Nat}
    {d : Desired} {first : Observation}
    (h : FirstSuccess (findings remote passes) i d first) :
    (findings remote passes).map (·.desired) = passes.map (·.desired) ∧
    (first.state.plan.unlimited = true ∨ d.amount = none →
      ∀ f ∈ findings remote passes, ∀ o, f.result = .ok o → o.required = .enabled true) ∧
    (first.state.plan.unlimited = false → d.amount ≠ none →
      ∀ (j : Nat) (f : Finding) (o : Observation), (findings remote passes)[j]? = some f →
        f.result = .ok o → i ≤ j ∧ ∃ a,
          lastGiven? ((findings remote passes).take (j + 1)) = some a ∧
          o.required = .numeric a) ∧
    ∃ numeric : Bool, ∀ f ∈ findings remote passes, ∀ o, f.result = .ok o →
      ∀ {τ : Type} (other : Remote τ) (r : SetRequest), Requested other o r →
        ∃ g, r.grants = [g] ∧ g.amount.isSome = numeric ∧ g.enable.isSome = !numeric := by
  have hl := linked_findings remote passes
  refine ⟨desired_findings remote passes, h.enabled hl, ?_, first.required.isNumeric, ?_⟩
  · intro hu hd j f o hj ho
    obtain ⟨n, hn⟩ := Option.ne_none_iff_exists'.mp hd
    obtain ⟨m, hm, -⟩ := h.exists_add hj ho
    exact ⟨by omega, h.numeric hl hu hn j f o hj ho⟩
  · intro f hf o ho τ other r hr
    have hk := h.isNumeric_eq hl f hf o ho
    obtain ⟨g, hg, ha, he⟩ := hr.fields
    exact ⟨g, hg, by rw [ha, hk], by rw [he, hk]⟩

/-- A read fails, an amount is given, a read fails again, and then the plan has become unlimited
and no amount is given any more. -/
theorem amount_kept_when_plan_turns_unlimited :
    let catalog (unlimited : Bool) : Catalog :=
      ⟨[⟨"xsuaa", none, [⟨"application", none, none, none, unlimited, none⟩]⟩], []⟩
    let failing : Memory := ⟨catalog false, some .multipleAssignments, none⟩
    let desired (amount : Option Int64) : Desired :=
      ⟨"xsuaa", "application", none, "sa-1", amount⟩
    let fs := findings Memory.remote [⟨desired (some 9), failing⟩,
      ⟨desired (some 3), .new (catalog false)⟩, ⟨desired (some 5), failing⟩,
      ⟨desired none, .new (catalog true)⟩]
    ∃ f o, fs[3]? = some f ∧ f.result = .ok o ∧ o.state.plan.unlimited = true ∧
      o.required = .numeric 3 := by
  intro catalog failing desired fs
  have hfirst : FirstSuccess fs 1 (desired (some 3))
      ⟨⟨⟨"application", none, none, none, false, none⟩, none⟩, .numeric 3⟩ := by
    refine ⟨rfl, ?_⟩
    intro k f hk hf
    obtain rfl : k = 0 := by omega
    cases hf
    rfl
  obtain ⟨-, -, hnumeric, -⟩ := kind_fixed_and_last_amount_wins Memory.remote _ hfirst
  obtain ⟨-, a, ha, hq⟩ := hnumeric rfl (by simp [desired]) 3 _ _ rfl rfl
  obtain rfl : 3 = a := Option.some.inj (ha ▸ rfl : some 3 = some a)
  exact ⟨_, _, rfl, rfl, rfl, hq⟩

end PlanQuota.Lifetime
