import PlanQuota.CommandLine
import PlanQuota.Proofs.AmountText
import PlanQuota.Proofs.Delivery
import PlanQuota.Proofs.Operations

/-!
What a run of the command does to the service. It calls nothing unless its arguments and the
environment are complete. Then it reads once, and sets at most once: the quota that is due after the
answer to the read, for the entity, service and plan that the arguments name.
-/
namespace PlanQuota.CommandLine

open Http (Client Link Peer Texts)

/-- The arguments after the plan give an amount, or none. Those after the first do not count. -/
inductive Given : List String → Option Int64 → Prop
  | absent : Given [] none
  | spelled {text : String} {n : Int64} (h : AmountText.Spells text n) (more : List String) :
      Given (text :: more) (some n)

variable {map : Host.Mapping} {texts : Texts}

/-- The arguments name the entitlement, and the environment describes the client. -/
structure Ready (map : Host.Mapping) (texts : Texts) (args : List String) (e : Environment)
    (d : Desired) (c : Client) : Prop where
  arguments : ∃ rest, args = d.entity :: d.service :: d.plan :: rest ∧ Given rest d.amount
  identifier : d.planIdentifier = none
  client : client? map texts e = .ok c

theorem amount?_eq_ok_iff {rest : List String} {amount : Option Int64} :
    amount? rest = .ok amount ↔ Given rest amount := by
  cases rest with
  | nil =>
    simp only [amount?, Except.ok.injEq]
    constructor
    · rintro rfl
      exact .absent
    · intro h
      cases h
      rfl
  | cons text more =>
    simp only [amount?]
    constructor
    · intro h
      cases hp : AmountText.parse text with
      | ok n =>
        rw [hp] at h
        cases h
        exact .spelled (AmountText.parse_eq_ok_iff.mp hp) more
      | error fault =>
        rw [hp] at h
        cases h
    · intro h
      cases h with
      | spelled hn => rw [AmountText.parse_eq_ok_iff.mpr hn]

theorem run_of_ready {args : List String} {e : Environment} {d : Desired} {c : Client}
    (h : Ready map texts args e d c) (l : Link) :
    run map texts args e l = observeAndConverge c.remote d l := by
  obtain ⟨⟨rest, rfl, hrest⟩, hidentifier, hclient⟩ := h
  obtain ⟨service, plan, identifier, entity, amount⟩ := d
  cases hidentifier
  simp only [run, hclient, amount?_eq_ok_iff.mpr hrest]
  rfl

/-- Otherwise the run ends with a line and leaves the connection as it was. -/
theorem run_of_not_ready {args : List String} {e : Environment}
    (h : ∀ d c, ¬Ready map texts args e d c) (l : Link) :
    ∃ line, run map texts args e l = .idle line l := by
  unfold run
  split
  · next entity service plan rest =>
    cases hclient : client? map texts e with
    | error failure => exact ⟨_, rfl⟩
    | ok c =>
      cases hrest : amount? rest with
      | error message => exact ⟨_, rfl⟩
      | ok amount =>
        exact absurd ⟨⟨rest, rfl, amount?_eq_ok_iff.mp hrest⟩, rfl, hclient⟩
          (h ⟨service, plan, none, entity, amount⟩ c)
  · exact ⟨_, rfl⟩

/-- The quota to be set after the answer to the read: a success with a catalog in which the plan and
the assignment are found, and in which the assignment is not yet as it has to be. -/
def Due (c : Client) (d : Desired) (peer : Peer) (q : Quota) : Prop :=
  (c.outgoing? (.read d.entity d.service)).isSome = true ∧
  ∃ status body replies catalog plan assignment,
    peer = .scripted (.answer status body :: replies) ∧ (200 ≤ status ∧ status ≤ 299) ∧
    Catalog.ofBytes? body = some catalog ∧
    catalog.entitledPlan d.service d.plan = .ok plan ∧
    catalog.assignment d.service d.plan d.planIdentifier d.entity = .ok assignment ∧
    (Observation.mk ⟨plan, assignment⟩ q).mutation ≠ .none ∧
    (∀ n, plan.unlimited = false → d.amount = some n → q = .numeric n) ∧
    (plan.unlimited = true ∨ d.amount = none → q = .enabled true)

/-- The derived quota is the amount if there is one and the plan is limited, and the flag if not. -/
theorem eq_derive_iff {plan : EntitledPlan} {d : Desired} {q : Quota} :
    q = Quota.derive plan d ↔
      (∀ n, plan.unlimited = false → d.amount = some n → q = .numeric n) ∧
      (plan.unlimited = true ∨ d.amount = none → q = .enabled true) := by
  constructor
  · rintro rfl
    exact ⟨fun n hu ha => Quota.derive_of_limited hu ha, Quota.derive_of_unlimited⟩
  · rintro ⟨hlimited, hunlimited⟩
    by_cases h : plan.unlimited = true ∨ d.amount = none
    · rw [hunlimited h, Quota.derive_of_unlimited h]
    · rw [not_or] at h
      have hu : plan.unlimited = false := by simpa using h.1
      cases ha : d.amount with
      | none => exact absurd ha h.2
      | some n => rw [hlimited n hu ha, Quota.derive_of_limited hu ha]

/-- It is the required quota of an observation that asks for a change. -/
theorem due_iff {c : Client} {d : Desired} {peer : Peer} {q : Quota} :
    Due c d peer q ↔ ∃ o, (Engine.observe c.remote d none (Link.new peer)).result = .ok o ∧
      o.mutation ≠ .none ∧ o.required = q := by
  simp only [Due, ← eq_derive_iff, Engine.observe_eq_ok_iff, Engine.inspect_eq_ok_iff]
  constructor
  · rintro ⟨hleaves, status, body, replies, catalog, plan, assignment, hpeer, hstatus, hbody, hplan,
      hassignment, hmutation, rfl⟩
    exact ⟨_, ⟨catalog, Client.read_eq_ok_iff.mpr ⟨hleaves, status, body, replies, hpeer, hstatus,
      hbody⟩, plan, assignment, hplan, hassignment, rfl⟩, hmutation, rfl⟩
  · rintro ⟨o, ⟨catalog, hread, plan, assignment, hplan, hassignment, rfl⟩, hmutation, rfl⟩
    obtain ⟨hleaves, status, body, replies, hpeer, hstatus, hbody⟩ := Client.read_eq_ok_iff.mp hread
    exact ⟨hleaves, status, body, replies, catalog, plan, assignment, hpeer, hstatus, hbody, hplan,
      hassignment, hmutation, rfl⟩

/-- The calls after the read. -/
def changes (d : Desired) (o : Observation) : List Call :=
  if o.mutation = .none then [] else [.set (SetRequest.ofQuota d o.required)]

theorem converge_calls (c : Client) (d : Desired) (o : Observation) (l : Link) :
    (converge c.remote d o l).calls = changes d o ∧
      (converge c.remote d o l).link = (changes d o).foldl c.transmit l := by
  have hset := c.set_link (SetRequest.ofQuota d o.required) l
  unfold converge changes
  cases o.mutation with
  | assign => exact ⟨rfl, hset⟩
  | update => exact ⟨rfl, hset⟩
  | none => exact ⟨rfl, rfl⟩

theorem observeAndConverge_link (c : Client) (d : Desired) (l : Link) :
    (observeAndConverge c.remote d l).link =
      (observeAndConverge c.remote d l).calls.foldl c.transmit l := by
  have hread : (Engine.observe c.remote d none l).state =
      (Engine.observe c.remote d none l).calls.foldl c.transmit l := by
    rw [Engine.observe_calls, Engine.observe_state]
    exact c.read_link d.entity d.service l
  unfold observeAndConverge
  cases hresult : (Engine.observe c.remote d none l).result with
  | error failure => simpa only [hresult] using hread
  | ok o =>
    have hlater := converge_calls c d o (Engine.observe c.remote d none l).state
    simp only [hresult, List.foldl_append, ← hread, hlater]

/-- After the read comes the change that is due. -/
theorem observeAndConverge_calls (c : Client) (d : Desired) (peer : Peer) :
    (∀ q, ¬Due c d peer q) ∧
        (observeAndConverge c.remote d (Link.new peer)).calls = [.read d.entity d.service] ∨
      ∃ q, Due c d peer q ∧ (observeAndConverge c.remote d (Link.new peer)).calls =
        [.read d.entity d.service, .set (SetRequest.ofQuota d q)] := by
  unfold observeAndConverge
  simp only [due_iff]
  cases hresult : (Engine.observe c.remote d none (Link.new peer)).result with
  | error failure =>
    left
    refine ⟨?_, by simp only [Engine.observe_calls]⟩
    rintro q ⟨o, ho, -⟩
    cases ho
  | ok o =>
    have hlater := converge_calls c d o (Engine.observe c.remote d none (Link.new peer)).state
    simp only [Engine.observe_calls, hlater, changes]
    by_cases hm : o.mutation = .none
    · left
      refine ⟨?_, by rw [if_pos hm]; rfl⟩
      rintro q ⟨o', ho, hm', -⟩
      cases ho
      exact hm' hm
    · exact .inr ⟨o.required, ⟨o, rfl, hm, rfl⟩, by rw [if_neg hm]; rfl⟩

end PlanQuota.CommandLine
