import PlanQuota.Engine

/-!
What each operation of the engine does, said once: which calls it makes and how its result follows
from the answers. Everything about runs and sessions is proved from these equations.
-/
namespace PlanQuota

@[simp] theorem mapError_error {ε ε' α : Type} (f : ε → ε') (e : ε) :
    (Except.error e : Except ε α).mapError f = .error (f e) := rfl

@[simp] theorem mapError_ok {ε ε' α : Type} (f : ε → ε') (a : α) :
    (Except.ok a : Except ε α).mapError f = .ok a := rfl

/-- What an entitlement is about: a plan of a service, for an entity. -/
structure Target where
  service : String
  plan : String
  entity : String
  deriving DecidableEq, Repr

def Desired.target (d : Desired) : Target := ⟨d.service, d.plan, d.entity⟩

/-- An entitlement to a target, with or without an identifier and an amount. -/
def Target.desired (t : Target) (identifier : Option String) (amount : Option Int64) : Desired :=
  ⟨t.service, t.plan, identifier, t.entity, amount⟩

@[simp] theorem Target.target_desired (t : Target) (identifier : Option String)
    (amount : Option Int64) : (t.desired identifier amount).target = t := rfl

namespace Quota

theorem isSome_amount? (q : Quota) : q.amount?.isSome = q.isNumeric := by cases q <;> rfl

theorem isSome_enable? (q : Quota) : q.enable?.isSome = !q.isNumeric := by cases q <;> rfl

theorem removal_of_boolean {q : Quota} (h : q.isNumeric = false) : q.removal = .enabled false := by
  cases q with
  | numeric n => cases h
  | enabled b => rfl

/-- An established quota fixes the kind of the resolved one. -/
@[simp] theorem isNumeric_resolve (plan : EntitledPlan) (desired : Desired) (q : Quota) :
    (resolve plan desired (some q)).isNumeric = q.isNumeric := by
  cases q <;> rfl

theorem derive_of_unlimited {plan : EntitledPlan} {desired : Desired}
    (h : plan.unlimited = true ∨ desired.amount = none) : derive plan desired = .enabled true := by
  cases ha : desired.amount with
  | none => simp [derive, ha]
  | some n =>
    have hu : plan.unlimited = true := by simpa [ha] using h
    simp [derive, ha, isBounded, hu]

theorem derive_of_limited {plan : EntitledPlan} {desired : Desired} {n : Int64}
    (hu : plan.unlimited = false) (ha : desired.amount = some n) :
    derive plan desired = .numeric n := by
  simp [derive, ha, isBounded, hu]

/-- A derived quota that counts as established is resolved to itself. -/
@[simp] theorem resolve_derive (plan : EntitledPlan) (desired : Desired) :
    resolve plan desired (some (derive plan desired)) = derive plan desired := by
  by_cases hd : plan.unlimited = true ∨ desired.amount = none
  · rw [derive_of_unlimited hd]
    rfl
  · rw [not_or] at hd
    cases ha : desired.amount with
    | none => exact absurd ha hd.2
    | some n =>
      rw [derive_of_limited (by simpa using hd.1) ha]
      simp [resolve, ha]

end Quota

namespace SetRequest

/-- Every grant of a request, whatever plan it is for. -/
def grants (r : SetRequest) : List EntityGrant := r.plans.flatMap (·.grants)

@[simp] theorem grants_ofQuota (desired : Desired) (q : Quota) :
    (ofQuota desired q).grants = [⟨desired.entity, q.amount?, q.enable?⟩] := rfl

end SetRequest

namespace Engine

variable {σ : Type} (remote : Remote σ) (desired : Desired) (s : σ)

theorem inspect_eq_ok_iff {catalog : Catalog} {established : Option Quota} {o : Observation} :
    inspect catalog desired established = .ok o ↔
      ∃ plan assignment,
        catalog.entitledPlan desired.service desired.plan = .ok plan ∧
        catalog.assignment desired.service desired.plan desired.planIdentifier desired.entity =
          .ok assignment ∧
        o = ⟨⟨plan, assignment⟩, Quota.resolve plan desired established⟩ := by
  unfold inspect
  cases catalog.entitledPlan desired.service desired.plan with
  | error failure => simp [bind, Except.bind]
  | ok plan =>
    cases catalog.assignment desired.service desired.plan desired.planIdentifier
        desired.entity with
    | error failure => simp [bind, Except.bind]
    | ok assignment => simp [bind, Except.bind, pure, Except.pure, eq_comm]

theorem observe_result (established : Option Quota) :
    (observe remote desired established s).result =
      ((remote.read desired.entity desired.service s).result.mapError (readFailure desired)).bind
        fun catalog => inspect catalog desired established := by
  simp only [observe]
  cases (remote.read desired.entity desired.service s).result with
  | error failure => rfl
  | ok catalog => rfl

theorem observe_eq_ok_iff {established : Option Quota} {o : Observation} :
    (observe remote desired established s).result = .ok o ↔
      ∃ catalog, (remote.read desired.entity desired.service s).result = .ok catalog ∧
        inspect catalog desired established = .ok o := by
  rw [observe_result]
  cases (remote.read desired.entity desired.service s).result with
  | error failure => simp [Except.bind]
  | ok catalog => simp [Except.bind]

/-- The quota of an observation is the established one, renewed. -/
theorem required_of_observe {established : Option Quota} {o : Observation}
    (h : (observe remote desired established s).result = .ok o) :
    o.required = Quota.resolve o.state.plan desired established := by
  obtain ⟨catalog, -, hi⟩ := (observe_eq_ok_iff remote desired s).mp h
  obtain ⟨plan, assignment, -, -, rfl⟩ := (inspect_eq_ok_iff desired).mp hi
  rfl

@[simp] theorem observe_calls (established : Option Quota) :
    (observe remote desired established s).calls = [.read desired.entity desired.service] := by
  simp only [observe]
  cases (remote.read desired.entity desired.service s).result <;> rfl

@[simp] theorem observe_state (established : Option Quota) :
    (observe remote desired established s).state =
      (remote.read desired.entity desired.service s).state := by
  simp only [observe]
  cases (remote.read desired.entity desired.service s).result <;> rfl

@[simp] theorem update_calls (q : Quota) :
    (update remote desired q s).calls = [.set (SetRequest.ofQuota desired q)] := rfl

@[simp] theorem create_eq_update (q : Quota) :
    create remote desired q s = update remote desired q s := rfl

variable {observed : Observation} {siblings : Nat}

theorem delete_of_absent (h : observed.state.assignment = none) :
    (delete remote desired observed siblings s).result = .ok .alreadyAbsent ∧
      (delete remote desired observed siblings s).calls = [] := by
  simp [delete, h]

theorem delete_of_shared (ha : observed.state.assignment.isSome = true)
    (hq : observed.required.isNumeric = false) (hs : 1 < siblings) :
    (delete remote desired observed siblings s).result = .ok .shared ∧
      (delete remote desired observed siblings s).calls = [] := by
  have hn : observed.state.assignment.isNone = false := by simpa using ha
  simp [delete, hn, hq, hs]

/-- Otherwise the removal is set, and its answer decides the result. -/
theorem delete_of_removal (ha : observed.state.assignment.isSome = true)
    (h : observed.required.isNumeric = true ∨ siblings ≤ 1) :
    (delete remote desired observed siblings s).result =
        (update remote desired observed.required.removal s).result.map
          (fun _ => .revoked observed.required.removal) ∧
      (delete remote desired observed siblings s).calls =
        [.set (SetRequest.ofQuota desired observed.required.removal)] := by
  have hn : observed.state.assignment.isNone = false := by simpa using ha
  have hs : ¬(observed.required.isNumeric = false ∧ 1 < siblings) := by
    rintro ⟨hq, hlt⟩
    cases h with
    | inl hq' => rw [hq] at hq'; cases hq'
    | inr hle => omega
  simp [delete, hn, hs]

/-- A delete that calls at all sets the removal of what was observed. -/
theorem mem_delete_calls {call : Call}
    (h : call ∈ (delete remote desired observed siblings s).calls) :
    call = .set (SetRequest.ofQuota desired observed.required.removal) := by
  cases ha : observed.state.assignment with
  | none => simp [(delete_of_absent remote desired s ha).2] at h
  | some a =>
    have ha' : observed.state.assignment.isSome = true := by simp [ha]
    by_cases hr : observed.required.isNumeric = true ∨ siblings ≤ 1
    · simpa [(delete_of_removal remote desired s ha' hr).2] using h
    · rw [not_or] at hr
      have hq : observed.required.isNumeric = false := by simpa using hr.1
      have hs : 1 < siblings := by omega
      simp [(delete_of_shared remote desired s ha' hq hs).2] at h

end Engine
end PlanQuota
