import PlanQuota.Memory
import PlanQuota.Proofs.Lookup
import PlanQuota.Proofs.Operations

/-!
Which of its outcomes an observation has, when more than one thing is wrong. A failed read hides the
rest; after it count the service, the plan, and last the records of the entity. The plan is looked
up among those that can be ordered and the records among those that are assigned, so a plan that
cannot be ordered hides what is wrong with its records, and a missing record is never a failure.
-/
namespace PlanQuota

namespace Catalog

variable {c : Catalog} {service plan : String} {identifier : Option String} {entity : String}

/-- The service and the plan that count among those that can be ordered. -/
structure Offers (c : Catalog) (service plan : String) (s : EntitledService) (p : EntitledPlan) :
    Prop where
  service : IsFirst c.entitled (·.name = service) s
  plan : IsFirst s.plans (·.name = plan) p

theorem entitledPlan_of_no_service (h : ∀ s ∈ c.entitled, s.name ≠ service) :
    c.entitledPlan service plan = .error (.serviceNotFound service) := by
  have hfind := (find?_eq_none_iff_forall (fun s : EntitledService =>
    decide_eq_true_iff (p := s.name = service))).mpr h
  simp only [entitledPlan, hfind]

theorem entitledPlan_of_no_plan {s : EntitledService}
    (hs : IsFirst c.entitled (·.name = service) s) (h : ∀ p ∈ s.plans, p.name ≠ plan) :
    c.entitledPlan service plan = .error (.planNotFound plan) := by
  have hfind := (find?_eq_some_iff_isFirst (fun _ => decide_eq_true_iff)).mpr hs
  have hplan := (find?_eq_none_iff_forall (fun p : EntitledPlan =>
    decide_eq_true_iff (p := p.name = plan))).mpr h
  simp only [entitledPlan, hfind, hplan]

theorem entitledPlan_of_offers {s : EntitledService} {p : EntitledPlan}
    (h : c.Offers service plan s p) : c.entitledPlan service plan = .ok p :=
  entitledPlan_eq_ok_iff.mpr ⟨s, h.service, h.plan⟩

/-- The three ways in which the search for a plan can end. -/
theorem offers_or_absent (c : Catalog) (service plan : String) :
    (∀ s ∈ c.entitled, s.name ≠ service) ∨
    (∃ s, IsFirst c.entitled (·.name = service) s ∧ ∀ p ∈ s.plans, p.name ≠ plan) ∨
    ∃ s p, c.Offers service plan s p := by
  cases hs : c.entitled.find? (·.name = service) with
  | none => exact .inl ((find?_eq_none_iff_forall (fun _ => decide_eq_true_iff)).mp hs)
  | some s =>
    have hfirst := (find?_eq_some_iff_isFirst (fun _ => decide_eq_true_iff)).mp hs
    cases hp : s.plans.find? (·.name = plan) with
    | none =>
      have hnone := (find?_eq_none_iff_forall (fun _ => decide_eq_true_iff)).mp hp
      exact .inr (.inl ⟨s, hfirst, hnone⟩)
    | some p =>
      have hplan := (find?_eq_some_iff_isFirst (fun _ => decide_eq_true_iff)).mp hp
      exact .inr (.inr ⟨s, p, hfirst, hplan⟩)

/-- The assigned plan in which the entity's records are looked for: the first that answers, in the
first service of the name. -/
def Matches (c : Catalog) (d : Desired) (p : AssignedPlan) : Prop :=
  ∃ s, c.Selects d.service d.plan d.planIdentifier s p

/-- The assignment of a desired entitlement. -/
abbrev assignmentFor (c : Catalog) (d : Desired) : Except Failure (Option Assignment) :=
  c.assignment d.service d.plan d.planIdentifier d.entity

variable {d : Desired}

theorem assignmentFor_eq_iff_shows {r : Except Failure (Option Assignment)} :
    c.assignmentFor d = r ↔ c.Shows d.service d.plan d.planIdentifier d.entity r := by
  constructor
  · intro h
    rw [← h]
    exact shows_assignment c _ _ _ _
  · exact assignment_of_shows

/-- A look-up fails for several records of the entity, and for nothing else. -/
theorem assignmentFor_eq_error_iff {failure : Failure} :
    c.assignmentFor d = .error failure ↔
      failure = .multipleAssignments ∧ ∃ p, c.Matches d p ∧ 2 ≤ p.recordCount d.entity := by
  rw [assignmentFor_eq_iff_shows]
  constructor
  · intro h
    cases h with
    | severalRecords hp htwo => exact ⟨rfl, _, ⟨_, hp⟩, htwo⟩
  · rintro ⟨rfl, p, ⟨s, hp⟩, htwo⟩
    exact .severalRecords hp htwo

theorem assignmentFor_eq_some_iff {a : Assignment} :
    c.assignmentFor d = .ok (some a) ↔
      ∃ p, c.Matches d p ∧ p.recordCount d.entity = 1 ∧
        a ∈ p.assignments ∧ a.entity = d.entity := by
  rw [assignmentFor_eq_iff_shows]
  constructor
  · intro h
    cases h with
    | oneRecord hp hone ha he => exact ⟨_, ⟨_, hp⟩, hone, ha, he⟩
  · rintro ⟨p, ⟨s, hp⟩, hone, ha, he⟩
    exact .oneRecord hp hone ha he

/-- Without two records of the entity the look-up succeeds. -/
theorem exists_assignmentFor (h : ∀ p, c.Matches d p → p.recordCount d.entity ≤ 1) :
    ∃ a, c.assignmentFor d = .ok a := by
  cases hfound : c.assignmentFor d with
  | error failure =>
    obtain ⟨-, p, hp, htwo⟩ := assignmentFor_eq_error_iff.mp hfound
    have hone := h p hp
    omega
  | ok a => exact ⟨a, rfl⟩

theorem assignmentFor_of_no_record (h : ∀ p, c.Matches d p → p.recordCount d.entity = 0) :
    c.assignmentFor d = .ok none := by
  have hone : ∀ p, c.Matches d p → p.recordCount d.entity ≤ 1 := by
    intro p hp
    have hzero := h p hp
    omega
  obtain ⟨a, ha⟩ := exists_assignmentFor hone
  cases a with
  | none => exact ha
  | some a =>
    obtain ⟨p, hp, hcount, -, -⟩ := assignmentFor_eq_some_iff.mp ha
    rw [h p hp] at hcount
    cases hcount

end Catalog

namespace Engine

variable {c : Catalog} {d : Desired} {established : Option Quota}

theorem inspect_of_not_entitled {failure : Failure}
    (h : c.entitledPlan d.service d.plan = .error failure) :
    inspect c d established = .error failure := by
  simp only [inspect, h]
  rfl

/-- Once the plan is found, the look-up of the assignment decides. -/
theorem inspect_of_entitled {p : EntitledPlan} (h : c.entitledPlan d.service d.plan = .ok p) :
    inspect c d established =
      (c.assignmentFor d).map fun a => ⟨⟨p, a⟩, Quota.resolve p d established⟩ := by
  simp only [inspect, h, Catalog.assignmentFor]
  cases c.assignment d.service d.plan d.planIdentifier d.entity with
  | error failure => rfl
  | ok a => rfl

/-- The failures of a look-up, each with its cause. -/
inductive Cause (c : Catalog) (d : Desired) : Failure → Prop
  | service (h : ∀ s ∈ c.entitled, s.name ≠ d.service) : Cause c d (.serviceNotFound d.service)
  | plan {s : EntitledService} (hs : IsFirst c.entitled (·.name = d.service) s)
    (h : ∀ p ∈ s.plans, p.name ≠ d.plan) : Cause c d (.planNotFound d.plan)
  | records {s : EntitledService} {p : EntitledPlan} {q : AssignedPlan}
    (ho : c.Offers d.service d.plan s p) (hq : c.Matches d q)
    (h : 2 ≤ q.recordCount d.entity) : Cause c d .multipleAssignments

/-- A look-up fails if there is a cause, with the failure of that cause. -/
theorem inspect_eq_error_iff {failure : Failure} :
    inspect c d established = .error failure ↔ Cause c d failure := by
  constructor
  · intro h
    rcases c.offers_or_absent d.service d.plan with hs | ⟨s, hs, hp⟩ | ⟨s, p, ho⟩
    · rw [inspect_of_not_entitled (Catalog.entitledPlan_of_no_service hs)] at h
      obtain rfl := Except.error.inj h
      exact .service hs
    · rw [inspect_of_not_entitled (Catalog.entitledPlan_of_no_plan hs hp)] at h
      obtain rfl := Except.error.inj h
      exact .plan hs hp
    · rw [inspect_of_entitled (Catalog.entitledPlan_of_offers ho)] at h
      cases ha : c.assignmentFor d with
      | error cause =>
        rw [ha] at h
        obtain rfl := Except.error.inj h
        obtain ⟨rfl, q, hq, htwo⟩ := Catalog.assignmentFor_eq_error_iff.mp ha
        exact .records ho hq htwo
      | ok a =>
        rw [ha] at h
        cases h
  · intro h
    cases h with
    | service hs => exact inspect_of_not_entitled (Catalog.entitledPlan_of_no_service hs)
    | plan hs hp => exact inspect_of_not_entitled (Catalog.entitledPlan_of_no_plan hs hp)
    | records ho hq htwo =>
      have hfound := Catalog.assignmentFor_eq_error_iff.mpr ⟨rfl, _, hq, htwo⟩
      rw [inspect_of_entitled (Catalog.entitledPlan_of_offers ho), hfound]
      rfl

theorem Cause.isTerminal {failure : Failure} (h : Cause c d failure) :
    failure.isTerminal = true := by
  cases h with
  | service => rfl
  | plan => rfl
  | records => rfl

-- Each outcome by its own condition, once those that count before it are excluded.

theorem inspect_eq_serviceNotFound_iff :
    inspect c d established = .error (.serviceNotFound d.service) ↔
      ∀ s ∈ c.entitled, s.name ≠ d.service := by
  rw [inspect_eq_error_iff]
  constructor
  · intro h
    cases h with
    | service hs => exact hs
  · exact Cause.service

theorem inspect_eq_planNotFound_iff {s : EntitledService}
    (hs : IsFirst c.entitled (·.name = d.service) s) :
    inspect c d established = .error (.planNotFound d.plan) ↔ ∀ p ∈ s.plans, p.name ≠ d.plan := by
  rw [inspect_eq_error_iff]
  constructor
  · intro h
    cases h with
    | plan hs' hp =>
      rw [hs.unique hs']
      exact hp
  · exact Cause.plan hs

section Offers

variable {s : EntitledService} {p : EntitledPlan} (ho : c.Offers d.service d.plan s p)
include ho

theorem inspect_eq_multipleAssignments_iff :
    inspect c d established = .error .multipleAssignments ↔
      ∃ q, c.Matches d q ∧ 2 ≤ q.recordCount d.entity := by
  rw [inspect_eq_error_iff]
  constructor
  · intro h
    cases h with
    | records _ hq htwo => exact ⟨_, hq, htwo⟩
  · rintro ⟨q, hq, htwo⟩
    exact .records ho hq htwo

/-- Nothing else can go wrong. -/
theorem inspect_of_one_record_at_most (h : ∀ q, c.Matches d q → q.recordCount d.entity ≤ 1) :
    ∃ assignment,
      inspect c d established = .ok ⟨⟨p, assignment⟩, Quota.resolve p d established⟩ ∧
        ∀ a, assignment = some a ↔ ∃ q, c.Matches d q ∧ q.recordCount d.entity = 1 ∧
          a ∈ q.assignments ∧ a.entity = d.entity := by
  obtain ⟨assignment, hfound⟩ := Catalog.exists_assignmentFor h
  have hinspect : inspect c d established =
      (c.assignmentFor d).map fun a => ⟨⟨p, a⟩, Quota.resolve p d established⟩ :=
    inspect_of_entitled (Catalog.entitledPlan_of_offers ho)
  rw [hfound] at hinspect
  refine ⟨assignment, hinspect, fun a => ?_⟩
  rw [← Catalog.assignmentFor_eq_some_iff, hfound, Except.ok.injEq]

end Offers

/-- Where the entity has no record, only the search for the plan can fail. -/
theorem inspect_of_no_record (h : ∀ q, c.Matches d q → q.recordCount d.entity = 0) :
    inspect c d established = (c.entitledPlan d.service d.plan).map fun p =>
      ⟨⟨p, none⟩, Quota.resolve p d established⟩ := by
  cases hplan : c.entitledPlan d.service d.plan with
  | error failure => exact inspect_of_not_entitled hplan
  | ok p =>
    rw [inspect_of_entitled hplan, Catalog.assignmentFor_of_no_record h]
    rfl

/-- What an observation gives, whatever the remote side answers and whatever is established. The
causes of failure count in this order: the read, the service, the plan, the records. Past them the
plan is the first of its name in the first service of its name, the assignment is the record of the
entity if the first matching assigned plan has exactly one, and the quota is resolved for that plan.
After a successful read every failure is terminal, and where the entity has no record there is none
but those of the search for the plan. -/
theorem causes_count_in_order {σ : Type} (remote : Remote σ) (d : Desired)
    (established : Option Quota) (st : σ) :
    let answer := (remote.read d.entity d.service st).result
    let result := (observe remote d established st).result
    (∀ failure, answer = .error failure → result = .error (readFailure d failure)) ∧
    ∀ c, answer = .ok c →
      (result = .error (.serviceNotFound d.service) ↔ ∀ s ∈ c.entitled, s.name ≠ d.service) ∧
      (∀ s, IsFirst c.entitled (·.name = d.service) s →
        (result = .error (.planNotFound d.plan) ↔ ∀ p ∈ s.plans, p.name ≠ d.plan) ∧
        ∀ p, IsFirst s.plans (·.name = d.plan) p →
          (result = .error .multipleAssignments ↔
            ∃ q, c.Matches d q ∧ 2 ≤ q.recordCount d.entity) ∧
          ((∀ q, c.Matches d q → q.recordCount d.entity ≤ 1) →
            ∃ assignment, result = .ok ⟨⟨p, assignment⟩, Quota.resolve p d established⟩ ∧
              ∀ a, assignment = some a ↔ ∃ q, c.Matches d q ∧ q.recordCount d.entity = 1 ∧
                a ∈ q.assignments ∧ a.entity = d.entity)) ∧
      (∀ failure, result = .error failure → failure.isTerminal = true) ∧
      ((∀ q, c.Matches d q → q.recordCount d.entity = 0) →
        result = (c.entitledPlan d.service d.plan).map fun p =>
          ⟨⟨p, none⟩, Quota.resolve p d established⟩) := by
  intro answer result
  have hresult : result = (answer.mapError (readFailure d)).bind fun c =>
    inspect c d established := observe_result remote d st established
  refine ⟨fun failure hread => ?_, fun c hread => ?_⟩
  · rw [hresult, hread]
    rfl
  · have hinspect : result = inspect c d established := by
      rw [hresult, hread]
      rfl
    rw [hinspect]
    refine ⟨inspect_eq_serviceNotFound_iff, fun s hs => ⟨inspect_eq_planNotFound_iff hs,
      fun p hp => ?_⟩, fun failure hf => (inspect_eq_error_iff.mp hf).isTerminal,
      inspect_of_no_record⟩
    have ho : c.Offers d.service d.plan s p := ⟨hs, hp⟩
    exact ⟨inspect_eq_multipleAssignments_iff ho, inspect_of_one_record_at_most ho⟩

/-- Two records of the entity in a plan that cannot be ordered: it is the plan that is missed. -/
theorem records_hidden_by_missing_plan :
    let record : Assignment := ⟨"sub-1", none, none, none, none, none, none, none⟩
    let hana : EntitledService := ⟨"hana", none, [⟨"free", none, none, none, true, none⟩]⟩
    let cloud : AssignedPlan := ⟨"cloud", none, [record, record]⟩
    let c : Catalog := ⟨[hana], [⟨"hana", none, [cloud]⟩]⟩
    let d := Desired.new "hana" "cloud" "sub-1"
    let result := (observe Memory.remote d none (Memory.new c)).result
    (Memory.remote.read d.entity d.service (Memory.new c)).result = .ok c ∧
    IsFirst c.entitled (·.name = d.service) hana ∧
    c.Matches d cloud ∧ 2 ≤ cloud.recordCount d.entity ∧
    result = .error (.planNotFound "cloud") ∧ (Failure.planNotFound "cloud").isTerminal = true := by
  intro record hana cloud c d result
  have hread : (Memory.remote.read d.entity d.service (Memory.new c)).result = .ok c := rfl
  have hs : IsFirst c.entitled (·.name = d.service) hana :=
    (find?_eq_some_iff_isFirst (fun _ => decide_eq_true_iff)).mp rfl
  have hmatches : c.Matches d cloud :=
    ⟨⟨"hana", none, [cloud]⟩, (find?_eq_some_iff_isFirst (fun _ => decide_eq_true_iff)).mp rfl,
      (find?_eq_some_iff_isFirst (fun p => p.isNamed_iff _ _)).mp rfl⟩
  obtain ⟨-, hplan, hterminal, -⟩ :=
    (causes_count_in_order Memory.remote d none (Memory.new c)).2 c hread
  have hfailed : result = .error (.planNotFound "cloud") := (hplan hana hs).1.mpr (by decide)
  exact ⟨hread, hs, hmatches, by decide, hfailed, hterminal _ hfailed⟩

end Engine
end PlanQuota
