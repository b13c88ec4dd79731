import PlanQuota.Catalog.Lookup

/-!
Looking an assignment up, against a reference that speaks of places and numbers: the service and
the plan are those at the least index among the ones asked for, and how many records the entity has
in that plan decides the result. The search agrees with the reference on every catalog, however
many services, plans and records of one name there are in it.
-/
namespace PlanQuota

section IsFirst

variable {α : Type} {xs : List α} {p : α → Prop} {x y : α}

/-- The element at the least index among those that are `p`. -/
def IsFirst (xs : List α) (p : α → Prop) (x : α) : Prop :=
  ∃ i : Nat, xs[i]? = some x ∧ p x ∧ ∀ j < i, ∀ y, xs[j]? = some y → ¬p y

theorem IsFirst.mem (h : IsFirst xs p x) : x ∈ xs := by
  obtain ⟨i, hi, -⟩ := h
  exact List.mem_of_getElem? hi

theorem IsFirst.holds (h : IsFirst xs p x) : p x := by
  obtain ⟨-, -, hp, -⟩ := h
  exact hp

theorem IsFirst.unique (hx : IsFirst xs p x) (hy : IsFirst xs p y) : x = y := by
  obtain ⟨i, hi, hpx, hleast⟩ := hx
  obtain ⟨j, hj, hpy, hleast'⟩ := hy
  have hij : i = j := by
    rcases Nat.lt_trichotomy i j with hlt | heq | hgt
    · exact absurd hpx (hleast' i hlt x hi)
    · exact heq
    · exact absurd hpy (hleast j hgt y hj)
  subst hij
  exact Option.some.inj (hi.symm.trans hj)

/-- A search ends at the first element that passes its test. -/
theorem find?_eq_some_iff_isFirst {test : α → Bool} (htest : ∀ x, test x = true ↔ p x) :
    xs.find? test = some x ↔ IsFirst xs p x := by
  rw [List.find?_eq_some_iff_getElem]
  constructor
  · rintro ⟨hx, i, hi, rfl, hleast⟩
    refine ⟨i, List.getElem?_eq_getElem hi, (htest _).mp hx, fun j hj y hy hpy => ?_⟩
    have hjlen : j < xs.length := by omega
    rw [List.getElem?_eq_getElem hjlen] at hy
    obtain rfl := Option.some.inj hy
    simpa [(htest _).mpr hpy] using hleast j hj
  · rintro ⟨i, hi, hx, hleast⟩
    obtain ⟨hlen, rfl⟩ := List.getElem?_eq_some_iff.mp hi
    refine ⟨(htest _).mpr hx, i, hlen, rfl, fun j hj => ?_⟩
    have hnot := hleast j hj _ (List.getElem?_eq_getElem (by omega))
    simpa [← htest] using hnot

theorem find?_eq_none_iff_forall {test : α → Bool} (htest : ∀ x, test x = true ↔ p x) :
    xs.find? test = none ↔ ∀ x ∈ xs, ¬p x := by
  simp [← htest]

end IsFirst

namespace AssignedPlan

variable {p : AssignedPlan} {entity : String}

/-- The plan has the name asked for, and the identifier if one is asked for. -/
def Answers (p : AssignedPlan) (name : String) (identifier : Option String) : Prop :=
  p.name = name ∧ ∀ i, identifier = some i → p.identifier = some i

/-- A plan without an identifier answers to none. -/
theorem isNamed_iff (p : AssignedPlan) (name : String) (identifier : Option String) :
    p.isNamed name identifier = true ↔ p.Answers name identifier := by
  cases identifier with
  | none => simp [isNamed, Answers]
  | some i => simp [isNamed, Answers]

/-- How many records of the plan are the entity's. -/
def recordCount (p : AssignedPlan) (entity : String) : Nat :=
  p.assignments.countP (·.entity = entity)

theorem length_filter_eq_recordCount (p : AssignedPlan) (entity : String) :
    (p.assignments.filter (·.entity = entity)).length = p.recordCount entity :=
  List.countP_eq_length_filter.symm

theorem assignmentOf_of_no_record (h : p.recordCount entity = 0) :
    p.assignmentOf entity = .ok none := by
  have hlength := p.length_filter_eq_recordCount entity
  rw [h, List.length_eq_zero_iff] at hlength
  simp only [assignmentOf, hlength]

/-- The only record of the entity is found wherever it stands. -/
theorem assignmentOf_of_one_record (h : p.recordCount entity = 1) {a : Assignment}
    (ha : a ∈ p.assignments) (he : a.entity = entity) :
    p.assignmentOf entity = .ok (some a) := by
  have hlength := p.length_filter_eq_recordCount entity
  rw [h, List.length_eq_one_iff] at hlength
  obtain ⟨b, hb⟩ := hlength
  have hab : a ∈ p.assignments.filter (·.entity = entity) := by simp [ha, he]
  rw [hb, List.mem_singleton] at hab
  subst hab
  simp only [assignmentOf, hb]

theorem assignmentOf_of_several_records (h : 2 ≤ p.recordCount entity) :
    p.assignmentOf entity = .error .multipleAssignments := by
  have hlength := p.length_filter_eq_recordCount entity
  unfold assignmentOf
  match hrecords : p.assignments.filter (·.entity = entity) with
  | [] => simp [hrecords] at hlength; omega
  | [a] => simp [hrecords] at hlength; omega
  | a :: b :: rest => simp only [hrecords]

theorem exists_record_of_recordCount (h : p.recordCount entity = 1) :
    ∃ a ∈ p.assignments, a.entity = entity := by
  have hpos : 0 < p.assignments.countP (·.entity = entity) := by
    rw [recordCount] at h
    omega
  simpa using List.countP_pos_iff.mp hpos

end AssignedPlan

namespace Catalog

variable {c : Catalog} {service plan : String} {identifier : Option String} {entity : String}

/-- A plan that can be ordered is the first of its name in the first service of its name. -/
theorem entitledPlan_eq_ok_iff {p : EntitledPlan} :
    c.entitledPlan service plan = .ok p ↔
      ∃ s, IsFirst c.entitled (·.name = service) s ∧ IsFirst s.plans (·.name = plan) p := by
  simp only [← find?_eq_some_iff_isFirst (fun _ => decide_eq_true_iff)]
  unfold entitledPlan
  cases c.entitled.find? (·.name = service) with
  | none => simp
  | some s =>
    cases hp : s.plans.find? (·.name = plan) with
    | none => simp [hp]
    | some q => simp [hp]

/-- The assigned service and the assigned plan that count for a look-up. -/
structure Selects (c : Catalog) (service plan : String) (identifier : Option String)
    (s : AssignedService) (p : AssignedPlan) : Prop where
  service : IsFirst c.assigned (·.name = service) s
  plan : IsFirst s.plans (·.Answers plan identifier) p

/-- What a look-up has to give. -/
inductive Shows (c : Catalog) (service plan : String) (identifier : Option String)
    (entity : String) : Except Failure (Option Assignment) → Prop
  | noService (h : ∀ s ∈ c.assigned, s.name ≠ service) :
    Shows c service plan identifier entity (.ok none)
  | noPlan {s : AssignedService} (hs : IsFirst c.assigned (·.name = service) s)
    (h : ∀ p ∈ s.plans, ¬p.Answers plan identifier) :
    Shows c service plan identifier entity (.ok none)
  | noRecord {s : AssignedService} {p : AssignedPlan} (hp : c.Selects service plan identifier s p)
    (h : p.recordCount entity = 0) : Shows c service plan identifier entity (.ok none)
  | oneRecord {s : AssignedService} {p : AssignedPlan} {a : Assignment}
    (hp : c.Selects service plan identifier s p) (h : p.recordCount entity = 1)
    (ha : a ∈ p.assignments) (he : a.entity = entity) :
    Shows c service plan identifier entity (.ok (some a))
  | severalRecords {s : AssignedService} {p : AssignedPlan}
    (hp : c.Selects service plan identifier s p) (h : 2 ≤ p.recordCount entity) :
    Shows c service plan identifier entity (.error .multipleAssignments)

theorem assignment_of_no_service (h : ∀ s ∈ c.assigned, s.name ≠ service) :
    c.assignment service plan identifier entity = .ok none := by
  have hfind := (find?_eq_none_iff_forall (fun s : AssignedService =>
    decide_eq_true_iff (p := s.name = service))).mpr h
  simp only [assignment, assignedPlan, hfind]

theorem assignment_of_no_plan {s : AssignedService}
    (hs : IsFirst c.assigned (·.name = service) s)
    (h : ∀ p ∈ s.plans, ¬p.Answers plan identifier) :
    c.assignment service plan identifier entity = .ok none := by
  have hfind := (find?_eq_some_iff_isFirst (fun _ => decide_eq_true_iff)).mpr hs
  have hplan := (find?_eq_none_iff_forall (fun p : AssignedPlan =>
    p.isNamed_iff plan identifier)).mpr h
  simp only [assignment, assignedPlan, hfind, hplan]

theorem assignment_of_selects {s : AssignedService} {p : AssignedPlan}
    (h : c.Selects service plan identifier s p) :
    c.assignment service plan identifier entity = p.assignmentOf entity := by
  have hfind := (find?_eq_some_iff_isFirst (fun _ => decide_eq_true_iff)).mpr h.service
  have hplan := (find?_eq_some_iff_isFirst (fun p : AssignedPlan =>
    p.isNamed_iff plan identifier)).mpr h.plan
  simp only [assignment, assignedPlan, hfind, hplan]

/-- The three ways in which the search for a plan can end. -/
theorem selects_or_absent (c : Catalog) (service plan : String) (identifier : Option String) :
    (∀ s ∈ c.assigned, s.name ≠ service) ∨
    (∃ s, IsFirst c.assigned (·.name = service) s ∧ ∀ p ∈ s.plans, ¬p.Answers plan identifier) ∨
    ∃ s p, c.Selects service plan identifier s p := by
  cases hs : c.assigned.find? (·.name = service) with
  | none => exact .inl ((find?_eq_none_iff_forall (fun _ => decide_eq_true_iff)).mp hs)
  | some s =>
    have hfirst := (find?_eq_some_iff_isFirst (fun _ => decide_eq_true_iff)).mp hs
    cases hp : s.plans.find? (·.isNamed plan identifier) with
    | none =>
      have hnone := (find?_eq_none_iff_forall (fun p : AssignedPlan =>
        p.isNamed_iff plan identifier)).mp hp
      exact .inr (.inl ⟨s, hfirst, hnone⟩)
    | some p =>
      have hplan := (find?_eq_some_iff_isFirst (fun p : AssignedPlan =>
        p.isNamed_iff plan identifier)).mp hp
      exact .inr (.inr ⟨s, p, hfirst, hplan⟩)

/-- The search gives what the reference asks for. -/
theorem shows_assignment (c : Catalog) (service plan : String) (identifier : Option String)
    (entity : String) :
    c.Shows service plan identifier entity (c.assignment service plan identifier entity) := by
  rcases c.selects_or_absent service plan identifier with h | ⟨s, hs, h⟩ | ⟨s, p, hp⟩
  · rw [assignment_of_no_service h]
    exact .noService h
  · rw [assignment_of_no_plan hs h]
    exact .noPlan hs h
  · rw [assignment_of_selects hp]
    by_cases hzero : p.recordCount entity = 0
    · rw [AssignedPlan.assignmentOf_of_no_record hzero]
      exact .noRecord hp hzero
    · by_cases hone : p.recordCount entity = 1
      · obtain ⟨a, ha, he⟩ := AssignedPlan.exists_record_of_recordCount hone
        rw [AssignedPlan.assignmentOf_of_one_record hone ha he]
        exact .oneRecord hp hone ha he
      · have htwo : 2 ≤ p.recordCount entity := by omega
        rw [AssignedPlan.assignmentOf_of_several_records htwo]
        exact .severalRecords hp htwo

/-- The reference asks for no more than one result. -/
theorem assignment_of_shows {r : Except Failure (Option Assignment)}
    (h : c.Shows service plan identifier entity r) :
    c.assignment service plan identifier entity = r := by
  cases h with
  | noService h => exact assignment_of_no_service h
  | noPlan hs h => exact assignment_of_no_plan hs h
  | noRecord hp h =>
    rw [assignment_of_selects hp, AssignedPlan.assignmentOf_of_no_record h]
  | oneRecord hp h ha he =>
    rw [assignment_of_selects hp, AssignedPlan.assignmentOf_of_one_record h ha he]
  | severalRecords hp h =>
    rw [assignment_of_selects hp, AssignedPlan.assignmentOf_of_several_records h]

/-- On every catalog, whatever is asked: the result is the one of the reference, several records of
the entity are the only failure, and a record that is found is one of the entity, in a plan that
answers, in a service of that name. -/
theorem assignment_as_shown (c : Catalog) (service plan : String) (identifier : Option String)
    (entity : String) :
    let found := c.assignment service plan identifier entity
    (∀ r, found = r ↔ c.Shows service plan identifier entity r) ∧
      (∀ failure, found = .error failure → failure = .multipleAssignments) ∧
      ∀ a, found = .ok (some a) → a.entity = entity ∧
        ∃ s ∈ c.assigned, s.name = service ∧
          ∃ p ∈ s.plans, p.Answers plan identifier ∧ a ∈ p.assignments := by
  intro found
  have hshows := shows_assignment c service plan identifier entity
  refine ⟨fun r => ⟨fun h => h ▸ hshows, assignment_of_shows⟩, fun failure h => ?_, fun a h => ?_⟩
  · rw [show c.assignment service plan identifier entity = .error failure from h] at hshows
    cases hshows with
    | severalRecords hp htwo => rfl
  · rw [show c.assignment service plan identifier entity = .ok (some a) from h] at hshows
    cases hshows with
    | oneRecord hp hone ha he =>
      exact ⟨he, _, hp.service.mem, hp.service.holds, _, hp.plan.mem, hp.plan.holds, ha⟩

end Catalog
end PlanQuota
