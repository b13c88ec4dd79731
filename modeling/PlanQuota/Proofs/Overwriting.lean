import PlanQuota.Proofs.Operations

/-!
A remote side that keeps what is set. A grant takes the place of all records of its entity in the
first service and plan it names, and what is missing on the way is put at the end. Then the entity
holds what was granted, and no other entity and no other plan is touched, whatever identifiers they
are looked up by.
-/
namespace PlanQuota

section ChangeFirst

variable {α β : Type}

/-- Changes the first element that is `p`. If there is none, `new` is changed and put at the end. -/
def changeFirst (p : α → Bool) (f : α → α) (new : α) : List α → List α
  | [] => [f new]
  | x :: xs => if p x then f x :: xs else x :: changeFirst p f new xs

variable {p q : α → Bool} {f : α → α} {new : α}

theorem find?_changeFirst_same (hf : ∀ x, p (f x) = p x) (hnew : p new = true) (xs : List α) :
    (changeFirst p f new xs).find? p = some (f ((xs.find? p).getD new)) := by
  induction xs with
  | nil => simp [changeFirst, hf, hnew]
  | cons x xs ih =>
    by_cases hx : p x = true
    · simp [changeFirst, hx, hf]
    · simp [changeFirst, hx, ih]

/-- A view of the first element that is `q` stays if the change keeps it where `p` and `q` meet,
and if a new element shows what a missing one does. -/
theorem elim_find?_changeFirst {g : α → β} {b : β} (hf : ∀ x, q (f x) = q x)
    (hg : ∀ x, p x = true → q x = true → g (f x) = g x) (hnew : q new = true → g (f new) = b)
    (xs : List α) :
    ((changeFirst p f new xs).find? q).elim b g = (xs.find? q).elim b g := by
  induction xs with
  | nil =>
    by_cases hq : q new = true
    · simp [changeFirst, hf, hq, hnew hq]
    · simp [changeFirst, hf, hq]
  | cons x xs ih =>
    by_cases hp : p x = true
    · by_cases hq : q x = true
      · simp [changeFirst, hp, hf, hq, hg x hp hq]
      · simp [changeFirst, hp, hf, hq]
    · by_cases hq : q x = true
      · simp [changeFirst, hp, hq]
      · simpa [changeFirst, hp, hq] using ih

end ChangeFirst

/-- The records of an entity in the first plan of a name, and of an identifier if one is given. -/
def recordsIn (plans : List AssignedPlan) (plan : String) (identifier : Option String)
    (entity : String) : List Assignment :=
  (plans.find? (·.isNamed plan identifier)).elim [] fun p =>
    p.assignments.filter (·.entity = entity)

namespace Catalog

/-- All records that a catalog shows for a desired entitlement. -/
def held (c : Catalog) (d : Desired) : List Assignment :=
  (c.assigned.find? (·.name = d.service)).elim [] fun s =>
    recordsIn s.plans d.plan d.planIdentifier d.entity

/-- A look-up depends only on what is held. -/
theorem assignment_eq (c : Catalog) (d : Desired) :
    c.assignment d.service d.plan d.planIdentifier d.entity =
      match c.held d with
      | [] => .ok none
      | [a] => .ok (some a)
      | _ => .error .multipleAssignments := by
  unfold assignment assignedPlan held recordsIn
  cases c.assigned.find? (·.name = d.service) with
  | none => rfl
  | some s =>
    simp only [Option.elim_some]
    cases s.plans.find? (·.isNamed d.plan d.planIdentifier) with
    | none => rfl
    | some p => rfl

theorem assignment_of_length_le_one {c : Catalog} {d : Desired} (h : (c.held d).length ≤ 1) :
    c.assignment d.service d.plan d.planIdentifier d.entity = .ok (c.held d).head? := by
  rw [assignment_eq]
  match hc : c.held d with
  | [] => rfl
  | [a] => rfl
  | a :: b :: rest => simp [hc] at h

theorem length_le_one_of_assignment {c : Catalog} {d : Desired} {a : Option Assignment}
    (h : c.assignment d.service d.plan d.planIdentifier d.entity = .ok a) :
    (c.held d).length ≤ 1 := by
  rw [assignment_eq] at h
  match hc : c.held d with
  | [] => simp
  | [a] => simp
  | a :: b :: rest => simp [hc] at h

end Catalog

/-- A way to put a grant in the place of the records of its entity: one record with the granted
amount and flag, whatever else it says and wherever it stands. -/
structure Replacement where
  apply : EntityGrant → List Assignment → List Assignment
  others : ∀ g records, (apply g records).filter (·.entity ≠ g.entity) =
    records.filter (·.entity ≠ g.entity)
  own : ∀ g records, ∃ a, (apply g records).filter (·.entity = g.entity) = [a] ∧
    a.amount = g.amount.map (fun n => Binary64.ofInt n.toInt) ∧ a.enabled = g.enable

namespace Replacement

/-- The new record stands at the end and says nothing else. -/
def atEnd : Replacement where
  apply g records := records.filter (·.entity ≠ g.entity) ++
    [⟨g.entity, none, none, none, g.amount.map (fun n => Binary64.ofInt n.toInt), none, g.enable,
      none⟩]
  others g records := by simp [List.filter_filter]
  own g records := by
    refine ⟨⟨g.entity, none, none, none, g.amount.map (fun n => Binary64.ofInt n.toInt), none,
      g.enable, none⟩, ?_, rfl, rfl⟩
    simp [List.filter_filter]

variable (R : Replacement)

theorem filter_other (g : EntityGrant) (records : List Assignment) {entity : String}
    (h : entity ≠ g.entity) :
    (R.apply g records).filter (·.entity = entity) = records.filter (·.entity = entity) := by
  have narrow (as : List Assignment) : as.filter (·.entity = entity) =
      (as.filter (·.entity ≠ g.entity)).filter (·.entity = entity) := by
    rw [List.filter_filter]
    apply List.filter_congr
    intro a _
    by_cases ha : a.entity = entity
    · simp [ha, h]
    · simp [ha]
  rw [narrow, R.others, ← narrow]

def grantInPlan (g : EntityGrant) (p : AssignedPlan) : AssignedPlan :=
  { p with assignments := R.apply g p.assignments }

def grantInService (plan : String) (identifier : Option String) (g : EntityGrant)
    (s : AssignedService) : AssignedService :=
  { s with
    plans := changeFirst (·.isNamed plan identifier) (R.grantInPlan g) ⟨plan, identifier, []⟩
      s.plans }

def grant (service plan : String) (identifier : Option String) (g : EntityGrant) (c : Catalog) :
    Catalog :=
  { c with
    assigned := changeFirst (·.name = service) (R.grantInService plan identifier g)
      ⟨service, none, []⟩ c.assigned }

/-- Grants what a request sets, one grant after the other. -/
def overwrite (r : SetRequest) (c : Catalog) : Catalog :=
  r.plans.foldl (fun c p => p.grants.foldl (fun c g =>
    R.grant p.service p.plan p.planIdentifier g c) c) c

/-- The remote side that shows its catalog to every read and overwrites it in every set. -/
def remote : Remote Catalog where
  read _ _ c := ⟨.ok c, [], c⟩
  set r c := ⟨.ok (), [], R.overwrite r c⟩

theorem overwrite_ofQuota (d : Desired) (q : Quota) (c : Catalog) :
    R.overwrite (SetRequest.ofQuota d q) c =
      R.grant d.service d.plan d.planIdentifier ⟨d.entity, q.amount?, q.enable?⟩ c := rfl

@[simp] theorem entitledPlan_overwrite_ofQuota (d : Desired) (q : Quota) (c : Catalog)
    (service plan : String) :
    (R.overwrite (SetRequest.ofQuota d q) c).entitledPlan service plan =
      c.entitledPlan service plan := rfl

theorem isNamed_grantInPlan (g : EntityGrant) (p : AssignedPlan) (plan : String)
    (identifier : Option String) :
    (R.grantInPlan g p).isNamed plan identifier = p.isNamed plan identifier := rfl

/-- The plan of a grant now holds one record of its entity, as granted. -/
theorem recordsIn_grantInService_same (plan : String) (identifier : Option String)
    (g : EntityGrant) (s : AssignedService) :
    ∃ a, recordsIn (R.grantInService plan identifier g s).plans plan identifier g.entity = [a] ∧
      a.amount = g.amount.map (fun n => Binary64.ofInt n.toInt) ∧ a.enabled = g.enable := by
  have hnew : (AssignedPlan.mk plan identifier []).isNamed plan identifier = true := by
    simp [AssignedPlan.isNamed]
  have hfind := find?_changeFirst_same (p := (·.isNamed plan identifier))
    (isNamed_grantInPlan R g · plan identifier) hnew s.plans
  unfold recordsIn grantInService
  rw [hfind]
  exact R.own g _

/-- Nothing changes for another plan, nor for another entity in the same plan. -/
theorem recordsIn_grantInService_other {plan plan' entity' : String} {g : EntityGrant}
    (h : plan' ≠ plan ∨ entity' ≠ g.entity) (identifier identifier' : Option String)
    (s : AssignedService) :
    recordsIn (R.grantInService plan identifier g s).plans plan' identifier' entity' =
      recordsIn s.plans plan' identifier' entity' := by
  have hentity {x : AssignedPlan} (hx : x.isNamed plan identifier = true)
      (hx' : x.isNamed plan' identifier' = true) : entity' ≠ g.entity := by
    simp only [AssignedPlan.isNamed, Bool.and_eq_true, decide_eq_true_eq] at hx hx'
    cases h with
    | inl hplan => exact absurd (hx'.1.symm.trans hx.1) hplan
    | inr he => exact he
  apply elim_find?_changeFirst
  · exact fun x => isNamed_grantInPlan R g x plan' identifier'
  · intro x hx hx'
    exact R.filter_other g x.assignments (hentity hx hx')
  · intro hx'
    exact R.filter_other g [] (hentity (by simp [AssignedPlan.isNamed]) hx')

/-- What was set is what the entity then holds. -/
theorem held_overwrite_same (d : Desired) (q : Quota) (c : Catalog) :
    ∃ a, (R.overwrite (SetRequest.ofQuota d q) c).held d = [a] ∧
      a.amount = q.amount?.map (fun n => Binary64.ofInt n.toInt) ∧ a.enabled = q.enable? := by
  rw [overwrite_ofQuota]
  unfold grant Catalog.held
  rw [find?_changeFirst_same (f := R.grantInService d.plan d.planIdentifier _)
    (p := (·.name = d.service)) (fun _ => rfl) (by simp)]
  exact R.recordsIn_grantInService_same d.plan d.planIdentifier ⟨d.entity, q.amount?, q.enable?⟩ _

/-- What is held of any other target stays. -/
theorem held_overwrite_other {d d' : Desired} (h : d'.target ≠ d.target) (q : Quota)
    (c : Catalog) : (R.overwrite (SetRequest.ofQuota d q) c).held d' = c.held d' := by
  have hdiffers (hs : d'.service = d.service) : d'.plan ≠ d.plan ∨ d'.entity ≠ d.entity := by
    by_cases hplan : d'.plan = d.plan
    · right
      intro hentity
      exact h (by simp [Desired.target, hs, hplan, hentity])
    · exact .inl hplan
  rw [overwrite_ofQuota]
  apply elim_find?_changeFirst
  · exact fun _ => rfl
  · intro s hs hs'
    have hservice : d'.service = d.service := by simp_all
    exact R.recordsIn_grantInService_other (hdiffers hservice) _ _ s
  · intro hs
    have hservice : d'.service = d.service := by simp_all
    exact R.recordsIn_grantInService_other (hdiffers hservice) _ _ _

end Replacement
end PlanQuota
