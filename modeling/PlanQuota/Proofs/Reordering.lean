import PlanQuota.Memory
import PlanQuota.Proofs.Operations
import PlanQuota.Proofs.Spelling

/-!
The order of a catalog. Services, plans and assignments may be listed in any order: as long as no
two of them go by the same name where one is looked for, an observation finds the same. Assignments
need not be told apart, since two of one entity are a failure wherever they stand.
-/
namespace PlanQuota

section Reordered

variable {α β : Type} {R : α → α → Prop} {p : α → Bool} {xs ys : List α}

/-- The elements in any order, each with another one that is related to it in its place. -/
def Reordered (R : α → α → Prop) (xs ys : List α) : Prop :=
  ∃ zs : List α, xs.Perm zs ∧ List.Forall₂ R zs ys

theorem find?_of_forall₂ (hp : ∀ x y, R x y → p x = p y) (h : List.Forall₂ R xs ys) :
    Option.Rel R (xs.find? p) (ys.find? p) := by
  induction h with
  | nil => exact .none
  | @cons x y xs ys hxy _ ih =>
    have hpy := hp x y hxy
    by_cases hx : p x = true
    · simpa [hx, ← hpy] using Option.Rel.some hxy
    · simpa [hx, ← hpy] using ih

/-- A search that at most one element passes finds related elements. -/
theorem Reordered.find? (h : Reordered R xs ys) (hp : ∀ x y, R x y → p x = p y)
    (hone : xs.countP p ≤ 1) : Option.Rel R (xs.find? p) (ys.find? p) := by
  obtain ⟨zs, hperm, hrelated⟩ := h
  rw [find?_eq_of_perm hperm hone]
  exact find?_of_forall₂ hp hrelated

/-- What all differ in is asked for by at most one. -/
theorem countP_le_one_of_nodup [DecidableEq β] {key : α → β} {k : β} (h : (xs.map key).Nodup)
    (hp : ∀ x, p x = true → key x = k) : xs.countP p ≤ 1 := by
  have hcount := List.nodup_iff_count.mp h k
  rw [List.count, List.countP_map] at hcount
  exact Nat.le_trans (List.countP_mono_left fun x _ hx => by simp [hp x hx]) hcount

end Reordered

/-- The same service with its plans in another order. -/
structure EntitledService.Shuffled (s t : EntitledService) : Prop where
  name : s.name = t.name
  displayName : s.displayName = t.displayName
  plans : s.plans.Perm t.plans

/-- The same plan with its assignments in another order. -/
structure AssignedPlan.Shuffled (p q : AssignedPlan) : Prop where
  name : p.name = q.name
  identifier : p.identifier = q.identifier
  assignments : p.assignments.Perm q.assignments

structure AssignedService.Shuffled (s t : AssignedService) : Prop where
  name : s.name = t.name
  displayName : s.displayName = t.displayName
  plans : Reordered AssignedPlan.Shuffled s.plans t.plans

structure Catalog.Shuffled (c c' : Catalog) : Prop where
  entitled : Reordered EntitledService.Shuffled c.entitled c'.entitled
  assigned : Reordered AssignedService.Shuffled c.assigned c'.assigned

/-- No two services and no two plans of a service go by what the entitlement asks for: plans that
can be ordered by their name, assigned ones by their name, or by name and identifier if an
identifier is given. -/
structure Catalog.Unambiguous (c : Catalog) (d : Desired) : Prop where
  entitledServices : (c.entitled.map (·.name)).Nodup
  entitledPlans : ∀ s ∈ c.entitled, (s.plans.map (·.name)).Nodup
  assignedServices : (c.assigned.map (·.name)).Nodup
  plansByName : d.planIdentifier = none → ∀ s ∈ c.assigned, (s.plans.map (·.name)).Nodup
  plansByIdentifier : d.planIdentifier ≠ none →
    ∀ s ∈ c.assigned, (s.plans.map fun p => (p.name, p.identifier)).Nodup

namespace AssignedPlan

variable {p q : AssignedPlan}

theorem Shuffled.isNamed (h : p.Shuffled q) (name : String) (identifier : Option String) :
    p.isNamed name identifier = q.isNamed name identifier := by
  simp only [AssignedPlan.isNamed, h.name, h.identifier]

/-- However the assignments stand, an entity has none of them, one, or too many. -/
theorem Shuffled.assignmentOf (h : p.Shuffled q) (entity : String) :
    p.assignmentOf entity = q.assignmentOf entity := by
  have hperm := h.assignments.filter (·.entity = entity)
  unfold AssignedPlan.assignmentOf
  generalize p.assignments.filter (·.entity = entity) = held at hperm
  generalize q.assignments.filter (·.entity = entity) = held' at hperm
  match held, held' with
  | [], held' => rw [List.nil_perm.mp hperm]
  | [a], held' => rw [List.singleton_perm.mp hperm]
  | _ :: _ :: _, [] => simp at hperm
  | _ :: _ :: _, [a] => simp at hperm
  | _ :: _ :: _, _ :: _ :: _ => rfl

end AssignedPlan

namespace Catalog

variable {c c' : Catalog} {d : Desired}

/-- At most one plan of a service is the one that is asked for. -/
theorem Unambiguous.countP_isNamed (h : c.Unambiguous d) {s : AssignedService}
    (hs : s ∈ c.assigned) : s.plans.countP (·.isNamed d.plan d.planIdentifier) ≤ 1 := by
  cases hi : d.planIdentifier with
  | none =>
    refine countP_le_one_of_nodup (k := d.plan) (h.plansByName hi s hs) fun p hp => ?_
    simpa [AssignedPlan.isNamed] using hp
  | some i =>
    refine countP_le_one_of_nodup (k := (d.plan, some i))
      (h.plansByIdentifier (by simp [hi]) s hs) fun p hp => ?_
    simpa [AssignedPlan.isNamed] using hp

theorem Shuffled.entitledPlan (h : c.Shuffled c') (hu : c.Unambiguous d) :
    c.entitledPlan d.service d.plan = c'.entitledPlan d.service d.plan := by
  have hservice := h.entitled.find? (p := (·.name = d.service)) (fun s t hst => by simp [hst.name])
    (countP_le_one_of_nodup (k := d.service) hu.entitledServices (by simp))
  -- The service that is found is one of `c`, whose plans differ in name.
  have hmem := fun s => List.mem_of_find?_eq_some (l := c.entitled) (p := (·.name = d.service))
    (a := s)
  unfold Catalog.entitledPlan
  generalize c.entitled.find? (·.name = d.service) = found at hservice hmem
  generalize c'.entitled.find? (·.name = d.service) = found' at hservice
  cases hservice with
  | none => rfl
  | @some s t hst =>
    have hplan : s.plans.find? (·.name = d.plan) = t.plans.find? (·.name = d.plan) :=
      find?_eq_of_perm hst.plans
        (countP_le_one_of_nodup (k := d.plan) (hu.entitledPlans s (hmem s rfl)) (by simp))
    simp only [hplan]

/-- The assigned plan is missing for one reason in both, or is there with its assignments in some
order. -/
theorem Shuffled.assignedPlan (h : c.Shuffled c') (hu : c.Unambiguous d) :
    (∃ absence, c.assignedPlan d.service d.plan d.planIdentifier = .error absence ∧
      c'.assignedPlan d.service d.plan d.planIdentifier = .error absence) ∨
    ∃ p q, c.assignedPlan d.service d.plan d.planIdentifier = .ok p ∧
      c'.assignedPlan d.service d.plan d.planIdentifier = .ok q ∧ p.Shuffled q := by
  have hservice := h.assigned.find? (p := (·.name = d.service)) (fun s t hst => by simp [hst.name])
    (countP_le_one_of_nodup (k := d.service) hu.assignedServices (by simp))
  have hmem := fun s => List.mem_of_find?_eq_some (l := c.assigned) (p := (·.name = d.service))
    (a := s)
  unfold Catalog.assignedPlan
  generalize c.assigned.find? (·.name = d.service) = found at hservice hmem
  generalize c'.assigned.find? (·.name = d.service) = found' at hservice
  cases hservice with
  | none => exact .inl ⟨_, rfl, rfl⟩
  | @some s t hst =>
    have hplan := hst.plans.find? (fun p q hpq => hpq.isNamed d.plan d.planIdentifier)
      (hu.countP_isNamed (hmem s rfl))
    simp only
    generalize s.plans.find? (·.isNamed d.plan d.planIdentifier) = plan at hplan
    generalize t.plans.find? (·.isNamed d.plan d.planIdentifier) = plan' at hplan
    cases hplan with
    | none => exact .inl ⟨_, rfl, rfl⟩
    | @some p q hpq => exact .inr ⟨p, q, rfl, rfl, hpq⟩

theorem Shuffled.assignment (h : c.Shuffled c') (hu : c.Unambiguous d) :
    c.assignment d.service d.plan d.planIdentifier d.entity =
      c'.assignment d.service d.plan d.planIdentifier d.entity := by
  unfold Catalog.assignment
  obtain ⟨absence, hc, hc'⟩ | ⟨p, q, hc, hc', hpq⟩ := h.assignedPlan hu
  · rw [hc, hc']
  · rw [hc, hc']
    exact hpq.assignmentOf d.entity

theorem Shuffled.inspect (h : c.Shuffled c') (hu : c.Unambiguous d) (established : Option Quota) :
    Engine.inspect c d established = Engine.inspect c' d established := by
  unfold Engine.inspect
  rw [h.entitledPlan hu, h.assignment hu]

/-- An observation of one catalog is that of the other, or both fail for the same reason; whatever
sides they are read from. Nothing is asked of the assignments: two of one entity fail in any
order. -/
theorem Shuffled.observes_same {σ τ : Type} {a : Remote σ} {b : Remote τ} {s : σ} {t : τ}
    (h : c.Shuffled c') (hu : c.Unambiguous d)
    (ha : (a.read d.entity d.service s).result = .ok c)
    (hb : (b.read d.entity d.service t).result = .ok c') (established : Option Quota) :
    (Engine.observe a d established s).result = (Engine.observe b d established t).result := by
  rw [Engine.observe_result, Engine.observe_result, ha, hb]
  exact h.inspect hu established

/-- The other of two services first, in it the other of two plans that an identifier tells apart,
and the other of its two assignments. -/
theorem observe_of_both_orders :
    let desired : Desired := ⟨"hana", "cloud", some "eu", "sub-1", none⟩
    let held := fun entity : String =>
      Assignment.mk entity none none none none none (some false) none
    let plan := fun name : String => EntitledPlan.mk name none none none true none
    let us : AssignedPlan := ⟨"cloud", some "us", []⟩
    let eu := fun entities : List String => AssignedPlan.mk "cloud" (some "eu") (entities.map held)
    let c : Catalog := ⟨[⟨"hana", none, [plan "cloud", plan "free"]⟩, ⟨"redis", none, []⟩],
      [⟨"hana", none, [us, eu ["sub-1", "sub-2"]]⟩, ⟨"redis", none, []⟩]⟩
    let c' : Catalog := ⟨[⟨"redis", none, []⟩, ⟨"hana", none, [plan "free", plan "cloud"]⟩],
      [⟨"redis", none, []⟩, ⟨"hana", none, [eu ["sub-2", "sub-1"], us]⟩]⟩
    c.Shuffled c' ∧ c.Unambiguous desired ∧
      (Engine.observe Memory.remote desired none (Memory.new c)).result =
        (Engine.observe Memory.remote desired none (Memory.new c')).result ∧
      (Engine.observe Memory.remote desired none (Memory.new c')).result =
        .ok ⟨⟨plan "cloud", some (held "sub-1")⟩, .enabled true⟩ := by
  intro desired held plan us eu c c'
  have hplans : Reordered AssignedPlan.Shuffled [us, eu ["sub-1", "sub-2"]]
      [eu ["sub-2", "sub-1"], us] :=
    ⟨_, .swap _ _ _, .cons ⟨rfl, rfl, .swap _ _ _⟩ (.cons ⟨rfl, rfl, .nil⟩ .nil)⟩
  have hshuffled : c.Shuffled c' :=
    { entitled := ⟨_, .swap _ _ _, .cons ⟨rfl, rfl, .nil⟩ (.cons ⟨rfl, rfl, .swap _ _ _⟩ .nil)⟩
      assigned :=
        ⟨_, .swap _ _ _, .cons ⟨rfl, rfl, [], .nil, .nil⟩ (.cons ⟨rfl, rfl, hplans⟩ .nil)⟩ }
  have hunambiguous : c.Unambiguous desired :=
    { entitledServices := by decide
      entitledPlans := by decide
      assignedServices := by decide
      plansByName := by simp [desired]
      plansByIdentifier := by decide }
  exact ⟨hshuffled, hunambiguous, hshuffled.observes_same hunambiguous rfl rfl none, by decide⟩

end Catalog
end PlanQuota
