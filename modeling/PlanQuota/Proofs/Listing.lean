import PlanQuota.Catalog.Document
import PlanQuota.Proofs.WireFormat

/-!
Records as arrays. A record may be given as the array of its fields in their declared order, with
null for what is absent; the records inside it are given as arrays here as well. Amounts may be
given by any literals that are read as them, and an amount that was read has one.
-/
namespace PlanQuota

namespace Json

/-- Literals that are read as the numbers they are given for. -/
def Denotes (write : Binary64 → Json) (xs : List Binary64) : Prop :=
  ∀ x ∈ xs, binary64? (write x) = some x

@[simp] theorem denotes_append {write : Binary64 → Json} {xs ys : List Binary64} :
    Denotes write (xs ++ ys) ↔ Denotes write xs ∧ Denotes write ys := List.forall_mem_append

theorem Denotes.of_mem_flatMap {α : Type} {write : Binary64 → Json} {as : List α}
    {amounts : α → List Binary64} (h : Denotes write (as.flatMap amounts)) {a : α} (ha : a ∈ as) :
    Denotes write (amounts a) :=
  fun x hx => h x (List.mem_flatMap.mpr ⟨a, ha, hx⟩)

@[simp] theorem optional_bool (o : Option Bool) :
    Slot.optional bool? (.given (ofOption .bool o)) = some o :=
  Slot.optional_ofOption bool_ne_null bool?_bool o

theorem optional_of_denotes {write : Binary64 → Json} {o : Option Binary64}
    (h : Denotes write o.toList) :
    Slot.optional binary64? (.given (ofOption write o)) = some o := by
  cases o with
  | none => rfl
  | some x =>
    have hread : binary64? (write x) = some x := h x (by simp)
    refine Slot.optional_given (fun hnull => ?_) hread
    rw [hnull] at hread
    cases hread

/-- The first key has the first place. -/
@[simp] theorem place_cons (key : String) (keys : List String) (j : Json) (js : List Json) :
    place (key :: keys) (j :: js) = fun k => if key = k then .given j else place keys js k := by
  funext k
  by_cases h : key = k
  · simp [place, h]
  · have hindex : (key :: keys).idxOf k = keys.idxOf k + 1 := by
      rw [List.idxOf_cons, beq_eq_false_iff_ne.mpr h]
      rfl
    simp only [place, hindex, List.getElem?_cons_succ, if_neg h]

end Json

/-- The amounts of a record, and of those inside it. -/
def EntitledPlan.amounts (p : EntitledPlan) : List Binary64 := p.amount.toList

def EntitledService.amounts (s : EntitledService) : List Binary64 :=
  s.plans.flatMap EntitledPlan.amounts

def Assignment.amounts (a : Assignment) : List Binary64 :=
  a.amount.toList ++ a.requestedAmount.toList

def AssignedPlan.amounts (p : AssignedPlan) : List Binary64 :=
  p.assignments.flatMap Assignment.amounts

def AssignedService.amounts (s : AssignedService) : List Binary64 :=
  s.plans.flatMap AssignedPlan.amounts

def Catalog.amounts (c : Catalog) : List Binary64 :=
  c.entitled.flatMap EntitledService.amounts ++ c.assigned.flatMap AssignedService.amounts

section Catalog

variable (write : Binary64 → Json)

def EntitledPlan.listing (p : EntitledPlan) : Json := .array [
  .text p.name,
  .ofOption .text p.displayName,
  .ofOption .text p.identifier,
  .ofOption .text p.category,
  .bool p.unlimited,
  .ofOption write p.amount]

theorem EntitledPlan.ofJson?_listing {p : EntitledPlan} (h : Json.Denotes write p.amounts) :
    ofJson? (p.listing write) = some p := by
  have hamount := Json.optional_of_denotes h
  simp [ofJson?, listing, keys, Json.fields?, hamount]

def EntitledService.listing (s : EntitledService) : Json := .array [
  .text s.name,
  .ofOption .text s.displayName,
  .array (s.plans.map (EntitledPlan.listing write))]

theorem EntitledService.ofJson?_listing {s : EntitledService} (h : Json.Denotes write s.amounts) :
    ofJson? (s.listing write) = some s := by
  have hplans := Json.list?_map_of_mem fun p (hp : p ∈ s.plans) =>
    EntitledPlan.ofJson?_listing write (h.of_mem_flatMap hp)
  simp [ofJson?, listing, keys, Json.fields?, hplans]

def Assignment.listing (a : Assignment) : Json := .array [
  .text a.entity,
  .ofOption .text a.entityType,
  .ofOption .text a.entityState,
  .ofOption .text a.stateMessage,
  .ofOption write a.amount,
  .ofOption write a.requestedAmount,
  .ofOption .bool a.enabled,
  .ofOption .bool a.unlimitedAmount]

theorem Assignment.ofJson?_listing {a : Assignment} (h : Json.Denotes write a.amounts) :
    ofJson? (a.listing write) = some a := by
  obtain ⟨hamount, hrequested⟩ := Json.denotes_append.mp h
  have hamount := Json.optional_of_denotes hamount
  have hrequested := Json.optional_of_denotes hrequested
  simp [ofJson?, listing, keys, Json.fields?, hamount, hrequested]

def AssignedPlan.listing (p : AssignedPlan) : Json := .array [
  .text p.name,
  .ofOption .text p.identifier,
  .array (p.assignments.map (Assignment.listing write))]

theorem AssignedPlan.ofJson?_listing {p : AssignedPlan} (h : Json.Denotes write p.amounts) :
    ofJson? (p.listing write) = some p := by
  have hassignments := Json.list?_map_of_mem fun a (ha : a ∈ p.assignments) =>
    Assignment.ofJson?_listing write (h.of_mem_flatMap ha)
  simp [ofJson?, listing, keys, Json.fields?, hassignments]

def AssignedService.listing (s : AssignedService) : Json := .array [
  .text s.name,
  .ofOption .text s.displayName,
  .array (s.plans.map (AssignedPlan.listing write))]

theorem AssignedService.ofJson?_listing {s : AssignedService} (h : Json.Denotes write s.amounts) :
    ofJson? (s.listing write) = some s := by
  have hplans := Json.list?_map_of_mem fun p (hp : p ∈ s.plans) =>
    AssignedPlan.ofJson?_listing write (h.of_mem_flatMap hp)
  simp [ofJson?, listing, keys, Json.fields?, hplans]

def Catalog.listing (c : Catalog) : Json := .array [
  .array (c.entitled.map (EntitledService.listing write)),
  .array (c.assigned.map (AssignedService.listing write))]

theorem Catalog.ofJson?_listing {c : Catalog} (h : Json.Denotes write c.amounts) :
    ofJson? (c.listing write) = some c := by
  obtain ⟨hentitled, hassigned⟩ := Json.denotes_append.mp h
  have hentitled := Json.list?_map_of_mem fun s (hs : s ∈ c.entitled) =>
    EntitledService.ofJson?_listing write (hentitled.of_mem_flatMap hs)
  have hassigned := Json.list?_map_of_mem fun s (hs : s ∈ c.assigned) =>
    AssignedService.ofJson?_listing write (hassigned.of_mem_flatMap hs)
  simp [ofJson?, listing, keys, Json.fields?, hentitled, hassigned]

end Catalog

namespace Json

/-- Some literal is read as the number. -/
def HasLiteral (x : Binary64) : Prop := ∃ j, binary64? j = some x

/-- Such numbers have literals that denote them. -/
theorem exists_denotes {xs : List Binary64} (h : ∀ x ∈ xs, HasLiteral x) :
    ∃ write, Denotes write xs := by
  have hall : ∀ x, ∃ j, x ∈ xs → binary64? j = some x := by
    intro x
    by_cases hx : x ∈ xs
    · obtain ⟨j, hj⟩ := h x hx
      exact ⟨j, fun _ => hj⟩
    · exact ⟨.null, fun hmem => absurd hmem hx⟩
  exact Classical.skolem.mp hall

variable {α : Type} {read : Json → Option α} {a : α} {s : Slot}

/-- A field that is there was read from its value. -/
theorem exists_of_optional (h : s.optional read = some (some a)) : ∃ j, read j = some a := by
  cases s with
  | given j =>
    unfold Slot.optional at h
    split at h
    next => cases h
    next => exact ⟨_, by simpa using h⟩
    next => cases h
    next => cases h
  | missing => cases h
  | beyond => cases h

theorem hasLiteral_of_optional {o : Option Binary64} (h : s.optional binary64? = some o) :
    ∀ x ∈ o.toList, HasLiteral x := by
  intro x hx
  obtain rfl := Option.mem_toList.mp hx
  exact exists_of_optional h

/-- Each record of a list was read from an element of its own. -/
theorem exists_of_orDefault {as : List α} (h : s.orDefault [] (list? read) = some as)
    (ha : a ∈ as) : ∃ j, read j = some a := by
  cases s with
  | given j =>
    cases j with
    | array js =>
      replace h : js.mapM read = some as := h
      induction js generalizing as with
      | nil =>
        obtain rfl := Option.some.inj h
        cases ha
      | cons j rest ih =>
        simp only [List.mapM_cons, Option.bind_eq_bind, Option.bind_eq_some_iff, Option.pure_def,
          Option.some.injEq] at h
        obtain ⟨first, hfirst, others, hothers, rfl⟩ := h
        cases List.mem_cons.mp ha with
        | inl heq => exact ⟨j, heq ▸ hfirst⟩
        | inr hmem => exact ih hmem hothers
    | _ => cases h
  | missing =>
    obtain rfl := Option.some.inj h
    cases ha
  | beyond =>
    obtain rfl := Option.some.inj h
    cases ha

/-- The amounts of a list of records, if those of each record that is read are numbers. -/
theorem hasLiteral_of_orDefault {as : List α} (h : s.orDefault [] (list? read) = some as)
    {amounts : α → List Binary64} (hread : ∀ j a, read j = some a → ∀ x ∈ amounts a, HasLiteral x) :
    ∀ x ∈ as.flatMap amounts, HasLiteral x := by
  intro x hx
  obtain ⟨a, ha, hx⟩ := List.mem_flatMap.mp hx
  obtain ⟨j, hj⟩ := exists_of_orDefault h ha
  exact hread j a hj x hx

end Json

theorem EntitledPlan.hasLiteral_of_ofJson? (j : Json) (p : EntitledPlan) (h : ofJson? j = some p) :
    ∀ x ∈ p.amounts, Json.HasLiteral x := by
  simp only [ofJson?, Option.bind_eq_bind, Option.bind_eq_some_iff, Option.pure_def,
    Option.some.injEq] at h
  obtain ⟨f, -, name, -, displayName, -, identifier, -, category, -, unlimited, -, amount, hamount,
    rfl⟩ := h
  exact Json.hasLiteral_of_optional hamount

theorem EntitledService.hasLiteral_of_ofJson? (j : Json) (s : EntitledService)
    (h : ofJson? j = some s) : ∀ x ∈ s.amounts, Json.HasLiteral x := by
  simp only [ofJson?, Option.bind_eq_bind, Option.bind_eq_some_iff, Option.pure_def,
    Option.some.injEq] at h
  obtain ⟨f, -, name, -, displayName, -, plans, hplans, rfl⟩ := h
  exact Json.hasLiteral_of_orDefault hplans EntitledPlan.hasLiteral_of_ofJson?

theorem Assignment.hasLiteral_of_ofJson? (j : Json) (a : Assignment) (h : ofJson? j = some a) :
    ∀ x ∈ a.amounts, Json.HasLiteral x := by
  simp only [ofJson?, Option.bind_eq_bind, Option.bind_eq_some_iff, Option.pure_def,
    Option.some.injEq] at h
  obtain ⟨f, -, entity, -, entityType, -, entityState, -, stateMessage, -, amount, hamount,
    requestedAmount, hrequested, enabled, -, unlimitedAmount, -, rfl⟩ := h
  exact List.forall_mem_append.mpr
    ⟨Json.hasLiteral_of_optional hamount, Json.hasLiteral_of_optional hrequested⟩

theorem AssignedPlan.hasLiteral_of_ofJson? (j : Json) (p : AssignedPlan) (h : ofJson? j = some p) :
    ∀ x ∈ p.amounts, Json.HasLiteral x := by
  simp only [ofJson?, Option.bind_eq_bind, Option.bind_eq_some_iff, Option.pure_def,
    Option.some.injEq] at h
  obtain ⟨f, -, name, -, identifier, -, assignments, hassignments, rfl⟩ := h
  exact Json.hasLiteral_of_orDefault hassignments Assignment.hasLiteral_of_ofJson?

theorem AssignedService.hasLiteral_of_ofJson? (j : Json) (s : AssignedService)
    (h : ofJson? j = some s) : ∀ x ∈ s.amounts, Json.HasLiteral x := by
  simp only [ofJson?, Option.bind_eq_bind, Option.bind_eq_some_iff, Option.pure_def,
    Option.some.injEq] at h
  obtain ⟨f, -, name, -, displayName, -, plans, hplans, rfl⟩ := h
  exact Json.hasLiteral_of_orDefault hplans AssignedPlan.hasLiteral_of_ofJson?

/-- All amounts in a catalog that was read have literals. -/
theorem Catalog.hasLiteral_of_ofJson? (j : Json) (c : Catalog) (h : ofJson? j = some c) :
    ∀ x ∈ c.amounts, Json.HasLiteral x := by
  simp only [ofJson?, Option.bind_eq_bind, Option.bind_eq_some_iff, Option.pure_def,
    Option.some.injEq] at h
  obtain ⟨f, -, entitled, hentitled, assigned, hassigned, rfl⟩ := h
  exact List.forall_mem_append.mpr
    ⟨Json.hasLiteral_of_orDefault hentitled EntitledService.hasLiteral_of_ofJson?,
      Json.hasLiteral_of_orDefault hassigned AssignedService.hasLiteral_of_ofJson?⟩

def Desired.listing (d : Desired) : Json := .array [
  .text d.service,
  .text d.plan,
  .ofOption .text d.planIdentifier,
  .text d.entity,
  .ofOption .ofInt64 d.amount]

theorem Desired.ofJson?_listing (d : Desired) : ofJson? d.listing = some d := by
  simp [ofJson?, listing, keys, Json.fields?]

def EntityGrant.listing (g : EntityGrant) : Json := .array [
  .text g.entity,
  .ofOption .ofInt64 g.amount,
  .ofOption .bool g.enable]

theorem EntityGrant.ofJson?_listing (g : EntityGrant) : ofJson? g.listing = some g := by
  simp [ofJson?, listing, keys, Json.fields?]

def PlanGrant.listing (g : PlanGrant) : Json := .array [
  .text g.service,
  .text g.plan,
  .ofOption .text g.planIdentifier,
  .array (g.grants.map EntityGrant.listing)]

theorem PlanGrant.ofJson?_listing (g : PlanGrant) : ofJson? g.listing = some g := by
  have hgrants := Json.list?_map EntityGrant.ofJson?_listing g.grants
  simp [ofJson?, listing, keys, Json.fields?, hgrants]

def SetRequest.listing (r : SetRequest) : Json := .array [.array (r.plans.map PlanGrant.listing)]

theorem SetRequest.ofJson?_listing (r : SetRequest) : ofJson? r.listing = some r := by
  have hplans := Json.list?_map PlanGrant.ofJson?_listing r.plans
  simp [ofJson?, listing, keys, Json.fields?, hplans]

namespace Refusal

def detailListing (r : Refusal) : Json := .array [
  .ofOption .ofInt64 r.code,
  .ofOption .text r.message,
  .ofOption .text r.target,
  .ofOption .text r.correlation]

theorem detailOfJson?_listing (r : Refusal) : detailOfJson? r.detailListing = some r := by
  simp [detailOfJson?, detailListing, keys, Json.fields?]

def listing (r : Refusal) : Json := .array [r.detailListing]

theorem ofJson?_listing (r : Refusal) : ofJson? r.listing = some r := by
  simp [ofJson?, listing, Json.fields?, detailOfJson?_listing]

end Refusal
end PlanQuota
