import Mathlib.Data.List.Nodup
import PlanQuota.Proofs.Listing

/-!
Spellings of one document. The record types of the wire are listed with their fields, and two
documents are spellings of one another if they differ in the order of members, in members that
nobody reads, in values that say as much as nothing, or in one form of a record for the other; in
the document itself or in a record inside it. Every reader takes two spellings for the same, also
where it refuses them.
-/
namespace PlanQuota

theorem find?_eq_of_perm {α : Type} {p : α → Bool} {l l' : List α} (h : l.Perm l')
    (hone : l.countP p ≤ 1) : l.find? p = l'.find? p := by
  have hfilter := h.filter p
  rw [List.countP_eq_length_filter] at hone
  rw [← List.head?_filter, ← List.head?_filter]
  match hl : l.filter p with
  | [] =>
    rw [hl] at hfilter
    rw [List.nil_perm.mp hfilter]
  | [a] =>
    rw [hl] at hfilter
    rw [List.singleton_perm.mp hfilter]
  | _ :: _ :: _ => simp [hl] at hone

namespace Json

variable {keys : List String} {ms ms' : List (Option String × Json)}

theorem wellNamed_perm (h : ms.Perm ms') (keys : List String) :
    wellNamed keys ms = wellNamed keys ms' := by
  simp only [wellNamed, h.all_eq, h.countP_eq]

theorem member_perm (h : ms.Perm ms') (hnamed : wellNamed keys ms = true) {key : String}
    (hkey : key ∈ keys) : member ms key = member ms' key := by
  have hone : ms.countP (·.1 = some key) ≤ 1 := by
    simp only [wellNamed, Bool.and_eq_true, List.all_eq_true, decide_eq_true_eq] at hnamed
    exact hnamed.2 key hkey
  rw [member, member, find?_eq_of_perm h hone]

theorem member_cons (name : Option String) (value : Json) (ms : List (Option String × Json))
    (key : String) :
    member ((name, value) :: ms) key = if name = some key then .given value else member ms key := by
  by_cases h : name = some key <;> simp [member, h]

theorem member_of_forall_ne {key : String} (h : ∀ m ∈ ms, m.1 ≠ some key) :
    member ms key = .missing := by
  have hnone : ms.find? (·.1 = some key) = none := List.find?_eq_none.mpr (by simpa using h)
  rw [member, hnone]

/-- One member more is no fault, unless its name is one of the keys and there already. -/
theorem wellNamed_cons {name : String} (value : Json)
    (h : name ∈ keys → ∀ m ∈ ms, m.1 ≠ some name) :
    wellNamed keys ((some name, value) :: ms) = wellNamed keys ms := by
  have hcount : ∀ key ∈ keys, (((some name, value) :: ms).countP (·.1 = some key) ≤ 1 ↔
      ms.countP (·.1 = some key) ≤ 1) := by
    intro key hkey
    by_cases hname : name = key
    · subst hname
      have hzero : ms.countP (·.1 = some name) = 0 :=
        List.countP_eq_zero.mpr (by simpa using h hkey)
      simp [hzero]
    · simp [hname]
  have hall : (keys.all fun key => ((some name, value) :: ms).countP (·.1 = some key) ≤ 1) =
      keys.all fun key => ms.countP (·.1 = some key) ≤ 1 := by
    rw [Bool.eq_iff_iff]
    simp only [List.all_eq_true, decide_eq_true_eq]
    exact forall₂_congr hcount
  simp only [wellNamed, hall, List.all_cons, Option.isSome_some, Bool.true_and]

end Json

namespace Wire

open PlanQuota.Json (Slot)

/-- The record types. -/
inductive Kind
  | catalog
  | entitledService
  | entitledPlan
  | assignedService
  | assignedPlan
  | assignment
  | desired
  | request
  | planGrant
  | entityGrant
  | refusal
  | refusalDetail
  deriving DecidableEq, Repr

def Kind.Value : Kind → Type
  | catalog => Catalog
  | entitledService => EntitledService
  | entitledPlan => EntitledPlan
  | assignedService => AssignedService
  | assignedPlan => AssignedPlan
  | assignment => Assignment
  | desired => Desired
  | request => SetRequest
  | planGrant => PlanGrant
  | entityGrant => EntityGrant
  | refusal | refusalDetail => Refusal

def Kind.read : (k : Kind) → Json → Option k.Value
  | catalog => Catalog.ofJson?
  | entitledService => EntitledService.ofJson?
  | entitledPlan => EntitledPlan.ofJson?
  | assignedService => AssignedService.ofJson?
  | assignedPlan => AssignedPlan.ofJson?
  | assignment => Assignment.ofJson?
  | desired => Desired.ofJson?
  | request => SetRequest.ofJson?
  | planGrant => PlanGrant.ofJson?
  | entityGrant => EntityGrant.ofJson?
  | refusal => Refusal.ofJson?
  | refusalDetail => Refusal.detailOfJson?

/-- What the value of a field holds: no record, one, or a list of them. -/
inductive Content
  | plain
  | record (k : Kind)
  | list (k : Kind)

structure Field where
  key : String
  /-- The value that says as much as nothing; a field without one must be there. -/
  blank : Option Json
  content : Content

namespace Field

def required (key : String) (content : Content) : Field := ⟨key, none, content⟩

def optional (key : String) : Field := ⟨key, some .null, .plain⟩

def orDefault (key : String) (default : Json) (content : Content) : Field :=
  ⟨key, some default, content⟩

end Field

/-- The fields of each type in their declared order. -/
def Kind.fields : Kind → List Field
  | catalog => [
    .orDefault "entitledServices" (.array []) (.list entitledService),
    .orDefault "assignedServices" (.array []) (.list assignedService)]
  | entitledService => [
    .orDefault "name" (.text "") .plain,
    .optional "displayName",
    .orDefault "servicePlans" (.array []) (.list entitledPlan)]
  | entitledPlan => [
    .orDefault "name" (.text "") .plain,
    .optional "displayName",
    .optional "uniqueIdentifier",
    .optional "category",
    .orDefault "unlimited" (.bool false) .plain,
    .optional "amount"]
  | assignedService => [
    .orDefault "name" (.text "") .plain,
    .optional "displayName",
    .orDefault "servicePlans" (.array []) (.list assignedPlan)]
  | assignedPlan => [
    .orDefault "name" (.text "") .plain,
    .optional "uniqueIdentifier",
    .orDefault "assignmentInfo" (.array []) (.list assignment)]
  | assignment => [
    .orDefault "entityId" (.text "") .plain,
    .optional "entityType",
    .optional "entityState",
    .optional "stateMessage",
    .optional "amount",
    .optional "requestedAmount",
    .optional "enabled",
    .optional "unlimitedAmountAssigned"]
  | desired => [
    .required "serviceName" .plain,
    .required "servicePlanName" .plain,
    .optional "servicePlanUniqueIdentifier",
    .required "entityId" .plain,
    .optional "amount"]
  | request => [.required "subaccountServicePlans" (.list planGrant)]
  | planGrant => [
    .required "serviceName" .plain,
    .required "servicePlanName" .plain,
    .optional "servicePlanUniqueIdentifier",
    .required "assignmentInfo" (.list entityGrant)]
  | entityGrant => [
    .required "subaccountGUID" .plain,
    .optional "amount",
    .optional "enable"]
  | refusal => [.required "error" (.record refusalDetail)]
  | refusalDetail => [
    .optional "code",
    .optional "message",
    .optional "target",
    .optional "correlationID"]

def Kind.keys (k : Kind) : List String := k.fields.map (·.key)

/-- The value of a field with a hole for one record inside it. -/
inductive Inside : Content → Kind → (Json → Json) → Prop
  | record (k : Kind) : Inside (.record k) k id
  | element (k : Kind) (front back : List Json) :
    Inside (.list k) k fun j => .array (front ++ j :: back)

/-- What stands for a field in an array, by the object's slot for it. -/
inductive Field.Filled (f : Field) : Slot → Json → Prop
  | given (j : Json) : Filled f (.given j) j
  | blank {j : Json} (h : f.blank = some j) : Filled f .missing j

/-- Two documents for a record that differ in their spelling only. -/
inductive Respelled : Kind → Json → Json → Prop
  | refl (k : Kind) (j : Json) : Respelled k j j
  | symm {k : Kind} {i j : Json} : Respelled k i j → Respelled k j i
  | trans {k : Kind} {i j l : Json} : Respelled k i j → Respelled k j l → Respelled k i l
  /-- Members in another order. -/
  | permuted {k : Kind} {ms ms' : List (Option String × Json)} (h : ms.Perm ms') :
    Respelled k (.object ms) (.object ms')
  /-- A member that nobody reads, with any value. -/
  | unknown {k : Kind} {name : String} (h : name ∉ k.keys) (value : Json)
    (front back : List (Option String × Json)) :
    Respelled k (.object (front ++ back)) (.object (front ++ (some name, value) :: back))
  /-- A value that says as much as the missing member. -/
  | blank {k : Kind} {f : Field} (hf : f ∈ k.fields) {value : Json} (hv : f.blank = some value)
    {front back : List (Option String × Json)} (h : ∀ m ∈ front ++ back, m.1 ≠ some f.key) :
    Respelled k (.object (front ++ back)) (.object (front ++ (some f.key, value) :: back))
  /-- An object with no fault in its names, and the array of its fields as they are declared. -/
  | inOrder {k : Kind} {ms : List (Option String × Json)} (h : Json.wellNamed k.keys ms = true)
    {value : Field → Json} (hv : ∀ f ∈ k.fields, f.Filled (Json.member ms f.key) (value f)) :
    Respelled k (.object ms) (.array (k.fields.map value))
  /-- Another spelling of a record inside an object. -/
  | member {k inner : Kind} {f : Field} (hf : f ∈ k.fields) {context : Json → Json}
    (hc : Inside f.content inner context) {i j : Json} (h : Respelled inner i j)
    (front back : List (Option String × Json)) :
    Respelled k (.object (front ++ (some f.key, context i) :: back))
      (.object (front ++ (some f.key, context j) :: back))
  /-- Another spelling of a record inside an array. -/
  | element {k inner : Kind} {front : List Json} {f : Field}
    (hf : k.fields[front.length]? = some f) {context : Json → Json}
    (hc : Inside f.content inner context) {i j : Json} (h : Respelled inner i j)
    (back : List Json) :
    Respelled k (.array (front ++ context i :: back)) (.array (front ++ context j :: back))

/-- Values that a reader of the field takes for the same. -/
def Content.Same : Content → Json → Json → Prop
  | plain, i, j => i = j
  | record k, i, j => k.read i = k.read j
  | list k, i, j => Json.list? k.read i = Json.list? k.read j

theorem Inside.same {content : Content} {inner : Kind} {context : Json → Json}
    (hc : Inside content inner context) {i j : Json} (h : inner.read i = inner.read j) :
    content.Same (context i) (context j) := by
  cases hc with
  | record => exact h
  | element => simp [Content.Same, Json.list?, h]

/-- Slots that a reader of the field takes for the same. -/
inductive Field.Agree (f : Field) : Slot → Slot → Prop
  | refl (s : Slot) : Agree f s s
  | same {i j : Json} (h : f.content.Same i j) : Agree f (.given i) (.given j)
  | blank {j : Json} (h : f.blank = some j) : Agree f .missing (.given j)

/-- Slots that agree for every field. -/
def Kind.Agree (k : Kind) (s t : String → Slot) : Prop :=
  ∀ f ∈ k.fields, f.Agree (s f.key) (t f.key)

/-- A reader of slots that looks at nothing but the fields of a type, and at these as they are
declared. -/
def Respects {α : Type} (k : Kind) (build : (String → Slot) → Option α) : Prop :=
  ∀ s t, k.Agree s t → build s = build t

namespace Respects

variable {k : Kind} {α β : Type} {key : String} {content : Content} {read : Json → Option α}

theorem pure (a : α) : Respects k fun _ => Pure.pure a := fun _ _ _ => rfl

theorem bind {first : (String → Slot) → Option α} {next : α → (String → Slot) → Option β}
    (hfirst : Respects k first) (hnext : ∀ a, Respects k (next a)) :
    Respects k fun s => first s >>= fun a => next a s := by
  intro s t h
  have hagree : (fun a => next a s) = fun a => next a t := funext fun a => hnext a s t h
  simp only [hfirst s t h, hagree]

theorem of_field {f : Field} {n : Nat} {use : Slot → Option α} (hf : k.fields[n]? = some f)
    (h : ∀ a b, f.Agree a b → use a = use b) : Respects k fun s => use (s f.key) :=
  fun _ _ hagree => h _ _ (hagree f (List.mem_of_getElem? hf))

theorem required (n : Nat) (hf : k.fields[n]? = some (.required key content))
    (hread : ∀ i j, content.Same i j → read i = read j) :
    Respects k fun s => (s key).required read := by
  refine of_field hf fun a b h => ?_
  cases h with
  | refl => rfl
  | same hsame => exact hread _ _ hsame
  | blank hblank => cases hblank

theorem optional (n : Nat) (hf : k.fields[n]? = some (.optional key)) :
    Respects k fun s => (s key).optional read := by
  refine of_field hf fun a b h => ?_
  cases h with
  | refl => rfl
  | same hsame => cases hsame; rfl
  | blank hblank => cases hblank; rfl

theorem orDefault (n : Nat) {blank : Json} {default : α}
    (hf : k.fields[n]? = some (.orDefault key blank content))
    (hblank : read blank = some default) (hread : ∀ i j, content.Same i j → read i = read j) :
    Respects k fun s => (s key).orDefault default read := by
  refine of_field hf fun a b h => ?_
  cases h with
  | refl => rfl
  | same hsame => exact hread _ _ hsame
  | blank hb => cases hb; exact hblank.symm

end Respects

theorem Content.plain_same {α : Type} (read : Json → Option α) (i j : Json)
    (h : Content.plain.Same i j) : read i = read j := congrArg read h

/-- Every reader is one of slots that looks at the fields as they are declared. -/
theorem Kind.read_eq (k : Kind) : ∃ build, (∀ j, k.read j = j.fields? k.keys >>= build) ∧
    Respects k build := by
  -- A reader takes the fields one after the other, each by its number in the declaration.
  cases k with
  | catalog =>
    refine ⟨_, fun j => rfl, ?_⟩
    exact .bind (.orDefault 0 rfl rfl fun _ _ h => h) fun _ =>
      .bind (.orDefault 1 rfl rfl fun _ _ h => h) fun _ => .pure _
  | entitledService | assignedService | assignedPlan =>
    refine ⟨_, fun j => rfl, ?_⟩
    exact .bind (.orDefault 0 rfl rfl (Content.plain_same _)) fun _ =>
      .bind (.optional 1 rfl) fun _ =>
      .bind (.orDefault 2 rfl rfl fun _ _ h => h) fun _ => .pure _
  | entitledPlan =>
    refine ⟨_, fun j => rfl, ?_⟩
    exact .bind (.orDefault 0 rfl rfl (Content.plain_same _)) fun _ =>
      .bind (.optional 1 rfl) fun _ => .bind (.optional 2 rfl) fun _ =>
      .bind (.optional 3 rfl) fun _ =>
      .bind (.orDefault 4 rfl rfl (Content.plain_same _)) fun _ =>
      .bind (.optional 5 rfl) fun _ => .pure _
  | assignment =>
    refine ⟨_, fun j => rfl, ?_⟩
    exact .bind (.orDefault 0 rfl rfl (Content.plain_same _)) fun _ =>
      .bind (.optional 1 rfl) fun _ => .bind (.optional 2 rfl) fun _ =>
      .bind (.optional 3 rfl) fun _ => .bind (.optional 4 rfl) fun _ =>
      .bind (.optional 5 rfl) fun _ => .bind (.optional 6 rfl) fun _ =>
      .bind (.optional 7 rfl) fun _ => .pure _
  | desired =>
    refine ⟨_, fun j => rfl, ?_⟩
    exact .bind (.required 0 rfl (Content.plain_same _)) fun _ =>
      .bind (.required 1 rfl (Content.plain_same _)) fun _ =>
      .bind (.optional 2 rfl) fun _ =>
      .bind (.required 3 rfl (Content.plain_same _)) fun _ =>
      .bind (.optional 4 rfl) fun _ => .pure _
  | request =>
    refine ⟨_, fun j => rfl, ?_⟩
    exact .bind (.required 0 rfl fun _ _ h => h) fun _ => .pure _
  | planGrant =>
    refine ⟨_, fun j => rfl, ?_⟩
    exact .bind (.required 0 rfl (Content.plain_same _)) fun _ =>
      .bind (.required 1 rfl (Content.plain_same _)) fun _ =>
      .bind (.optional 2 rfl) fun _ =>
      .bind (.required 3 rfl fun _ _ h => h) fun _ => .pure _
  | entityGrant =>
    refine ⟨_, fun j => rfl, ?_⟩
    exact .bind (.required 0 rfl (Content.plain_same _)) fun _ =>
      .bind (.optional 1 rfl) fun _ => .bind (.optional 2 rfl) fun _ => .pure _
  | refusal => exact ⟨_, fun j => rfl, .required 0 rfl fun _ _ h => h⟩
  | refusalDetail =>
    refine ⟨_, fun j => rfl, ?_⟩
    exact .bind (.optional 0 rfl) fun _ => .bind (.optional 1 rfl) fun _ =>
      .bind (.optional 2 rfl) fun _ => .bind (.optional 3 rfl) fun _ => .pure _

/-- Two documents whose slots a reader takes for the same, or that both have none. -/
def Kind.SameSlots (k : Kind) (i j : Json) : Prop :=
  Option.Rel k.Agree (i.fields? k.keys) (j.fields? k.keys)

namespace Kind

variable {k : Kind} {i j : Json}

theorem SameSlots.read_eq (h : k.SameSlots i j) : k.read i = k.read j := by
  obtain ⟨build, hread, hrespects⟩ := k.read_eq
  rw [hread, hread]
  unfold SameSlots at h
  generalize i.fields? k.keys = a at h ⊢
  generalize j.fields? k.keys = b at h ⊢
  cases h with
  | none => rfl
  | some hagree => exact hrespects _ _ hagree

variable {ms ms' : List (Option String × Json)}

theorem sameSlots_object (hnamed : Json.wellNamed k.keys ms = Json.wellNamed k.keys ms')
    (hagree : Json.wellNamed k.keys ms = true → k.Agree (Json.member ms) (Json.member ms')) :
    k.SameSlots (.object ms) (.object ms') := by
  unfold SameSlots
  by_cases h : Json.wellNamed k.keys ms = true
  · simpa [Json.fields?, ← hnamed, h] using Option.Rel.some (hagree h)
  · simp [Json.fields?, ← hnamed, h]

theorem sameSlots_array {js js' : List Json} (hlength : js.length = js'.length)
    (hagree : k.Agree (Json.place k.keys js) (Json.place k.keys js')) :
    k.SameSlots (.array js) (.array js') := by
  unfold SameSlots
  by_cases h : js.length ≤ k.keys.length
  · simpa [Json.fields?, ← hlength, h] using Option.Rel.some hagree
  · simp [Json.fields?, ← hlength, h]

theorem keys_nodup (k : Kind) : k.keys.Nodup := by cases k <;> decide

theorem field_of_key {f g : Field} (hf : f ∈ k.fields) (hg : g ∈ k.fields) (h : f.key = g.key) :
    f = g :=
  List.inj_on_of_nodup_map k.keys_nodup hf hg h

theorem mem_keys {f : Field} (hf : f ∈ k.fields) : f.key ∈ k.keys := List.mem_map_of_mem hf

/-- A field has its place by its key. -/
theorem getElem?_idxOf {f : Field} (hf : f ∈ k.fields) :
    k.fields[k.keys.idxOf f.key]? = some f := by
  have hkey : k.keys[k.keys.idxOf f.key]? = some f.key := List.getElem?_idxOf (mem_keys hf)
  rw [keys, List.getElem?_map, Option.map_eq_some_iff] at hkey
  obtain ⟨g, hg, hfg⟩ := hkey
  obtain rfl := field_of_key (List.mem_of_getElem? hg) hf hfg
  exact hg

theorem read_perm (h : ms.Perm ms') : k.read (.object ms) = k.read (.object ms') := by
  refine SameSlots.read_eq (sameSlots_object (Json.wellNamed_perm h k.keys) fun hnamed f hf => ?_)
  rw [Json.member_perm h hnamed (mem_keys hf)]
  exact .refl _

/-- A member counts the same wherever it stands. -/
theorem read_middle (m : Option String × Json) (front back : List (Option String × Json)) :
    k.read (.object (front ++ m :: back)) = k.read (.object (m :: (front ++ back))) :=
  read_perm List.perm_middle

theorem read_unknown {name : String} (h : name ∉ k.keys) (value : Json)
    (ms : List (Option String × Json)) :
    k.read (.object ms) = k.read (.object ((some name, value) :: ms)) := by
  have hnamed : Json.wellNamed k.keys ((some name, value) :: ms) = Json.wellNamed k.keys ms :=
    Json.wellNamed_cons value fun hkey => absurd hkey h
  refine SameSlots.read_eq (sameSlots_object hnamed.symm fun _ f hf => ?_)
  have hne : name ≠ f.key := fun heq => h (heq ▸ mem_keys hf)
  rw [Json.member_cons, if_neg (by simpa using hne)]
  exact .refl _

theorem read_blank {f : Field} (hf : f ∈ k.fields) {value : Json} (hv : f.blank = some value)
    (h : ∀ m ∈ ms, m.1 ≠ some f.key) :
    k.read (.object ms) = k.read (.object ((some f.key, value) :: ms)) := by
  have hnamed : Json.wellNamed k.keys ((some f.key, value) :: ms) = Json.wellNamed k.keys ms :=
    Json.wellNamed_cons value fun _ => h
  refine SameSlots.read_eq (sameSlots_object hnamed.symm fun _ g hg => ?_)
  -- Keys tell fields apart, so no other field sees the new member.
  rw [Json.member_cons]
  split
  next heq =>
    obtain rfl := field_of_key hf hg (Option.some.inj heq)
    rw [Json.member_of_forall_ne h]
    exact .blank hv
  next => exact .refl _

theorem read_member {f : Field} (hf : f ∈ k.fields) {x y : Json} (h : f.content.Same x y)
    (ms : List (Option String × Json)) :
    k.read (.object ((some f.key, x) :: ms)) = k.read (.object ((some f.key, y) :: ms)) := by
  have hnamed : Json.wellNamed k.keys ((some f.key, x) :: ms) =
      Json.wellNamed k.keys ((some f.key, y) :: ms) := by
    simp [Json.wellNamed, List.countP_cons]
  refine SameSlots.read_eq (sameSlots_object hnamed fun _ g hg => ?_)
  rw [Json.member_cons, Json.member_cons]
  split
  next heq =>
    obtain rfl := field_of_key hf hg (Option.some.inj heq)
    exact .same h
  next => exact .refl _

theorem read_element {front back : List Json} {f : Field}
    (hf : k.fields[front.length]? = some f) {x y : Json} (h : f.content.Same x y) :
    k.read (.array (front ++ x :: back)) = k.read (.array (front ++ y :: back)) := by
  refine SameSlots.read_eq (sameSlots_array (by simp) fun g hg => ?_)
  -- The place of a field decides whether its reader comes upon the element that was changed.
  have hplace := getElem?_idxOf hg
  unfold Json.place
  generalize k.keys.idxOf g.key = n at hplace ⊢
  obtain hlt | rfl | hgt := Nat.lt_trichotomy n front.length
  · simp only [List.getElem?_append_left hlt]
    exact .refl _
  · obtain rfl : f = g := Option.some.inj (hf.symm.trans hplace)
    simpa using Field.Agree.same h
  · obtain ⟨d, rfl⟩ := Nat.exists_eq_add_of_lt hgt
    have hright : front.length ≤ front.length + d + 1 := by omega
    have hoffset : front.length + d + 1 - front.length = d + 1 := by omega
    simp only [List.getElem?_append_right hright, hoffset, List.getElem?_cons_succ]
    exact .refl _

theorem read_inOrder (h : Json.wellNamed k.keys ms = true) {value : Field → Json}
    (hv : ∀ f ∈ k.fields, f.Filled (Json.member ms f.key) (value f)) :
    k.read (.object ms) = k.read (.array (k.fields.map value)) := by
  have hobject : (Json.object ms).fields? k.keys = some (Json.member ms) := if_pos h
  have harray : (Json.array (k.fields.map value)).fields? k.keys =
      some (Json.place k.keys (k.fields.map value)) := if_pos (by simp [keys])
  refine SameSlots.read_eq ?_
  rw [SameSlots, hobject, harray]
  refine .some fun f hf => ?_
  have hfilled := hv f hf
  have hplace : Json.place k.keys (k.fields.map value) f.key = .given (value f) := by
    simp [Json.place, getElem?_idxOf hf]
  rw [hplace]
  generalize Json.member ms f.key = s at hfilled ⊢
  generalize value f = j at hfilled ⊢
  cases hfilled with
  | given => exact .refl _
  | blank hblank => exact .blank hblank

end Kind

theorem Respelled.read_eq {k : Kind} {i j : Json} (h : Respelled k i j) : k.read i = k.read j := by
  -- A spelling inside goes over to the outer record by what the induction gives for the inner one.
  induction h with
  | refl => rfl
  | symm _ ih => exact ih.symm
  | trans _ _ ih ih' => exact ih.trans ih'
  | permuted h => exact Kind.read_perm h
  | unknown h value front back =>
    rw [Kind.read_middle]
    exact Kind.read_unknown h value _
  | blank hf hv h =>
    rw [Kind.read_middle]
    exact Kind.read_blank hf hv h
  | inOrder h hv => exact Kind.read_inOrder h hv
  | member hf hc _ front back ih =>
    rw [Kind.read_middle, Kind.read_middle]
    exact Kind.read_member hf (hc.same ih) _
  | element hf hc _ back ih => exact Kind.read_element hf (hc.same ih)

/-- The amounts in a value. -/
def Kind.amounts : (k : Kind) → k.Value → List Binary64
  | catalog => Catalog.amounts
  | entitledService => EntitledService.amounts
  | entitledPlan => EntitledPlan.amounts
  | assignedService => AssignedService.amounts
  | assignedPlan => AssignedPlan.amounts
  | assignment => Assignment.amounts
  | desired | request | planGrant | entityGrant | refusal | refusalDetail => fun _ => []

/-- The array of a value's fields in their declared order, with literals for the amounts. -/
def Kind.listing (write : Binary64 → Json) : (k : Kind) → k.Value → Json
  | catalog => Catalog.listing write
  | entitledService => EntitledService.listing write
  | entitledPlan => EntitledPlan.listing write
  | assignedService => AssignedService.listing write
  | assignedPlan => AssignedPlan.listing write
  | assignment => Assignment.listing write
  | desired => Desired.listing
  | request => SetRequest.listing
  | planGrant => PlanGrant.listing
  | entityGrant => EntityGrant.listing
  | refusal => Refusal.listing
  | refusalDetail => Refusal.detailListing

theorem Kind.read_listing (k : Kind) {v : k.Value} {write : Binary64 → Json}
    (h : Json.Denotes write (k.amounts v)) : k.read (k.listing write v) = some v := by
  cases k with
  | catalog => exact Catalog.ofJson?_listing write h
  | entitledService => exact EntitledService.ofJson?_listing write h
  | entitledPlan => exact EntitledPlan.ofJson?_listing write h
  | assignedService => exact AssignedService.ofJson?_listing write h
  | assignedPlan => exact AssignedPlan.ofJson?_listing write h
  | assignment => exact Assignment.ofJson?_listing write h
  | desired => exact Desired.ofJson?_listing v
  | request => exact SetRequest.ofJson?_listing v
  | planGrant => exact PlanGrant.ofJson?_listing v
  | entityGrant => exact EntityGrant.ofJson?_listing v
  | refusal => exact Refusal.ofJson?_listing v
  | refusalDetail => exact Refusal.detailOfJson?_listing v

theorem Kind.hasLiteral_of_read (k : Kind) {j : Json} {v : k.Value} (h : k.read j = some v) :
    ∀ x ∈ k.amounts v, Json.HasLiteral x := by
  cases k with
  | catalog => exact Catalog.hasLiteral_of_ofJson? j v h
  | entitledService => exact EntitledService.hasLiteral_of_ofJson? j v h
  | entitledPlan => exact EntitledPlan.hasLiteral_of_ofJson? j v h
  | assignedService => exact AssignedService.hasLiteral_of_ofJson? j v h
  | assignedPlan => exact AssignedPlan.hasLiteral_of_ofJson? j v h
  | assignment => exact Assignment.hasLiteral_of_ofJson? j v h
  | desired | request | planGrant | entityGrant | refusal | refusalDetail =>
    exact fun _ hx => absurd hx List.not_mem_nil

/-- Two spellings of a document are read alike, as the same value or not at all. The array of a
value's fields is read as that value if its amounts are given by literals that are read as them,
and for a value that was read from a document, in either form, there are such literals. -/
theorem outcome_independent_of_spelling :
    (∀ (k : Kind) (i j : Json), Respelled k i j → k.read i = k.read j) ∧
    (∀ (k : Kind) (v : k.Value) (write : Binary64 → Json),
      (∀ x ∈ k.amounts v, Json.binary64? (write x) = some x) →
      k.read (k.listing write v) = some v) ∧
    ∀ (k : Kind) (j : Json) (v : k.Value), k.read j = some v →
      ∃ write : Binary64 → Json, (∀ x ∈ k.amounts v, Json.binary64? (write x) = some x) ∧
        k.read (k.listing write v) = some v := by
  refine ⟨fun _ _ _ h => h.read_eq, fun k v write h => k.read_listing h, fun k j v h => ?_⟩
  obtain ⟨write, hwrite⟩ := Json.exists_denotes (k.hasLiteral_of_read h)
  exact ⟨write, hwrite, k.read_listing hwrite⟩

/-- A service with and without a member that nobody reads, and a plan with an amount as an array
of its fields. -/
theorem unread_member_of_a_service :
    Respelled .catalog
      (.record [("assignedServices", .array [.record [("name", .text "s")]])])
      (.record [("assignedServices",
        .array [.record [("name", .text "s"), ("since", .text "")]])]) ∧
    Catalog.ofJson? (.record [("assignedServices", .array [.record [("name", .text "s")]])]) =
      Catalog.ofJson?
        (.record [("assignedServices",
          .array [.record [("name", .text "s"), ("since", .text "")]])]) ∧
    ∃ x : Binary64, x.bits = 0x3ff8000000000000 ∧
      EntitledPlan.ofJson? (.array [.text "p", .null, .null, .null, .bool false,
        .number (.decimal false 15 (-1))]) = some ⟨"p", none, none, none, false, some x⟩ ∧
      ∃ write : Binary64 → Json, Json.binary64? (write x) = some x := by
  have hinner : Respelled .assignedService (.record [("name", .text "s")])
      (.record [("name", .text "s"), ("since", .text "")]) :=
    .unknown (by decide) (.text "") [(some "name", .text "s")] []
  have hfield := List.mem_of_getElem? (show Kind.catalog.fields[1]? = _ from rfl)
  have hrespelled := Respelled.member hfield (.element .assignedService [] []) hinner [] []
  obtain ⟨hspelling, hlisting, hread⟩ := outcome_independent_of_spelling
  let x : Binary64 := ⟨false, 0x3ff8000000000000, by decide⟩
  have hx : Json.binary64? (.number (.decimal false 15 (-1))) = some x := by decide +kernel
  have hplan : EntitledPlan.ofJson? (.array [.text "p", .null, .null, .null, .bool false,
      .number (.decimal false 15 (-1))]) = some ⟨"p", none, none, none, false, some x⟩ :=
    hlisting .entitledPlan ⟨"p", none, none, none, false, some x⟩
      (fun _ => .number (.decimal false 15 (-1))) fun y hy => by
        obtain rfl := List.mem_singleton.mp hy
        exact hx
  obtain ⟨write, hwrite, -⟩ := hread .entitledPlan _ _ hplan
  exact ⟨hrespelled, hspelling .catalog _ _ hrespelled, x, by decide +kernel, hplan, write,
    hwrite x List.mem_cons_self⟩

/-- What is not a matter of spelling: a member with the value of its default may not be given
twice, and the name of a member must be a text even if nobody reads it. -/
theorem repeated_default_and_unreadable_name :
    ((Json.ofString? "\x7b\"entitledServices\":[],\"entitledServices\":[]\x7d").bind
        Catalog.ofJson? = none ∧
      (Json.ofString? "\x7b\"entitledServices\":[]\x7d").bind Catalog.ofJson? =
        some Catalog.empty) ∧
    ((Json.ofString? "\x7b\"\\ud800\":0\x7d").bind Catalog.ofJson? = none ∧
      (Json.ofString? "\x7b\x7d").bind Catalog.ofJson? = some Catalog.empty) := by
  decide +kernel

end Wire
end PlanQuota
