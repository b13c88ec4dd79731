import PlanQuota.Proofs.ReadBack
import PlanQuota.Refusal
import PlanQuota.SetRequest

/-!
Reading undoes writing for everything that goes over the wire in both directions: desired
entitlements, quotas, refusals and set requests. A document is first a text and then a record; the
text reads back as the same tree, and here the record as the same value. An absent value is written
as null or left out, and both read back as absent.
-/
namespace PlanQuota

namespace Json

@[simp] theorem string?_text (s : String) : string? (text s) = some s := rfl

@[simp] theorem bool?_bool (b : Bool) : bool? (.bool b) = some b := rfl

@[simp] theorem int64?_ofInt64 (n : Int64) : int64? (ofInt64 n) = some n := by
  have hlow := n.le_toInt
  have hhigh := n.toInt_lt
  have hrange : -0x8000000000000000 ≤ n.toInt ∧ n.toInt < 0x8000000000000000 := ⟨hlow, hhigh⟩
  simp [int64?, ofInt64, ofInt, hrange]

theorem list?_map_of_mem {α : Type} {read : Json → Option α} {write : α → Json} {as : List α}
    (h : ∀ a ∈ as, read (write a) = some a) : list? read (.array (as.map write)) = some as := by
  induction as with
  | nil => rfl
  | cons a rest ih =>
    have hfirst := h a List.mem_cons_self
    have hlater := ih fun b hb => h b (List.mem_cons_of_mem a hb)
    simp only [list?] at hlater
    simp [list?, hfirst, hlater]

theorem list?_map {α : Type} {read : Json → Option α} {write : α → Json}
    (h : ∀ a, read (write a) = some a) (as : List α) :
    list? read (.array (as.map write)) = some as :=
  list?_map_of_mem fun a _ => h a

namespace Slot

variable {α : Type} {read : Json → Option α} {write : α → Json}

@[simp] theorem required_given (j : Json) : required read (.given j) = read j := rfl

@[simp] theorem orDefault_given (default : α) (j : Json) :
    orDefault default read (.given j) = read j := rfl

/-- A present value reads back, unless it is written as null. -/
theorem optional_given {a : α} (hnull : write a ≠ .null) (h : read (write a) = some a) :
    optional read (.given (write a)) = some (some a) := by
  unfold optional
  split
  next heq => exact absurd (Slot.given.inj heq) hnull
  next j _ heq =>
    obtain rfl := Slot.given.inj heq
    rw [h]
    rfl
  next heq => cases heq
  next heq => cases heq

/-- An absent value that is written as null reads back as absent. -/
theorem optional_ofOption (hnull : ∀ a, write a ≠ .null) (h : ∀ a, read (write a) = some a)
    (o : Option α) : optional read (.given (ofOption write o)) = some o := by
  cases o with
  | none => rfl
  | some a => exact optional_given (hnull a) (h a)

/-- What an object without the member gives, or one that has it. -/
def ofOption : Option Json → Slot
  | some j => given j
  | none => missing

/-- An absent value whose member is left out reads back as absent. -/
theorem optional_left_out (hnull : ∀ a, write a ≠ .null) (h : ∀ a, read (write a) = some a)
    (o : Option α) : optional read (ofOption (o.map write)) = some o := by
  cases o with
  | none => rfl
  | some a => exact optional_given (hnull a) (h a)

end Slot

@[simp] theorem lookup_member (m : String × Json) (members : List (String × Json)) (key : String) :
    (m :: members).lookup key = if key = m.1 then some m.2 else members.lookup key := by
  obtain ⟨name, value⟩ := m
  by_cases h : key = name
  · rw [if_pos h, h, List.lookup_cons_self]
  · have hne : (key == name) = false := by simpa using h
    simp [List.lookup_cons, h, hne]

theorem member_record (members : List (String × Json)) (key : String) :
    member (members.map fun m => (some m.1, m.2)) key = .ofOption (members.lookup key) := by
  induction members with
  | nil => rfl
  | cons m rest ih =>
    by_cases h : m.1 = key
    · simp [member, h, Slot.ofOption]
    · simp only [member] at ih
      simpa [member, h, Ne.symm h] using ih

/-- A record whose members have different names gives each of them. -/
theorem fields?_record {members : List (String × Json)} (h : (members.map (·.1)).Nodup)
    (keys : List String) :
    (record members).fields? keys = some fun key => .ofOption (members.lookup key) := by
  have hcount : ∀ key, (members.map fun m => (some m.1, m.2)).countP (·.1 = some key) ≤ 1 := by
    intro key
    have hcount := List.nodup_iff_count.mp h key
    rw [List.countP_map]
    rw [List.count, List.countP_map] at hcount
    exact Nat.le_trans (Nat.le_of_eq (List.countP_congr fun m _ => by simp)) hcount
  have hnamed : wellNamed keys (members.map fun m => (some m.1, m.2)) = true := by
    simp only [wellNamed, List.all_map, Bool.and_eq_true, List.all_eq_true, decide_eq_true_eq]
    exact ⟨fun m _ => rfl, fun key _ => hcount key⟩
  have hmember := funext (member_record members)
  simp only [record, fields?, hnamed, if_true, hmember]

-- Strings, flags and integers are never written as null.

theorem text_ne_null (s : String) : text s ≠ .null := fun h => by cases h

theorem bool_ne_null (b : Bool) : Json.bool b ≠ .null := fun h => by cases h

theorem ofInt64_ne_null (n : Int64) : ofInt64 n ≠ .null := fun h => by cases h

@[simp] theorem optional_text (o : Option String) :
    Slot.optional string? (.given (ofOption text o)) = some o :=
  Slot.optional_ofOption text_ne_null string?_text o

@[simp] theorem optional_ofInt64 (o : Option Int64) :
    Slot.optional int64? (.given (ofOption ofInt64 o)) = some o :=
  Slot.optional_ofOption ofInt64_ne_null int64?_ofInt64 o

end Json

theorem Desired.ofJson?_toJson (d : Desired) : ofJson? d.toJson = some d := by
  rw [ofJson?, toJson, Json.fields?_record (by simp)]
  simp [Json.Slot.ofOption]

theorem Quota.ofJson?_toJson (q : Quota) : ofJson? q.toJson = some q := by
  cases q with
  | numeric n => simp [toJson, Json.record, ofJson?]
  | enabled b => rfl

namespace Refusal

theorem detailOfJson?_toJson (r : Refusal) :
    detailOfJson? (.record [
      ("code", .ofOption .ofInt64 r.code),
      ("message", .ofOption .text r.message),
      ("target", .ofOption .text r.target),
      ("correlationID", .ofOption .text r.correlation)]) = some r := by
  rw [detailOfJson?, Json.fields?_record (by simp)]
  simp [Json.Slot.ofOption]

theorem ofJson?_toJson (r : Refusal) : ofJson? r.toJson = some r := by
  rw [ofJson?, toJson, Json.fields?_record (by simp)]
  simp [Json.Slot.ofOption, detailOfJson?_toJson]

end Refusal

theorem EntityGrant.ofJson?_toJson (g : EntityGrant) : ofJson? g.toJson = some g := by
  obtain ⟨entity, amount, enable⟩ := g
  have hamount := Json.Slot.optional_left_out Json.ofInt64_ne_null Json.int64?_ofInt64 amount
  have henable := Json.Slot.optional_left_out Json.bool_ne_null Json.bool?_bool enable
  rw [ofJson?, toJson, Json.fields?_record]
  · cases amount <;> cases enable <;>
      simp_all [Json.memberOf, Json.Slot.ofOption]
  · cases amount <;> cases enable <;> simp [Json.memberOf]

theorem PlanGrant.ofJson?_toJson (g : PlanGrant) : ofJson? g.toJson = some g := by
  obtain ⟨service, plan, identifier, grants⟩ := g
  have hidentifier := Json.Slot.optional_left_out Json.text_ne_null Json.string?_text identifier
  have hgrants := Json.list?_map EntityGrant.ofJson?_toJson grants
  rw [ofJson?, toJson, Json.fields?_record]
  · cases identifier <;>
      simp_all [Json.memberOf, Json.Slot.ofOption]
  · cases identifier <;> simp [Json.memberOf]

theorem SetRequest.ofJson?_toJson (r : SetRequest) : ofJson? r.toJson = some r := by
  have hplans := Json.list?_map PlanGrant.ofJson?_toJson r.plans
  rw [ofJson?, toJson, Json.fields?_record (by simp)]
  simp [Json.Slot.ofOption, hplans]

namespace Json

/-- The text of every value, as characters and as bytes, reads back as that value. -/
def Faithful {α : Type} (write : α → Json) (read : Json → Option α) : Prop :=
  ∀ a, (ofString? (write a).toText).bind read = some a ∧
    (ofBytes? (Utf8.ofString (write a).toText)).bind read = some a

variable {α : Type} {write : α → Json} {read : Json → Option α}

theorem faithful_of_read (h : ∀ a, read (write a) = some a) : Faithful write read := by
  intro a
  rw [ofString?_toText, ofBytes?_toText]
  exact ⟨h a, h a⟩

/-- Different values have different texts. -/
theorem Faithful.injective (h : Faithful write read) :
    Function.Injective fun a => (write a).toText := by
  intro a b hab
  have ha := (h a).1
  rw [show (write a).toText = (write b).toText from hab, (h b).1] at ha
  exact (Option.some.inj ha).symm

end Json

/-- Desired entitlements, quotas, refusals and set requests read back as what was written, so that
no two values share a text. What is absent is null in a desired entitlement and in a refusal, and
left out of a request. -/
theorem reading_undoes_writing :
    (Json.Faithful Desired.toJson Desired.ofJson? ∧ Json.Faithful Quota.toJson Quota.ofJson? ∧
      Json.Faithful Refusal.toJson Refusal.ofJson? ∧
      Json.Faithful SetRequest.toJson SetRequest.ofJson?) ∧
    (Function.Injective (fun d : Desired => d.toJson.toText) ∧
      Function.Injective (fun q : Quota => q.toJson.toText) ∧
      Function.Injective (fun r : Refusal => r.toJson.toText) ∧
      Function.Injective (fun r : SetRequest => r.toJson.toText)) ∧
    (∀ d : Desired,
      d.toJson.get? "servicePlanUniqueIdentifier" = some (.ofOption .text d.planIdentifier) ∧
      d.toJson.get? "amount" = some (.ofOption .ofInt64 d.amount)) ∧
    (∀ r : Refusal, ∃ detail, r.toJson = .record [("error", detail)] ∧
      detail.get? "code" = some (.ofOption .ofInt64 r.code) ∧
      detail.get? "message" = some (.ofOption .text r.message) ∧
      detail.get? "target" = some (.ofOption .text r.target) ∧
      detail.get? "correlationID" = some (.ofOption .text r.correlation)) ∧
    (∀ g : PlanGrant,
      g.toJson.get? "servicePlanUniqueIdentifier" = g.planIdentifier.map .text) ∧
    (∀ g : EntityGrant,
      g.toJson.get? "amount" = g.amount.map .ofInt64 ∧
        g.toJson.get? "enable" = g.enable.map .bool) := by
  have hdesired := Json.faithful_of_read Desired.ofJson?_toJson
  have hquota := Json.faithful_of_read Quota.ofJson?_toJson
  have hrefusal := Json.faithful_of_read Refusal.ofJson?_toJson
  have hrequest := Json.faithful_of_read SetRequest.ofJson?_toJson
  refine ⟨⟨hdesired, hquota, hrefusal, hrequest⟩,
    ⟨hdesired.injective, hquota.injective, hrefusal.injective, hrequest.injective⟩,
    fun d => ⟨rfl, rfl⟩, fun r => ⟨_, rfl, rfl, rfl, rfl, rfl⟩, fun g => ?_, fun g => ?_⟩
  · cases h : g.planIdentifier <;> simp [PlanGrant.toJson, Json.get?, Json.record, Json.memberOf, h]
  · cases ha : g.amount <;> cases he : g.enable <;>
      simp [EntityGrant.toJson, Json.get?, Json.record, Json.memberOf, ha, he]

end PlanQuota
