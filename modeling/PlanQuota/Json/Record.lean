import PlanQuota.Json.Basic
import PlanQuota.Binary64.Basic

/-!
Records in documents. A record is an object with its fields as members, in any order and among
members of other names, or an array with its fields in their declared order. What a reader sees of
a field is a slot, so both forms are read by the same code.
-/
namespace PlanQuota.Json

/-- What a document gives for one field: a value, nothing in an object without the member, or
nothing in an array that ends before the field. -/
inductive Slot
  | given (j : Json)
  | missing
  | beyond

namespace Slot

/-- A field that must be there. -/
def required {α : Type} (read : Json → Option α) : Slot → Option α
  | given j => read j
  | _ => none

/-- A field that may be null, or missing in an object. -/
def optional {α : Type} (read : Json → Option α) : Slot → Option (Option α)
  | given .null => some none
  | given j => (read j).map some
  | missing => some none
  | beyond => none

/-- A field with a default for when nothing is given. -/
def orDefault {α : Type} (default : α) (read : Json → Option α) : Slot → Option α
  | given j => read j
  | _ => some default

end Slot

/-- Every name is decodable, and each of the `keys` occurs at most once. -/
def wellNamed (keys : List String) (members : List (Option String × Json)) : Bool :=
  members.all (·.1.isSome) && keys.all fun k => members.countP (·.1 = some k) ≤ 1

def member (members : List (Option String × Json)) (key : String) : Slot :=
  match members.find? (·.1 = some key) with
  | some m => .given m.2
  | none => .missing

def place (keys : List String) (elements : List Json) (key : String) : Slot :=
  match elements[keys.idxOf key]? with
  | some j => .given j
  | none => .beyond

/-- The slots of a record with the fields `keys`. -/
def fields? (keys : List String) : Json → Option (String → Slot)
  | .object members => if wellNamed keys members then some (member members) else none
  | .array elements => if elements.length ≤ keys.length then some (place keys elements) else none
  | _ => none

def list? {α : Type} (read : Json → Option α) : Json → Option (List α)
  | .array elements => elements.mapM read
  | _ => none

/-- An integer of 64 bits. -/
def int64? (j : Json) : Option Int64 :=
  match j with
  | .number (.integer n) =>
    if -0x8000000000000000 ≤ n ∧ n < 0x8000000000000000 then some (.ofInt n) else none
  | _ => none

/-- A number that is not too large. An integer past 64 bits is rounded like a decimal. -/
def binary64? (j : Json) : Option Binary64 :=
  match j with
  | .number (.integer n) =>
    let (m, surplus) := significand 0 (Nat.toDigits 10 n.natAbs)
    Binary64.ofDecimal? (n < 0) m surplus.length
  | .number (.decimal negative significand exponent) =>
    Binary64.ofDecimal? negative significand.toNat exponent
  | _ => none

def ofInt64 (n : Int64) : Json := .ofInt n.toInt

/-- Null for an absent value. -/
def ofOption {α : Type} (write : α → Json) : Option α → Json
  | some a => write a
  | none => .null

/-- A member that is left out when its value is absent. -/
def memberOf {α : Type} (key : String) (write : α → Json) : Option α → List (String × Json)
  | some a => [(key, write a)]
  | none => []

end PlanQuota.Json
