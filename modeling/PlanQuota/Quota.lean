import PlanQuota.Catalog.Basic
import PlanQuota.Desired

/-!
The quota of an entitlement. It is either bounded by an amount or only switched on; which of the
two is decided when the entitlement is first seen and stays so, because catalog data may be
incomplete from one pass to the next.
-/
namespace PlanQuota

inductive Quota
  | numeric (amount : Int64)
  | enabled (on : Bool)
  deriving DecidableEq, Repr

namespace Quota

/-- An unlimited plan is never bounded, any other one is if the caller gives an amount. -/
def isBounded (unlimited : Bool) (amount : Option Int64) : Bool := !unlimited && amount.isSome

def isNumeric : Quota → Bool
  | numeric _ => true
  | enabled _ => false

/-- The quota that takes everything back and stays of its kind. -/
def removal : Quota → Quota
  | numeric _ => numeric 0
  | enabled _ => enabled false

def amount? : Quota → Option Int64
  | numeric n => some n
  | enabled _ => none

def enable? : Quota → Option Bool
  | numeric _ => none
  | enabled b => some b

/-- The quota of an entitlement seen for the first time. -/
def derive (plan : EntitledPlan) (desired : Desired) : Quota :=
  match desired.amount with
  | some n => if isBounded plan.unlimited desired.amount then numeric n else enabled true
  | none => enabled true

/-- Like `derive`, but an established quota keeps its kind and only its amount is renewed. -/
def resolve (plan : EntitledPlan) (desired : Desired) (established : Option Quota) : Quota :=
  match established with
  | some (numeric n) => numeric (desired.amount.getD n)
  | some (enabled _) => enabled true
  | none => derive plan desired

def toJson : Quota → Json
  | numeric n => .record [("numeric", .ofInt64 n)]
  | enabled b => .record [("enabled", .bool b)]

/-- An object with exactly one member. -/
def ofJson? (j : Json) : Option Quota :=
  match j with
  | .object [(some "numeric", v)] => (Json.int64? v).map numeric
  | .object [(some "enabled", v)] => (Json.bool? v).map enabled
  | _ => none

/-- The quota as log lines and reports show it. -/
def text : Quota → String
  | numeric n => "Numeric(" ++ toString n.toInt ++ ")"
  | enabled true => "Enabled(true)"
  | enabled false => "Enabled(false)"

@[simp] theorem isNumeric_removal (q : Quota) : q.removal.isNumeric = q.isNumeric := by
  cases q <;> rfl

end Quota
end PlanQuota
