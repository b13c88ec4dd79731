import PlanQuota.Json.Record

/-! The entitlement a caller wants to exist. -/
namespace PlanQuota

structure Desired where
  service : String
  plan : String
  /-- Tells plans of one name apart. -/
  planIdentifier : Option String
  /-- The account or directory that receives the plan. -/
  entity : String
  /-- Absent for plans that are only switched on. -/
  amount : Option Int64
  deriving DecidableEq, Repr

namespace Desired

/-- An entitlement without identifier and amount. -/
def new (service plan entity : String) : Desired := ⟨service, plan, none, entity, none⟩

def withAmount (d : Desired) (amount : Int64) : Desired := { d with amount := some amount }

def withIdentifier (d : Desired) (identifier : String) : Desired :=
  { d with planIdentifier := some identifier }

def keys : List String :=
  ["serviceName", "servicePlanName", "servicePlanUniqueIdentifier", "entityId", "amount"]

def ofJson? (j : Json) : Option Desired := do
  let f ← j.fields? keys
  let service ← (f "serviceName").required Json.string?
  let plan ← (f "servicePlanName").required Json.string?
  let planIdentifier ← (f "servicePlanUniqueIdentifier").optional Json.string?
  let entity ← (f "entityId").required Json.string?
  let amount ← (f "amount").optional Json.int64?
  return { service, plan, planIdentifier, entity, amount }

def toJson (d : Desired) : Json := .record [
  ("serviceName", .text d.service),
  ("servicePlanName", .text d.plan),
  ("servicePlanUniqueIdentifier", .ofOption .text d.planIdentifier),
  ("entityId", .text d.entity),
  ("amount", .ofOption .ofInt64 d.amount)]

end Desired
end PlanQuota
