import PlanQuota.Quota

/-! The request that sets the quota of plans for entities. -/
namespace PlanQuota

/-- The quota of one entity: an amount or a flag. -/
structure EntityGrant where
  entity : String
  amount : Option Int64
  enable : Option Bool
  deriving DecidableEq, Repr

structure PlanGrant where
  service : String
  plan : String
  planIdentifier : Option String
  grants : List EntityGrant
  deriving DecidableEq, Repr

structure SetRequest where
  plans : List PlanGrant
  deriving DecidableEq, Repr

namespace EntityGrant

def keys : List String := ["subaccountGUID", "amount", "enable"]

def ofJson? (j : Json) : Option EntityGrant := do
  let f ← j.fields? keys
  let entity ← (f "subaccountGUID").required Json.string?
  let amount ← (f "amount").optional Json.int64?
  let enable ← (f "enable").optional Json.bool?
  return { entity, amount, enable }

def toJson (g : EntityGrant) : Json :=
  .record ([("subaccountGUID", .text g.entity)] ++ Json.memberOf "amount" .ofInt64 g.amount ++
    Json.memberOf "enable" .bool g.enable)

end EntityGrant

namespace PlanGrant

def keys : List String :=
  ["serviceName", "servicePlanName", "servicePlanUniqueIdentifier", "assignmentInfo"]

def ofJson? (j : Json) : Option PlanGrant := do
  let f ← j.fields? keys
  let service ← (f "serviceName").required Json.string?
  let plan ← (f "servicePlanName").required Json.string?
  let planIdentifier ← (f "servicePlanUniqueIdentifier").optional Json.string?
  let grants ← (f "assignmentInfo").required (Json.list? EntityGrant.ofJson?)
  return { service, plan, planIdentifier, grants }

def toJson (g : PlanGrant) : Json :=
  .record ([("serviceName", .text g.service), ("servicePlanName", .text g.plan)] ++
    Json.memberOf "servicePlanUniqueIdentifier" .text g.planIdentifier ++
    [("assignmentInfo", .array (g.grants.map EntityGrant.toJson))])

end PlanGrant

namespace SetRequest

def keys : List String := ["subaccountServicePlans"]

def ofJson? (j : Json) : Option SetRequest := do
  let f ← j.fields? keys
  let plans ← (f "subaccountServicePlans").required (Json.list? PlanGrant.ofJson?)
  return { plans }

def toJson (r : SetRequest) : Json :=
  .record [("subaccountServicePlans", .array (r.plans.map PlanGrant.toJson))]

/-- The request that gives the desired plan to its entity with the required quota. -/
def ofQuota (desired : Desired) (required : Quota) : SetRequest :=
  ⟨[⟨desired.service, desired.plan, desired.planIdentifier,
    [⟨desired.entity, required.amount?, required.enable?⟩]⟩]⟩

end SetRequest
end PlanQuota
