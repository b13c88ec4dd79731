import PlanQuota.Catalog.Basic
import PlanQuota.Json.Reader
import PlanQuota.Json.Record

/-! Reading a catalog from a document. -/
namespace PlanQuota

def EntitledPlan.keys : List String :=
  ["name", "displayName", "uniqueIdentifier", "category", "unlimited", "amount"]

def EntitledPlan.ofJson? (j : Json) : Option EntitledPlan := do
  let f ← j.fields? keys
  let name ← (f "name").orDefault "" Json.string?
  let displayName ← (f "displayName").optional Json.string?
  let identifier ← (f "uniqueIdentifier").optional Json.string?
  let category ← (f "category").optional Json.string?
  let unlimited ← (f "unlimited").orDefault false Json.bool?
  let amount ← (f "amount").optional Json.binary64?
  return { name, displayName, identifier, category, unlimited, amount }

def EntitledService.keys : List String := ["name", "displayName", "servicePlans"]

def EntitledService.ofJson? (j : Json) : Option EntitledService := do
  let f ← j.fields? keys
  let name ← (f "name").orDefault "" Json.string?
  let displayName ← (f "displayName").optional Json.string?
  let plans ← (f "servicePlans").orDefault [] (Json.list? EntitledPlan.ofJson?)
  return { name, displayName, plans }

def Assignment.keys : List String :=
  ["entityId", "entityType", "entityState", "stateMessage", "amount", "requestedAmount", "enabled",
    "unlimitedAmountAssigned"]

def Assignment.ofJson? (j : Json) : Option Assignment := do
  let f ← j.fields? keys
  let entity ← (f "entityId").orDefault "" Json.string?
  let entityType ← (f "entityType").optional Json.string?
  let entityState ← (f "entityState").optional Json.string?
  let stateMessage ← (f "stateMessage").optional Json.string?
  let amount ← (f "amount").optional Json.binary64?
  let requestedAmount ← (f "requestedAmount").optional Json.binary64?
  let enabled ← (f "enabled").optional Json.bool?
  let unlimitedAmount ← (f "unlimitedAmountAssigned").optional Json.bool?
  return { entity, entityType, entityState, stateMessage, amount, requestedAmount, enabled,
           unlimitedAmount }

def AssignedPlan.keys : List String := ["name", "uniqueIdentifier", "assignmentInfo"]

def AssignedPlan.ofJson? (j : Json) : Option AssignedPlan := do
  let f ← j.fields? keys
  let name ← (f "name").orDefault "" Json.string?
  let identifier ← (f "uniqueIdentifier").optional Json.string?
  let assignments ← (f "assignmentInfo").orDefault [] (Json.list? Assignment.ofJson?)
  return { name, identifier, assignments }

def AssignedService.keys : List String := ["name", "displayName", "servicePlans"]

def AssignedService.ofJson? (j : Json) : Option AssignedService := do
  let f ← j.fields? keys
  let name ← (f "name").orDefault "" Json.string?
  let displayName ← (f "displayName").optional Json.string?
  let plans ← (f "servicePlans").orDefault [] (Json.list? AssignedPlan.ofJson?)
  return { name, displayName, plans }

namespace Catalog

def keys : List String := ["entitledServices", "assignedServices"]

def ofJson? (j : Json) : Option Catalog := do
  let f ← j.fields? keys
  let entitled ← (f "entitledServices").orDefault [] (Json.list? EntitledService.ofJson?)
  let assigned ← (f "assignedServices").orDefault [] (Json.list? AssignedService.ofJson?)
  return { entitled, assigned }

def ofBytes? (body : List UInt8) : Option Catalog := (Json.ofBytes? body).bind ofJson?

end Catalog
end PlanQuota
