import PlanQuota.Catalog.Basic
import PlanQuota.Failure

/-!
Finding a plan and an assignment in a catalog. Names match exactly and the first match counts; an
assignment that is missing is no failure, two records for one entity are.
-/
namespace PlanQuota

/-- Where a search for an assigned plan ended without one. -/
inductive Absence
  | atService (service : String)
  | atPlan (service plan : String)
  deriving DecidableEq, Repr

def Absence.text : Absence → String
  | atService service => "No assignment for service " ++ service
  | atPlan service plan => "No assignment for plan " ++ service ++ "/" ++ plan

/-- Whether the plan has the name, and the identifier if one is asked for. -/
def AssignedPlan.isNamed (p : AssignedPlan) (name : String) (identifier : Option String) : Bool :=
  p.name = name && (identifier.isNone || p.identifier = identifier)

/-- The entity's record of a plan. -/
def AssignedPlan.assignmentOf (p : AssignedPlan) (entity : String) :
    Except Failure (Option Assignment) :=
  match p.assignments.filter (·.entity = entity) with
  | [] => .ok none
  | [a] => .ok (some a)
  | _ => .error .multipleAssignments

namespace Catalog

def entitledPlan (c : Catalog) (service plan : String) : Except Failure EntitledPlan :=
  match c.entitled.find? (·.name = service) with
  | none => .error (.serviceNotFound service)
  | some s =>
    match s.plans.find? (·.name = plan) with
    | none => .error (.planNotFound plan)
    | some p => .ok p

def assignedPlan (c : Catalog) (service plan : String) (identifier : Option String) :
    Except Absence AssignedPlan :=
  match c.assigned.find? (·.name = service) with
  | none => .error (.atService service)
  | some s =>
    match s.plans.find? (·.isNamed plan identifier) with
    | none => .error (.atPlan service plan)
    | some p => .ok p

/-- What the entity holds of a plan. -/
def assignment (c : Catalog) (service plan : String) (identifier : Option String)
    (entity : String) : Except Failure (Option Assignment) :=
  match c.assignedPlan service plan identifier with
  | .error _ => .ok none
  | .ok p => p.assignmentOf entity

end Catalog
end PlanQuota
