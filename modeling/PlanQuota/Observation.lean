import PlanQuota.Quota

/-! What an observation finds, and the change that is needed next. -/
namespace PlanQuota

/-- A plan that can be ordered, and what the entity holds of it. -/
structure PlanState where
  plan : EntitledPlan
  /-- Absent if the entity was never given the plan. -/
  assignment : Option Assignment
  deriving DecidableEq, Repr

inductive Mutation
  | assign
  | update
  | none
  deriving DecidableEq, Repr

namespace PlanState

/-- Whether the assignment already is as required. One without the flag counts as enabled. -/
def isUpToDate (s : PlanState) (required : Quota) : Bool :=
  match s.assignment with
  | none => false
  | some a =>
    match required with
    | .numeric n => a.amount.any fun x => x.same (Binary64.ofInt n.toInt)
    | .enabled b => a.enabled.getD true == b

/-- The least change that leads to the required quota. -/
def mutation (s : PlanState) (required : Quota) : Mutation :=
  if s.assignment.isNone then .assign
  else if s.isUpToDate required then .none
  else .update

end PlanState

structure Observation where
  state : PlanState
  required : Quota
  deriving DecidableEq, Repr

namespace Observation

def isPresent (o : Observation) : Bool := o.state.assignment.isSome

def isUpToDate (o : Observation) : Bool := o.state.isUpToDate o.required

def mutation (o : Observation) : Mutation := o.state.mutation o.required

end Observation
end PlanQuota
