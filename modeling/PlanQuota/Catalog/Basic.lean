import PlanQuota.Binary64.Basic

/-!
The catalog of a remote service: the plans an account is entitled to, and the plans that are
assigned, each with one record for every entity that holds it.
-/
namespace PlanQuota

/-- A plan that can be ordered. -/
structure EntitledPlan where
  name : String
  displayName : Option String
  identifier : Option String
  category : Option String
  unlimited : Bool
  amount : Option Binary64
  deriving DecidableEq, Repr

structure EntitledService where
  name : String
  displayName : Option String
  plans : List EntitledPlan
  deriving DecidableEq, Repr

/-- What one entity holds of a plan. -/
structure Assignment where
  entity : String
  entityType : Option String
  entityState : Option String
  stateMessage : Option String
  amount : Option Binary64
  requestedAmount : Option Binary64
  enabled : Option Bool
  unlimitedAmount : Option Bool
  deriving DecidableEq, Repr

structure AssignedPlan where
  name : String
  identifier : Option String
  assignments : List Assignment
  deriving DecidableEq, Repr

structure AssignedService where
  name : String
  displayName : Option String
  plans : List AssignedPlan
  deriving DecidableEq, Repr

structure Catalog where
  entitled : List EntitledService
  assigned : List AssignedService
  deriving DecidableEq, Repr

namespace Catalog

def empty : Catalog := ⟨[], []⟩

instance : Inhabited Catalog := ⟨empty⟩

end Catalog

-- Two catalogs hold the same values if they differ only in the sign of zero amounts.

def EntitledPlan.unsigned (p : EntitledPlan) : EntitledPlan :=
  { p with amount := p.amount.map Binary64.unsignedZero }

def EntitledService.unsigned (s : EntitledService) : EntitledService :=
  { s with plans := s.plans.map EntitledPlan.unsigned }

def Assignment.unsigned (a : Assignment) : Assignment :=
  { a with
    amount := a.amount.map Binary64.unsignedZero
    requestedAmount := a.requestedAmount.map Binary64.unsignedZero }

def AssignedPlan.unsigned (p : AssignedPlan) : AssignedPlan :=
  { p with assignments := p.assignments.map Assignment.unsigned }

def AssignedService.unsigned (s : AssignedService) : AssignedService :=
  { s with plans := s.plans.map AssignedPlan.unsigned }

def Catalog.unsigned (c : Catalog) : Catalog :=
  ⟨c.entitled.map EntitledService.unsigned, c.assigned.map AssignedService.unsigned⟩

end PlanQuota
