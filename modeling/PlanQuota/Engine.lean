import PlanQuota.Catalog.Lookup
import PlanQuota.Observation
import PlanQuota.SetRequest

/-!
The engine that brings an entitlement about. It works on a remote side whose state it does not
know: each operation makes at most one remote call, never repeats one, and says what it called and
what it logged beside its result.
-/
namespace PlanQuota

inductive LogLine
  | debug (text : String)
  | info (text : String)
  | warn (text : String)
  /-- The text of an error line depends on the connection and is left open. -/
  | error
  deriving DecidableEq, Repr

/-- A call to the remote side. -/
inductive Call
  | read (entity service : String)
  | set (request : SetRequest)
  deriving DecidableEq, Repr

/-- The answer to a call: its result, what was logged on the way, and the remote state after it. -/
structure Answer (σ α : Type) where
  result : Except Failure α
  log : List LogLine
  state : σ

/-- A remote side with states `σ`. -/
structure Remote (σ : Type) where
  read : (entity service : String) → σ → Answer σ Catalog
  set : SetRequest → σ → Answer σ Unit

/-- What an operation of the engine did. -/
structure Outcome (σ α : Type) where
  result : Except Failure α
  calls : List Call
  log : List LogLine
  state : σ

/-- What became of an entitlement that was to be deleted. -/
inductive Deletion
  | alreadyAbsent
  /-- Other owners still need it. -/
  | shared
  /-- The quota was taken back by setting this one. -/
  | revoked (quota : Quota)
  deriving DecidableEq, Repr

namespace Desired

/-- The entitlement as log lines name it. -/
def label (d : Desired) : String := d.service ++ "/" ++ d.plan ++ " for " ++ d.entity

end Desired

namespace Engine

variable {σ : Type}

/-- The failure of a read, as callers see it. -/
def readFailure (desired : Desired) : Failure → Failure :=
  Failure.explain (.readingFailed desired.service)

/-- The failure of a set, as callers see it. -/
def setFailure (desired : Desired) : Failure → Failure :=
  Failure.explain (.settingFailed desired.service desired.plan)

/-- A read by itself, its failure as it is. -/
def fetch (remote : Remote σ) (entity service : String) (s : σ) : Outcome σ Catalog :=
  let answer := remote.read entity service s
  ⟨answer.result, [.read entity service], answer.log, answer.state⟩

/-- A set by itself, its failure as it is. -/
def send (remote : Remote σ) (request : SetRequest) (s : σ) : Outcome σ Unit :=
  let answer := remote.set request s
  ⟨answer.result, [.set request], answer.log, answer.state⟩

/-- What a catalog shows of a desired entitlement. -/
def inspect (catalog : Catalog) (desired : Desired) (established : Option Quota) :
    Except Failure Observation := do
  let plan ← catalog.entitledPlan desired.service desired.plan
  let assignment ←
    catalog.assignment desired.service desired.plan desired.planIdentifier desired.entity
  return ⟨⟨plan, assignment⟩, Quota.resolve plan desired established⟩

def observedText (desired : Desired) (o : Observation) : String :=
  "Observed " ++ desired.label ++ ": assigned=" ++ (if o.isPresent then "true" else "false") ++
    " required=" ++ o.required.text

/-- What is logged about a catalog: where the search for an assignment ended, and the result. -/
def inspectLog (catalog : Catalog) (desired : Desired) (established : Option Quota) :
    List LogLine :=
  match catalog.entitledPlan desired.service desired.plan with
  | .error _ => []
  | .ok _ =>
    (match catalog.assignedPlan desired.service desired.plan desired.planIdentifier with
      | .error absence => [.debug absence.text]
      | .ok _ => []) ++
    (match inspect catalog desired established with
      | .error _ => []
      | .ok o => [.debug (observedText desired o)])

/-- Reads the catalog and looks the desired entitlement up. An established quota keeps its kind. -/
def observe (remote : Remote σ) (desired : Desired) (established : Option Quota) (s : σ) :
    Outcome σ Observation :=
  let answer := remote.read desired.entity desired.service s
  let calls := [Call.read desired.entity desired.service]
  match answer.result with
  | .error failure => ⟨.error (readFailure desired failure), calls, answer.log, answer.state⟩
  | .ok catalog =>
    ⟨inspect catalog desired established, calls,
      answer.log ++ inspectLog catalog desired established, answer.state⟩

/-- Sets the required quota. -/
def update (remote : Remote σ) (desired : Desired) (required : Quota) (s : σ) : Outcome σ Unit :=
  let request := SetRequest.ofQuota desired required
  let answer := remote.set request s
  ⟨answer.result.mapError (setFailure desired), [.set request],
    .info ("Setting " ++ desired.label ++ " to " ++ required.text) :: answer.log, answer.state⟩

/-- The same call as `update`. -/
def create (remote : Remote σ) (desired : Desired) (required : Quota) (s : σ) : Outcome σ Unit :=
  update remote desired required s

/-- Takes the observed entitlement back. `siblings` counts its owners, the caller included; one
that is only switched on stays as long as there are others. -/
def delete (remote : Remote σ) (desired : Desired) (observed : Observation) (siblings : Nat)
    (s : σ) : Outcome σ Deletion :=
  if observed.state.assignment.isNone then
    ⟨.ok .alreadyAbsent, [], [.info (desired.label ++ " already removed")], s⟩
  else if !observed.required.isNumeric && 1 < siblings then
    ⟨.ok .shared, [], [.info (desired.label ++ " still used by " ++ toString (siblings - 1) ++
      " entitlements, skipping removal")], s⟩
  else
    let removal := observed.required.removal
    let o := update remote desired removal s
    ⟨o.result.map fun _ => .revoked removal, o.calls, o.log, o.state⟩

end Engine
end PlanQuota
