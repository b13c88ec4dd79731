import PlanQuota.AmountText
import PlanQuota.Http.Client
import PlanQuota.Report

/-!
The command that brings one entitlement about: it observes it once and sets it at most once, and
prints what it found and did.
-/
namespace PlanQuota.CommandLine

/-- What a run of the command printed and called, and the connection after it. -/
structure Run where
  lines : List String
  calls : List Call
  link : Http.Link

def usage : String := "Usage: entitlement <subaccount-guid> <service> <plan> [amount]"

/-- The amount argument; its absence is no fault. -/
def amount? : List String → Except String (Option Int64)
  | [] => .ok none
  | text :: _ =>
    match AmountText.parse text with
    | .ok n => .ok (some n)
    | .error fault => .error ("Invalid amount " ++ text ++ ": " ++ fault.message)

variable (map : Host.Mapping) (texts : Http.Texts)

/-- The client that the environment describes. -/
def client? (e : Environment) : Except Failure Http.Client := do
  let settings ← Settings.ofEnvironment map e
  Http.Client.ofSettings texts settings

/-- What is printed about an observation. -/
def found (o : Observation) : List String := [
  "Entitled plan: " ++ (Report.plan o.state.plan).toText,
  "Assignment: " ++ (Report.optional Report.assignment o.state.assignment).toText]

def setLine (required : Quota) : Except Failure Unit → String
  | .ok _ => "Set " ++ required.text
  | .error failure => "Failed: " ++ failure.message

/-- Makes the change that an observation asks for. -/
def converge (remote : Remote Http.Link) (desired : Desired) (o : Observation) (l : Http.Link) :
    Run :=
  let set (o' : Outcome Http.Link Unit) : Run :=
    ⟨found o ++ [setLine o.required o'.result], o'.calls, o'.state⟩
  match o.mutation with
  | .none => ⟨found o ++ ["Already up to date"], [], l⟩
  | .assign => set (Engine.create remote desired o.required l)
  | .update => set (Engine.update remote desired o.required l)

def observeAndConverge (remote : Remote Http.Link) (desired : Desired) (l : Http.Link) : Run :=
  let seen := Engine.observe remote desired none l
  match seen.result with
  | .error failure => ⟨["Observe failed: " ++ failure.message], seen.calls, seen.state⟩
  | .ok o =>
    let r := converge remote desired o seen.state
    { r with calls := seen.calls ++ r.calls }

/-- A run that ends before anything is called. -/
def Run.idle (line : String) (l : Http.Link) : Run := ⟨[line], [], l⟩

/-- Runs the command with its arguments; those after the amount do not count. -/
def run (args : List String) (e : Environment) (l : Http.Link) : Run :=
  match args with
  | entity :: service :: plan :: rest =>
    match client? map texts e with
    | .error failure => .idle failure.message l
    | .ok client =>
      match amount? rest with
      | .error message => .idle message l
      | .ok amount =>
        observeAndConverge client.remote { Desired.new service plan entity with amount } l
  | _ => .idle usage l

/-- The printed lines, each ended. -/
def Run.output (r : Run) : String := String.join (r.lines.map (· ++ "\n"))

end PlanQuota.CommandLine
