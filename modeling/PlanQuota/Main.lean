import PlanQuota.CommandLine
import PlanQuota.Http.Script

/-!
The command. It has no network of its own: the replies of the service come as lines on standard
input, and if there are none the service cannot be reached. Nor has it a mapping of domains: it
knows those in ASCII.
-/
namespace PlanQuota

def Environment.read : IO Environment := do
  let baseUrl ← IO.getEnv baseUrlName
  let token ← IO.getEnv tokenName
  let tokenType ← IO.getEnv tokenTypeName
  return { baseUrl, token, tokenType }

partial def readLines (input : IO.FS.Stream) (lines : List String) : IO (List String) := do
  let line ← input.getLine
  if line.isEmpty then return lines.reverse else readLines input (line :: lines)

end PlanQuota

open PlanQuota in
def main (args : List String) : IO UInt32 := do
  let environment ← Environment.read
  let lines ← readLines (← IO.getStdin) []
  let run := CommandLine.run (fun _ => none) .plain args environment (.new (.ofScript lines))
  IO.print run.output
  return 0
