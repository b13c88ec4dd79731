import PlanQuota.Http.Message
import PlanQuota.Json.Reader
import PlanQuota.Json.Record

/-! Replies written down, one document a line: a status and, if there is one, a body. -/
namespace PlanQuota.Http

def Reply.ofJson? (j : Json) : Option Reply := do
  let f ← j.fields? ["status", "body"]
  let status ← (f "status").required Json.int64?
  let body ← (f "body").orDefault "" Json.string?
  return .answer status.toNatClampNeg (Utf8.ofString body)

/-- A line that is no reply stands for a connection that ends without one. -/
def Reply.ofLine (line : String) : Reply := ((Json.ofString? line).bind ofJson?).getD .dropped

/-- The other end that speaks by a script; without a line there is nobody. -/
def Peer.ofScript (lines : List String) : Peer :=
  if lines.isEmpty then .refusing else .scripted (lines.map Reply.ofLine)

end PlanQuota.Http
