import PlanQuota.Json.Reader
import PlanQuota.Json.Record

/-! The structured body of a refused call. -/
namespace PlanQuota

structure Refusal where
  code : Option Int64
  message : Option String
  target : Option String
  correlation : Option String
  deriving DecidableEq, Repr

namespace Refusal

def keys : List String := ["code", "message", "target", "correlationID"]

def detailOfJson? (j : Json) : Option Refusal := do
  let f ← j.fields? keys
  let code ← (f "code").optional Json.int64?
  let message ← (f "message").optional Json.string?
  let target ← (f "target").optional Json.string?
  let correlation ← (f "correlationID").optional Json.string?
  return { code, message, target, correlation }

/-- A document carries its refusal in the field `error`. -/
def ofJson? (j : Json) : Option Refusal := do
  let f ← j.fields? ["error"]
  (f "error").required detailOfJson?

def toJson (r : Refusal) : Json := .record [("error", .record [
  ("code", .ofOption .ofInt64 r.code),
  ("message", .ofOption .text r.message),
  ("target", .ofOption .text r.target),
  ("correlationID", .ofOption .text r.correlation)])]

def ofBytes? (body : List UInt8) : Option Refusal := (Json.ofBytes? body).bind ofJson?

end Refusal
end PlanQuota
