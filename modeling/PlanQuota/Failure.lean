import PlanQuota.Refusal
import PlanQuota.Url.Basic

/-!
What can go wrong, as causes. A failure that no repetition can cure is terminal. A fault of a
remote call is explained before a caller sees it: by the reason the service gave, if it gave one,
and else by the failed operation.
-/
namespace PlanQuota

/-- What a remote call left behind when it failed. -/
structure RemoteFault where
  /-- Absent if there was no answer. -/
  status : Option Nat
  refusal : Option Refusal
  body : Option (List UInt8)
  message : String
  deriving DecidableEq, Repr

namespace RemoteFault

/-- A call that got no answer. -/
def unanswered (message : String) : RemoteFault := ⟨none, none, none, message⟩

/-- A call that was answered with a status other than success. -/
def answered (status : Nat) (body : List UInt8) : RemoteFault :=
  ⟨some status, Refusal.ofBytes? body, if body = [] then none else some body,
    "unexpected status " ++ toString status⟩

def display (f : RemoteFault) : String :=
  match f.status with
  | some status => "Remote Error (" ++ toString status ++ "): " ++ f.message
  | none => "Remote Error: " ++ f.message

end RemoteFault

/-- Why settings cannot be used. -/
inductive SettingsFault
  | notSet (name : String)
  | base (text : String) (fault : UrlFault)
  | userAgent
  | endpoint (path : String) (fault : UrlFault)
  | other (message : String)
  deriving DecidableEq, Repr

def SettingsFault.message : SettingsFault → String
  | notSet name => name ++ " is not set"
  | base text fault => "invalid base url " ++ text ++ ": " ++ fault.message
  | userAgent => "failed to parse header value"
  | endpoint path fault => "cannot build url for " ++ path ++ ": " ++ fault.message
  | other message => message

inductive Failure
  | serviceNotFound (name : String)
  | planNotFound (name : String)
  /-- Several records of one plan are for the same entity. -/
  | multipleAssignments
  /-- A fault that is not explained yet. -/
  | remote (fault : RemoteFault)
  /-- The reason the service gave. -/
  | refused (reason : String)
  | settingFailed (service plan : String) (cause : Failure)
  | readingFailed (service : String) (cause : Failure)
  | settings (fault : SettingsFault)
  deriving DecidableEq, Repr

namespace Failure

/-- Whether repeating the call cannot help. Only the outermost cause counts. -/
def isTerminal : Failure → Bool
  | serviceNotFound _ | planNotFound _ | multipleAssignments | settings _ => true
  | remote _ | refused _ | settingFailed .. | readingFailed .. => false

def message : Failure → String
  | serviceNotFound name => "failed to find service with the given name " ++ name
  | planNotFound name => "failed to find service plan with the given name " ++ name
  | multipleAssignments => "found multiple service plan assignments"
  | remote fault => fault.display
  | refused reason => "API Error: " ++ reason
  | settingFailed service plan cause =>
    "failed to set entitlement for service " ++ service ++ "/" ++ plan ++ ".: " ++ cause.message
  | readingFailed service cause =>
    "failed to read assignments for service " ++ service ++ ".: " ++ cause.message
  | settings fault => "Invalid Configuration: " ++ fault.message

/-- The text of a structured refusal. -/
def reason (r : Refusal) : String :=
  r.message.getD "" ++ ", Code " ++ toString (r.code.getD 0).toInt

/-- The reason a service gave: the structured one, else the body as it is. -/
def givenReason? : Failure → Option String
  | remote fault =>
    match fault.refusal with
    | some r => some (reason r)
    | none => fault.body.map Utf8.toStringLossy
  | _ => none

/-- The failure a caller sees for a failed call; `wrap` puts the failed operation around it. -/
def explain (wrap : Failure → Failure) (failure : Failure) : Failure :=
  match failure.givenReason? with
  | some reason => refused reason
  | none => wrap failure

end Failure
end PlanQuota
