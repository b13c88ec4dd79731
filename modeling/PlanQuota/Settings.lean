import PlanQuota.Failure
import PlanQuota.Text.Quoted
import PlanQuota.Url.Parse

/-! The settings for talking to a service, from texts or from the environment. -/
namespace PlanQuota

structure Settings where
  base : Url
  token : String
  /-- The word before the token in the authorization. -/
  tokenType : String
  userAgent : String
  /-- The time limit of a request in milliseconds. -/
  timeout : Option Nat
  deriving DecidableEq, Repr

/-- The variables that settings are read from; a value that is not Unicode counts as absent. -/
structure Environment where
  baseUrl : Option String
  token : Option String
  tokenType : Option String
  deriving DecidableEq, Repr

namespace Environment

def baseUrlName : String := "BTP_ENTITLEMENTS_URL"

def tokenName : String := "BTP_ACCESS_TOKEN"

def tokenTypeName : String := "BTP_TOKEN_TYPE"

end Environment

namespace Settings

def new (base : Url) (token : String) : Settings :=
  ⟨base, token, "Bearer", "btp-entitlements/0.1.0", none⟩

variable (map : Host.Mapping)

def parse (base token : String) : Except Failure Settings :=
  match Url.parse map base with
  | .ok url => .ok (new url token)
  | .error fault => .error (.settings (.base base fault))

def withTokenType (s : Settings) (tokenType : String) : Settings := { s with tokenType }

def withUserAgent (s : Settings) (userAgent : String) : Settings := { s with userAgent }

def withTimeout (s : Settings) (milliseconds : Nat) : Settings :=
  { s with timeout := some milliseconds }

/-- A blank token type counts as absent. -/
def ofEnvironment (e : Environment) : Except Failure Settings :=
  match e.baseUrl, e.token with
  | none, _ => .error (.settings (.notSet Environment.baseUrlName))
  | some _, none => .error (.settings (.notSet Environment.tokenName))
  | some base, some token => do
    let s ← parse map base token
    let tokenType := trimBlanks (e.tokenType.getD "")
    return if tokenType = "" then s else s.withTokenType tokenType

/-- The authorization of every request. -/
def authorization (s : Settings) : String := s.tokenType ++ " " ++ s.token

/-- The URL of a path of the service, below the path of the base. -/
def endpoint (s : Settings) (path : String) : Except Failure Url :=
  let front := s.base.path.toText
  let base := if front.toList.getLast? = some '/' then s.base else s.base.setPath (front ++ "/")
  match base.join (String.ofList (path.toList.dropWhile (· = '/'))) with
  | .ok url => .ok url
  | .error fault => .error (.settings (.endpoint path fault))

/-- Milliseconds, or from a second on seconds with as many places as are needed. -/
def durationText (milliseconds : Nat) : String :=
  if milliseconds = 0 then "0ns"
  else if milliseconds < 1000 then toString milliseconds ++ "ms"
  else
    let rest := milliseconds % 1000
    let places := (Nat.toDigits 10 (1000 + rest)).drop 1
    let kept := (places.reverse.dropWhile (· = '0')).reverse
    toString (milliseconds / 1000) ++ (if kept = [] then "" else "." ++ String.ofList kept) ++ "s"

def timeoutText : Option Nat → String
  | some n => "Some(" ++ durationText n ++ ")"
  | none => "None"

/-- The settings as they may be shown: the token is left out. -/
def describe (s : Settings) : String :=
  "EntitlementsConfig \x7b base_url: " ++ quoted s.base.toText ++ ", token: \"<redacted>\"" ++
    ", token_type: " ++ quoted s.tokenType ++ ", user_agent: " ++ quoted s.userAgent ++
    ", timeout: " ++ timeoutText s.timeout ++ " \x7d"

example : durationText 1500 = "1.5s" ∧ durationText 60000 = "60s" := by decide +kernel

end Settings
end PlanQuota
