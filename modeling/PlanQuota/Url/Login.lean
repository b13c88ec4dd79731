import PlanQuota.Text.Base64
import PlanQuota.Url.Basic
import PlanQuota.Url.Percent

/-!
The name and the password in a URL. A request does not name them: they are taken out of its URL and
sent as an authorization.
-/
namespace PlanQuota

/-- A name and a password, of which one may be empty. -/
structure Login where
  name : String
  password : String
  deriving DecidableEq, Repr

/-- The value of an authorization by name and password. -/
def Login.authorization (l : Login) : String :=
  "Basic " ++ String.ofList (Base64.encode (Utf8.ofString (l.name ++ ":" ++ l.password)))

namespace Url

/-- What a percent-encoded text stands for, if that is a text. -/
def decoded? (text : String) : Option String := Utf8.toString? (Percent.decode text.toList)

/-- The name and the password, unless both are empty. A name that cannot be decoded is none, and no
password stands by itself then; a password that cannot be decoded counts as empty. -/
def login? (u : Url) : Option Login := do
  let name ← decoded? u.username
  let password := (decoded? u.password).getD ""
  if name = "" ∧ password = "" then none else some ⟨name, password⟩

/-- The URL of a request: without name and password, if these are sent apart from it. -/
def bare (u : Url) : Url :=
  if u.login?.isSome then { u with username := "", password := "" } else u

variable (u : Url)

@[simp] theorem scheme_bare : u.bare.scheme = u.scheme := by
  unfold bare
  split <;> rfl

@[simp] theorem hasHost_bare : u.bare.hasHost = u.hasHost := by
  unfold bare
  split <;> rfl

@[simp] theorem path_bare : u.bare.path = u.path := by
  unfold bare
  split <;> rfl

@[simp] theorem query_bare : u.bare.query = u.query := by
  unfold bare
  split <;> rfl

end Url

example : Login.authorization ⟨"user", "pw"⟩ = "Basic dXNlcjpwdw==" := by decide +kernel

end PlanQuota
