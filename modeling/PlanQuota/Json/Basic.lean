/-!
Documents as trees. Integers keep their exact value and decimals as many digits as fit 64 bits. A
text that is not Unicode (a lone surrogate escape, bytes that are no UTF-8) is kept as `none`: it is
well formed where nobody reads it and refused where somebody does.
-/
namespace PlanQuota

/-- A number literal. A fraction, an exponent or the text `-0` make it a decimal, which is never
taken for an integer. -/
inductive JsonNumber
  | integer (n : Int)
  | decimal (negative : Bool) (significand : UInt64) (exponent : Int)
  deriving DecidableEq, Repr

inductive Json
  | null
  | bool (b : Bool)
  | number (n : JsonNumber)
  | string (s : Option String)
  | array (elements : List Json)
  | object (members : List (Option String × Json))
  deriving Repr, Inhabited

namespace Json

def text (s : String) : Json := .string (some s)

def ofInt (n : Int) : Json := .number (.integer n)

/-- An object from its members in order. -/
def record (members : List (String × Json)) : Json :=
  .object (members.map fun m => (some m.1, m.2))

/-- The value of the last member of that name. -/
def get? (j : Json) (key : String) : Option Json :=
  match j with
  | .object members => (members.reverse.find? (·.1 = some key)).map (·.2)
  | _ => none

def string? : Json → Option String
  | .string s => s
  | _ => none

def bool? : Json → Option Bool
  | .bool b => some b
  | _ => none

/-- The number that digits make when they go on a number, as far as it fits 64 bits, and the digits
that are left then. -/
def significand (n : Nat) : List Char → Nat × List Char
  | [] => (n, [])
  | d :: ds =>
    let m := Nat.ofDigitChars 10 [d] n
    if m < UInt64.size then significand m ds else (n, d :: ds)

def int? : Json → Option Int
  | .number (.integer n) => some n
  | _ => none

def elements? : Json → Option (List Json)
  | .array js => some js
  | _ => none

end Json
end PlanQuota
