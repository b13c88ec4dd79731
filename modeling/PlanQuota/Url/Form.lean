import PlanQuota.Url.Percent

/-!
Form encoding of a query: pairs of a name and a value, joined by `=` and `&`. A space is a plus
sign, and all but letters, digits and four marks is percent-encoded.
-/
namespace PlanQuota.Form

def isPlain (c : Char) : Bool := c.isAlphanum || ['*', '-', '.', '_'].contains c

def encodeChar (c : Char) : List Char :=
  if c = ' ' then ['+'] else Percent.encodeChar (!isPlain ·) c

def encode (s : String) : List Char := s.toList.flatMap encodeChar

def pairText (p : String × String) : List Char := encode p.1 ++ '=' :: encode p.2

/-- The query of a list of pairs. -/
def write (pairs : List (String × String)) : String :=
  String.ofList (['&'].intercalate (pairs.map pairText))

def decode (cs : List Char) : String :=
  Utf8.toStringLossy (Percent.decode (cs.map fun c => if c = '+' then ' ' else c))

/-- A piece without an equals sign is a name with an empty value. -/
def readPair (cs : List Char) : String × String :=
  let (name, value) := cutAt (· = '=') cs
  (decode name, decode (value.getD []))

/-- The pairs of a query; empty pieces are none. -/
def read (query : String) : List (String × String) :=
  ((splitBy (· = '&') query.toList).filter (· ≠ [])).map readPair

example : write [("a b", "c&d"), ("é", "")] = "a+b=c%26d&%C3%A9=" := by decide +kernel
example : read "a+b=c%26d&&x" = [("a b", "c&d"), ("x", "")] := by decide +kernel

end PlanQuota.Form
