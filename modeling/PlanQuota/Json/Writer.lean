import PlanQuota.Json.Basic

/-!
Writing a document in its compact form. An undecodable string is written as a lone surrogate
escape, so that reading gives back the same tree.
-/
namespace PlanQuota.Json

def hexDigit (n : Nat) : Char := Nat.digitChar (n % 16)

/-- A character inside a string literal: only the quote, the backslash and controls are escaped. -/
def escape (c : Char) : List Char :=
  if c = '"' then ['\\', '"']
  else if c = '\\' then ['\\', '\\']
  else if c = '\x08' then ['\\', 'b']
  else if c = '\x0c' then ['\\', 'f']
  else if c = '\n' then ['\\', 'n']
  else if c = '\r' then ['\\', 'r']
  else if c = '\t' then ['\\', 't']
  else if c < ' ' then ['\\', 'u', '0', '0', hexDigit (c.toNat / 16), hexDigit c.toNat]
  else [c]

def writeString : Option String → List Char
  | some s => '"' :: s.toList.flatMap escape ++ ['"']
  | none => ['"', '\\', 'u', 'd', '8', '0', '0', '"']

def writeInt (n : Int) : List Char :=
  if n < 0 then '-' :: Nat.toDigits 10 n.natAbs else Nat.toDigits 10 n.natAbs

def writeNumber : JsonNumber → List Char
  | .integer n => writeInt n
  | .decimal negative significand exponent =>
    (if negative then ['-'] else []) ++ Nat.toDigits 10 significand.toNat ++
      'e' :: writeInt exponent

mutual

def write : Json → List Char
  | .null => ['n', 'u', 'l', 'l']
  | .bool true => ['t', 'r', 'u', 'e']
  | .bool false => ['f', 'a', 'l', 's', 'e']
  | .number n => writeNumber n
  | .string s => writeString s
  | .array [] => ['[', ']']
  | .array (v :: vs) => '[' :: write v ++ writeElements vs
  | .object [] => ['\x7b', '\x7d']
  | .object ((k, v) :: ms) => '\x7b' :: writeString k ++ ':' :: write v ++ writeMembers ms

/-- The elements after the first one, and the closing bracket. -/
def writeElements : List Json → List Char
  | [] => [']']
  | v :: vs => ',' :: write v ++ writeElements vs

/-- The members after the first one, and the closing brace. -/
def writeMembers : List (Option String × Json) → List Char
  | [] => ['\x7d']
  | (k, v) :: ms => ',' :: writeString k ++ ':' :: write v ++ writeMembers ms

end

def toText (j : Json) : String := String.ofList j.write

end PlanQuota.Json
