import PlanQuota.Text.Digits
import PlanQuota.Text.Utf8

/-!
Percent-encoding. A part of a URL is written by escaping the bytes of every character outside
ASCII, of every control, and of the characters that are marks in that part.
-/
namespace PlanQuota.Percent

def hexDigit (n : Nat) : Char := (Nat.digitChar n).toUpper

/-- The escape of a byte. -/
def escape (b : UInt8) : List Char := ['%', hexDigit (b.toNat / 16), hexDigit (b.toNat % 16)]

def isControl (c : Char) : Bool := c.toNat < 0x20 || 0x7F ≤ c.toNat

/-- The characters escaped in a fragment. -/
def inFragment (c : Char) : Bool := isControl c || [' ', '"', '<', '>', '\x60'].contains c

def inPath (c : Char) : Bool := inFragment c || ['#', '?', '\x7b', '\x7d'].contains c

def inCredentials (c : Char) : Bool :=
  inPath c || ['/', ':', ';', '=', '@', '[', '\\', ']', '^', '|'].contains c

def inQuery (c : Char) : Bool := isControl c || [' ', '"', '#', '<', '>'].contains c

/-- The characters escaped in the query of a URL whose scheme is special. -/
def inSpecialQuery (c : Char) : Bool := inQuery c || c = '\''

def encodeChar (marks : Char → Bool) (c : Char) : List Char :=
  if marks c then (Utf8.encodeChar c).flatMap escape else [c]

def encode (marks : Char → Bool) (cs : List Char) : List Char := cs.flatMap (encodeChar marks)

/-- The bytes of a text with its escapes undone; a percent sign without two digits stays. -/
def decode : List Char → List UInt8
  | [] => []
  | '%' :: a :: b :: r =>
    match digitValue? 16 a, digitValue? 16 b with
    | some x, some y => .ofNat (16 * x + y) :: decode r
    | _, _ => Utf8.encodeChar '%' ++ decode (a :: b :: r)
  | c :: r => Utf8.encodeChar c ++ decode r

example : encode inPath ['a', ' ', 'é'] = "a%20%C3%A9".toList := by decide +kernel
example : decode "%41%2f%".toList = [0x41, 0x2F, 0x25] := by decide +kernel

end PlanQuota.Percent
