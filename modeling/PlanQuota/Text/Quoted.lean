import PlanQuota.Text.Unprintable

/-!
A text in double quotes, as a printed value shows it. The quote, the backslash and the usual
controls have short escapes, what cannot be shown is written by its code point in hexadecimal.
-/
namespace PlanQuota

namespace Quoted

def escape : Char → List Char
  | '"' => ['\\', '"']
  | '\\' => ['\\', '\\']
  | '\n' => ['\\', 'n']
  | '\r' => ['\\', 'r']
  | '\t' => ['\\', 't']
  | '\x00' => ['\\', '0']
  | c => if isUnprintable c then ['\\', 'u', '\x7b'] ++ Nat.toDigits 16 c.toNat ++ ['\x7d'] else [c]

end Quoted

/-- The text between double quotes. -/
def quoted (s : String) : String := String.ofList ('"' :: s.toList.flatMap Quoted.escape ++ ['"'])

example : quoted "a\"\x7f" = "\"a\\\"\\u\x7b7f\x7d\"" := by decide +kernel

end PlanQuota
