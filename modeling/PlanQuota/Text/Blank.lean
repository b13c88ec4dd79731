/-! The characters with the Unicode property White_Space, and trimming by them. -/
namespace PlanQuota

def isBlank (c : Char) : Bool :=
  let n := c.toNat
  (0x09 ≤ n && n ≤ 0x0D) || n = 0x20 || n = 0x85 || n = 0xA0 || n = 0x1680 ||
    (0x2000 ≤ n && n ≤ 0x200A) || n = 0x2028 || n = 0x2029 || n = 0x202F || n = 0x205F || n = 0x3000

/-- Drops the elements at both ends that satisfy `p`. -/
def trimEnds {α : Type} (p : α → Bool) (xs : List α) : List α :=
  ((xs.dropWhile p).reverse.dropWhile p).reverse

/-- The text without the blanks at its ends. -/
def trimBlanks (s : String) : String := String.ofList (trimEnds isBlank s.toList)

example : trimBlanks "\t  a b\u3000\n" = "a b" := by decide +kernel
example : isBlank '\u200b' = false := by decide

end PlanQuota
