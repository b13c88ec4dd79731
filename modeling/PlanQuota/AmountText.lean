/-! Reading an amount that a person typed: an optional sign and decimal digits. -/
namespace PlanQuota

inductive AmountFault
  | empty
  | invalidDigit
  | tooLarge
  | tooSmall
  deriving DecidableEq, Repr

def AmountFault.message : AmountFault → String
  | empty => "cannot parse integer from empty string"
  | invalidDigit => "invalid digit found in string"
  | tooLarge => "number too large to fit in target type"
  | tooSmall => "number too small to fit in target type"

namespace AmountText

/-- Takes in one more digit. The range is checked at each digit, so the leftmost fault counts. -/
def step (negative : Bool) (n : Int) (c : Char) : Except AmountFault Int :=
  if c.isDigit then
    let d : Int := c.toNat - 0x30
    let m := if negative then 10 * n - d else 10 * n + d
    if m < -0x8000000000000000 then .error .tooSmall
    else if 0x8000000000000000 ≤ m then .error .tooLarge
    else .ok m
  else .error .invalidDigit

def digits (negative : Bool) (cs : List Char) : Except AmountFault Int64 :=
  if cs = [] then .error .invalidDigit else (cs.foldlM (step negative) 0).map Int64.ofInt

/-- A sign alone is an invalid digit. -/
def parse (s : String) : Except AmountFault Int64 :=
  match s.toList with
  | [] => .error .empty
  | '+' :: cs => digits false cs
  | '-' :: cs => digits true cs
  | cs => digits false cs

example : (parse "-9223372036854775808").toOption = some (-9223372036854775808) := by
  decide +kernel
example : (parse "9223372036854775808x").toOption = none := by decide +kernel

end AmountText
end PlanQuota
