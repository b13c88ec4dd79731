/-! Numbers in a base up to sixteen, and texts cut at marks. -/
namespace PlanQuota

/-- The value of a digit, in either case. -/
def digitValue? (base : Nat) (c : Char) : Option Nat :=
  let n :=
    if '0' ≤ c ∧ c ≤ '9' then c.toNat - 0x30
    else if 'a' ≤ c ∧ c ≤ 'f' then c.toNat - 0x57
    else if 'A' ≤ c ∧ c ≤ 'F' then c.toNat - 0x37
    else base
  if n < base then some n else none

/-- The number with the given digits; without digits it is zero. -/
def ofDigits? (base : Nat) (cs : List Char) : Option Nat :=
  cs.foldlM (fun n c => (digitValue? base c).map (base * n + ·)) 0

/-- Digits that go on a number never make it less. -/
theorem le_ofDigitChars (cs : List Char) (n : Nat) : n ≤ Nat.ofDigitChars 10 cs n := by
  induction cs generalizing n with
  | nil => exact Nat.le_refl n
  | cons c cs ih =>
    rw [Nat.ofDigitChars_cons]
    have := ih (10 * n + (c.toNat - '0'.toNat))
    omega

/-- The pieces between the elements that satisfy `p`; always one more than there are of those. -/
def splitBy {α : Type} (p : α → Bool) : List α → List (List α)
  | [] => [[]]
  | c :: r =>
    if p c then [] :: splitBy p r
    else
      match splitBy p r with
      | [] => [[c]]
      | s :: ss => (c :: s) :: ss

/-- What stands before the first element that satisfies `p`, and after it if there is one. -/
def cutAt {α : Type} (p : α → Bool) (xs : List α) : List α × Option (List α) :=
  match xs.dropWhile (!p ·) with
  | [] => (xs, none)
  | _ :: r => (xs.takeWhile (!p ·), some r)

example : ofDigits? 16 ['f', 'F'] = some 255 ∧ ofDigits? 8 ['8'] = none := by decide
example : splitBy (· = 0) [1, 0, 0, 2] = [[1], [], [2]] := by decide

end PlanQuota
