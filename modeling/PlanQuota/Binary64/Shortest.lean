import PlanQuota.Binary64.Basic

/-!
The shortest decimal that reads back as a given number. The decimals that round to a number fill
an interval between the midpoints to its neighbours; the coarsest grid of powers of ten with a
point in it gives the digits, the nearer of two such points wins and a tie goes up.
-/
namespace PlanQuota

/-- A natural number times a power of ten. -/
structure Decimal where
  coefficient : Nat
  exponent : Int
  deriving DecidableEq, Repr

namespace Binary64

/-- The numbers that round to a given one, in half units of 2 ^ -1074. -/
structure Interval where
  low : Nat
  mid : Nat
  high : Nat
  /-- Whether the ends round to the number as well. -/
  closed : Bool
  deriving DecidableEq, Repr

def interval (rank : Nat) : Interval :=
  ⟨unitsOfRank (rank - 1) + unitsOfRank rank, 2 * unitsOfRank rank,
    unitsOfRank rank + unitsOfRank (rank + 1), rank % 2 = 0⟩

/-- The half units of the number one. -/
def halfUnitsOfOne : Nat := 2 * unitsOfOne

def digitCount (n : Nat) : Nat := (Nat.toDigits 10 n).length

/-- The exponent of the largest power of ten that is at most `mid`. -/
def magnitude (mid : Nat) : Int :=
  if halfUnitsOfOne ≤ mid then (digitCount (mid / halfUnitsOfOne) : Int) - 1
  else -(digitCount ((halfUnitsOfOne - 1) / mid) : Int)

/-- The point of the grid of `10 ^ p` that lies in the interval and is nearest to its number. -/
def onGrid? (i : Interval) (p : Int) : Option Decimal :=
  let up := Nat.pow 10 (-p).toNat
  let step := halfUnitsOfOne * Nat.pow 10 p.toNat
  let below := i.mid * up / step
  let above := below + 1
  let lowIn := if i.closed then i.low * up ≤ below * step else i.low * up < below * step
  let highIn := if i.closed then above * step ≤ i.high * up else above * step < i.high * up
  if lowIn ∧ highIn then
    if i.mid * up - below * step < above * step - i.mid * up then some ⟨below, p⟩
    else some ⟨above, p⟩
  else if lowIn then some ⟨below, p⟩
  else if highIn then some ⟨above, p⟩
  else none

/-- Seventeen digits always suffice. -/
def shortest (rank : Nat) : Decimal :=
  if rank = 0 then ⟨0, 0⟩
  else
    let i := interval rank
    let e := magnitude i.mid
    ((List.range 17).findSome? fun (n : Nat) => onGrid? i (e - n)).getD ⟨i.mid, 0⟩

end Binary64

/-- How a decimal is laid out: in positions for magnitudes from `10 ^ least` up to below
`10 ^ limit`, and else with an exponent. -/
structure DecimalLayout where
  least : Int
  limit : Int
  deriving DecidableEq, Repr

namespace DecimalLayout

/-- A positional text always has a digit after the point. -/
def positional (digits : List Char) (exponent : Int) : List Char :=
  if 0 ≤ exponent then digits ++ List.replicate exponent.toNat '0' ++ ['.', '0']
  else
    let places := (-exponent).toNat
    let padded := List.replicate (places + 1 - digits.length) '0' ++ digits
    let cut := padded.length - places
    padded.take cut ++ '.' :: padded.drop cut

def scientific (digits : List Char) (exponent : Int) : List Char :=
  let e := (toString (exponent + digits.length - 1)).toList
  match digits with
  | [] => []
  | [d] => d :: 'e' :: e
  | d :: ds => d :: '.' :: ds ++ 'e' :: e

def write (l : DecimalLayout) (negative : Bool) (d : Decimal) : List Char :=
  let all := Nat.toDigits 10 d.coefficient
  let digits := (all.reverse.dropWhile (· = '0')).reverse
  let exponent := d.exponent + (all.length - digits.length : Nat)
  let top := exponent + digits.length - 1
  let text :=
    if d.coefficient = 0 then positional ['0'] 0
    else if l.least ≤ top ∧ top < l.limit then positional digits exponent
    else scientific digits exponent
  if negative then '-' :: text else text

end DecimalLayout

/-- Amounts are shown in positions from 0.0001 up to below 10 ^ 16. -/
def amountLayout : DecimalLayout := ⟨-4, 16⟩

def Binary64.text (x : Binary64) : String :=
  String.ofList (amountLayout.write x.negative (Binary64.shortest x.rank))

example : ((Binary64.ofDecimal? false 3 (-1)).map Binary64.text) = some "0.3" := by decide +kernel
example : ((Binary64.ofDecimal? true 0 0).map Binary64.text) = some "-0.0" := by decide +kernel
example : ((Binary64.ofDecimal? false 1 16).map Binary64.text) = some "1e16" := by decide +kernel
example : ((Binary64.ofDecimal? false 15 (-6)).map Binary64.text) = some "1.5e-5" := by
  decide +kernel
example : ((Binary64.ofDecimal? false 1 (-4)).map Binary64.text) = some "0.0001" := by
  decide +kernel
example : (Binary64.text ⟨false, 1, by decide⟩) = "5e-324" := by decide +kernel

end PlanQuota
