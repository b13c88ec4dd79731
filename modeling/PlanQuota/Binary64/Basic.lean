/-!
Finite binary floating point numbers of 64 bits. A magnitude is known by its rank among the
nonnegative ones, which is also its bit pattern; `units` gives the magnitude exactly, as a multiple
of the smallest positive number. Rounding goes to the nearest number, ties to the even rank. A
decimal is rounded step by step: its digits first, and then again with each power of ten.
-/
namespace PlanQuota

/-- How many ranks share a binary exponent. -/
def Binary64.binade : Nat := 0x10000000000000

/-- The least rank that stands for no finite number. -/
def Binary64.rankLimit : Nat := 2047 * Binary64.binade

structure Binary64 where
  negative : Bool
  rank : Nat
  finite : rank < Binary64.rankLimit
  deriving DecidableEq, Repr

namespace Binary64

/-- The binary exponent of a rank, counted from that of the smallest positive number. -/
def shift (rank : Nat) : Nat := rank / binade - 1

/-- The exact magnitude of a rank, in units of 2 ^ -1074. -/
def unitsOfRank (rank : Nat) : Nat := (rank - shift rank * binade) * Nat.pow 2 (shift rank)

def units (x : Binary64) : Nat := unitsOfRank x.rank

/-- A number as a multiple of 2 ^ -1074; both zeros give 0. -/
def toInt (x : Binary64) : Int := if x.negative then -(x.units : Int) else x.units

/-- The units of the number one. -/
def unitsOfOne : Nat := Nat.pow 2 1074

/-- The natural number nearest to `num / den`, of two equally near ones the even one. -/
def roundDiv (num den : Nat) : Nat :=
  let q := num / den
  let r := num % den
  if 2 * r < den then q
  else if 2 * r = den then q + q % 2
  else q + 1

/-- The shift at which `num / den` units have at most 53 binary digits. -/
def shiftFor (num den : Nat) : Nat := (num / den).log2 - 52

/-- The rank nearest to `num / den`. -/
def rankNear (num den : Nat) : Nat :=
  let k := shiftFor (num * unitsOfOne) den
  k * binade + roundDiv (num * unitsOfOne) (den * Nat.pow 2 k)

/-- The number of a rank, unless that is too large for a finite one. -/
def ofRank? (negative : Bool) (rank : Nat) : Option Binary64 :=
  if h : rank < rankLimit then some ⟨negative, rank, h⟩ else none

def product (r s : Nat) : Nat := rankNear (unitsOfRank r * unitsOfRank s) (unitsOfOne * unitsOfOne)

def quotient (r s : Nat) : Nat := rankNear (unitsOfRank r) (unitsOfRank s)

def powerOfTen (n : Nat) : Nat := rankNear (Nat.pow 10 n) 1

/-- The exponent of the largest power of ten that is a finite number. -/
def maxPower : Nat := 308

/-- Divides that many times by the largest power of ten, until zero is reached. -/
def lower : Nat → Nat → Nat
  | 0, r => r
  | n + 1, r => if r = 0 then 0 else lower n (quotient r (powerOfTen maxPower))

/-- A significand times a power of ten. Both are rounded, and what they give once more; further
down than the largest power reaches it takes several divisions. -/
def ofDecimal? (negative : Bool) (significand : Nat) (exponent : Int) : Option Binary64 :=
  let r := rankNear significand 1
  if exponent < 0 then
    let n := exponent.natAbs
    let times := (n - 1) / maxPower
    ofRank? negative (quotient (lower times r) (powerOfTen (n - times * maxPower)))
  else if exponent ≤ maxPower then ofRank? negative (product r (powerOfTen exponent.natAbs))
  else if significand = 0 then ofRank? negative 0
  else none

/-- An integer past the largest finite number is taken to be that number. -/
def ofInt (n : Int) : Binary64 :=
  ⟨decide (n < 0), min (rankNear n.natAbs 1) (rankLimit - 1), by
    have : rankLimit = 2047 * 0x10000000000000 := rfl
    omega⟩

/-- Equal as numbers: the two zeros are. -/
def same (x y : Binary64) : Bool := decide (x.toInt = y.toInt)

/-- The number with positive zero for negative zero, which equals it. -/
def unsignedZero (x : Binary64) : Binary64 :=
  if x.rank = 0 then { x with negative := false } else x

/-- The pattern of 64 bits. -/
def bits (x : Binary64) : Nat := (if x.negative then 0x8000000000000000 else 0) + x.rank

instance : Inhabited Binary64 := ⟨⟨false, 0, by decide⟩⟩

example : (ofInt 1).bits = 0x3ff0000000000000 := by decide +kernel
example : (ofDecimal? true 1 (-1)).map bits = some 0xbfb999999999999a := by decide +kernel
example : (ofDecimal? false 90071992547409910 (-1)).map bits =
    some (ofInt 9007199254740990).bits := by decide +kernel
example : (ofDecimal? false 2 308) = none := by decide +kernel
example : (ofDecimal? false 5 (-324)).map bits = some 1 := by decide +kernel
example : (ofInt 9007199254740993).bits = (ofInt 9007199254740992).bits := by decide +kernel

end Binary64
end PlanQuota
