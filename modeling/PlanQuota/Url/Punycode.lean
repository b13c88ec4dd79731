import PlanQuota.Text.Digits

/-! The encoding of labels with characters outside ASCII by letters, digits and hyphens. -/
namespace PlanQuota.Punycode

def digit? (c : Char) : Option Nat :=
  if 'a' ≤ c ∧ c ≤ 'z' then some (c.toNat - 0x61)
  else if '0' ≤ c ∧ c ≤ '9' then some (c.toNat - 0x30 + 26)
  else none

/-- The part of the bias that is found by repeated division. -/
def scaleDown (delta k : Nat) : Nat × Nat :=
  if 455 < delta then scaleDown (delta / 35) (k + 36) else (delta, k)
termination_by delta
decreasing_by omega

def adapt (delta count : Nat) (first : Bool) : Nat :=
  let d := if first then delta / 700 else delta / 2
  let (d, k) := scaleDown (d + d / count) 0
  k + 36 * d / (d + 38)

/-- Decoding in the middle of a label: the code points so far, the next one and its place, and the
number that is being read, with the weight and the position of its next digit. -/
structure State where
  points : List Nat
  next : Nat
  place : Nat
  start : Nat
  weight : Nat
  position : Nat
  bias : Nat
  deriving DecidableEq, Repr

def State.initial (points : List Nat) : State := ⟨points, 128, 0, 0, 1, 36, 72⟩

def threshold (position bias : Nat) : Nat :=
  if position ≤ bias then 1 else if bias + 26 ≤ position then 26 else position - bias

/-- Weights are words of 32 bits. -/
def weightLimit : Nat := 4294967296

/-- The last digit of a number puts a code point into its place. -/
def State.step? (s : State) (c : Char) : Option State := do
  let d ← digit? c
  let place := s.place + d * s.weight
  let t := threshold s.position s.bias
  if t ≤ d then
    let weight := s.weight * (36 - t)
    if weightLimit ≤ weight then none
    return { s with place, weight, position := s.position + 36 }
  let count := s.points.length + 1
  let point := s.next + place / count
  let i := place % count
  if 0x110000 ≤ point then none
  return ⟨s.points.take i ++ point :: s.points.drop i, point, i + 1, i + 1, 1, 36,
    adapt (place - s.start) count (s.start = 0)⟩

/-- The code points of a label; those before the last hyphen stand for themselves, and there is no
hyphen if there are none. -/
def decode? (label : List Char) : Option (List Nat) := do
  let (tail, head) := cutAt (· = '-') label.reverse
  if head = some [] then none
  let s ← tail.reverse.foldlM State.step? (.initial ((head.getD []).reverse.map Char.toNat))
  if s.position = 36 then some s.points else none

example : decode? "mnchen-3ya".toList = some ("münchen".toList.map Char.toNat) := by decide +kernel
example : decode? ['-', 'a'] = none ∧ decode? ['a', '-'] = some [0x61] := by decide +kernel

end PlanQuota.Punycode
