import PlanQuota.Text.Composed
import PlanQuota.Text.Direction
import PlanQuota.Text.Folded
import PlanQuota.Text.Hidden
import PlanQuota.Text.Joining
import PlanQuota.Url.Punycode

/-!
Valid domains. A label that begins with `xn--` stands for one with characters outside ASCII, which
must be in normal form, hold only characters that need no mapping, begin with no mark, and use
joiners only where they show. If any label of a domain has letters from right to left, every label
must run one way.
-/
namespace PlanQuota.Domain

/-- The code points of a label. -/
abbrev Label := List Nat

def zeroWidthNonJoiner : Nat := 0x200C

def zeroWidthJoiner : Nat := 0x200D

/-- The joiners, and the sharp and the final s of German and Greek, which folding would lose. -/
def kept : List Nat := [zeroWidthNonJoiner, zeroWidthJoiner, 0xDF, 0x3C2]

/-- Description characters, the full stop of ideographs, and the marks of missing text. -/
def refusedRanges : List (Nat × Nat) :=
  [(0x2FF0, 0x2FFF), (0x3002, 0x3002), (0x31EF, 0x31EF), (0xFFFC, 0xFFFD)]

/-- Whether a code point may stand in a label as it is. -/
def isPlain (n : Nat) : Bool :=
  kept.contains n || !(isHidden n || isFolded n || inRanges refusedRanges n)

/-- Whether a joiner may stand between two texts, of which the first is in reverse: after a virama,
and one that keeps letters apart also where they would join. -/
def isJoinerFit (joiner : Nat) (before after : List Nat) : Bool :=
  match before with
  | [] => false
  | n :: _ =>
    Composed.isVirama n ||
      (joiner = zeroWidthNonJoiner && (before.find? (!isTransparent ·)).any joinsNext &&
        (after.find? (!isTransparent ·)).any joinsPrevious)

/-- Whether every joiner of a text may stand where it is; `before` is the text before it in
reverse. -/
def areJoinersFit (before : List Nat) : List Nat → Bool
  | [] => true
  | n :: after =>
    (if n = zeroWidthNonJoiner ∨ n = zeroWidthJoiner then isJoinerFit n before after else true) &&
      areJoinersFit (n :: before) after

/-- Longer labels are refused unread. -/
def maxEncodedLength : Nat := 2000

def maxLength : Nat := 1000

/-- Whether the text that an encoded label stands for may be a label. -/
def isValidDecoded (label : Label) : Bool :=
  label.length ≤ maxLength && label.any (128 ≤ ·) && label.all isPlain &&
    Composed.normalize label = label && !label.head?.any isMark && areJoinersFit [] label

/-- The label that a text in ASCII and in lower case stands for. -/
def label? (text : List Char) : Option Label :=
  match text with
  | 'x' :: 'n' :: '-' :: '-' :: r =>
    if r.length ≤ maxEncodedLength then (Punycode.decode? r).filter isValidDecoded else none
  | _ => some (text.map Char.toNat)

/-- The directions at the inside of a label that begins from left to right. -/
def inLeftToRight : List Direction :=
  [.leftToRight, .number, .sign, .separator, .terminator, .neutral, .boundary, .nonspacing]

def inRightToLeft : List Direction :=
  [.rightToLeft, .arabicLetter, .arabicNumber, .number, .sign, .separator, .terminator, .neutral,
    .boundary, .nonspacing]

/-- Whether a label runs one way: it begins with a letter, ends, marks aside, with a letter of that
way or a number, has nothing of the other way, and not both kinds of numbers if it runs from right
to left. -/
def runsOneWay (label : Label) : Bool :=
  let ds := label.map Direction.ofPoint
  match ds.head?, (ds.reverse.dropWhile (· = .nonspacing)).head? with
  | some first, some last =>
    if first = .leftToRight then
      (last = .leftToRight || last = .number) && ds.all inLeftToRight.contains
    else
      first.isRightToLeft && (last.isRightToLeft || last = .number || last = .arabicNumber) &&
        ds.all inRightToLeft.contains && !(ds.contains .number && ds.contains .arabicNumber)
  | none, _ => true
  | some _, none => false

def hasRightToLeft (label : Label) : Bool :=
  label.any fun n =>
    let d := Direction.ofPoint n
    d.isRightToLeft || d = .arabicNumber

/-- Whether a domain in ASCII and in lower case is valid. -/
def isValid (domain : List Char) : Bool :=
  match (splitBy (· = '.') domain).mapM label? with
  | none => false
  | some labels => !labels.any hasRightToLeft || labels.all runsOneWay

example : isValid "xn--tda.a1".toList = true ∧ isValid "xn--a-xbb".toList = false := by
  decide +kernel
example : runsOneWay [0x5D0, 0x31] = true ∧ runsOneWay [0x31, 0x5D0] = false := by decide +kernel

end PlanQuota.Domain
