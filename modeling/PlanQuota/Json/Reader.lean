import PlanQuota.Json.Basic
import PlanQuota.Text.Digits
import PlanQuota.Text.Utf8

/-!
Reading a document. The reader works on the symbols of a text: outside string literals every
symbol must be a character of the grammar, inside them a bad symbol only makes the string
undecodable. The grammar is that of RFC 8259, without a limit on nesting.
-/
namespace PlanQuota.Json

/-- A character of a text, or `none` for bytes that are no character. -/
abbrev Symbol := Option Char

def isSpace (s : Symbol) : Bool :=
  s = some ' ' || s = some '\n' || s = some '\r' || s = some '\t'

def skipSpace (s : List Symbol) : List Symbol := s.dropWhile isSpace

/-- What follows a word, if the symbols begin with it. -/
def afterWord? : List Char → List Symbol → Option (List Symbol)
  | [], s => some s
  | c :: cs, some d :: s => if c = d then afterWord? cs s else none
  | _ :: _, _ => none

/-- A piece of a string literal: a character, a `\u` escape by its number, or bad bytes. -/
inductive Piece
  | plain (c : Char)
  | code (n : Nat)
  | bad
  deriving DecidableEq, Repr

/-- The number with the given hexadecimal digits. -/
def codeOf? (a b c d : Symbol) : Option Nat := do
  let a ← a.bind (digitValue? 16)
  let b ← b.bind (digitValue? 16)
  let c ← c.bind (digitValue? 16)
  let d ← d.bind (digitValue? 16)
  return ((a * 16 + b) * 16 + c) * 16 + d

/-- The character of a two-character escape. -/
def escaped? (c : Char) : Option Char :=
  if c = '"' ∨ c = '\\' ∨ c = '/' then some c
  else if c = 'b' then some '\x08'
  else if c = 'f' then some '\x0c'
  else if c = 'n' then some '\n'
  else if c = 'r' then some '\r'
  else if c = 't' then some '\t'
  else none

/-- The pieces of a string literal after its opening quote, the last one first in `acc`, and what
follows its closing quote. Controls must be escaped. -/
def pieces? (acc : List Piece) : List Symbol → Option (List Piece × List Symbol)
  | [] => none
  | none :: r => pieces? (.bad :: acc) r
  | some x :: r =>
    if x = '"' then some (acc.reverse, r)
    else if x = '\\' then
      match r with
      | some y :: a :: b :: c :: d :: r' =>
        if y = 'u' then
          match codeOf? a b c d with
          | some n => pieces? (.code n :: acc) r'
          | none => none
        else
          match escaped? y with
          | some e => pieces? (.plain e :: acc) (a :: b :: c :: d :: r')
          | none => none
      | some y :: r' =>
        match escaped? y with
        | some e => pieces? (.plain e :: acc) r'
        | none => none
      | _ => none
    else if x < ' ' then none
    else pieces? (.plain x :: acc) r

def isHighSurrogate (n : Nat) : Bool := 0xD800 ≤ n && n < 0xDC00

def isLowSurrogate (n : Nat) : Bool := 0xDC00 ≤ n && n < 0xE000

/-- The characters of the pieces, the last one first in `acc`. Two surrogate escapes side by side
are one character, any other surrogate is none. -/
def assemble? (acc : List Char) : List Piece → Option (List Char)
  | [] => some acc.reverse
  | .plain c :: r => assemble? (c :: acc) r
  | .bad :: _ => none
  | .code n :: r =>
    if isHighSurrogate n then
      match r with
      | .code m :: r' =>
        if isLowSurrogate m then
          assemble? (Char.ofNat (0x10000 + (n - 0xD800) * 0x400 + (m - 0xDC00)) :: acc) r'
        else none
      | _ => none
    else if isLowSurrogate n then none
    else assemble? (Char.ofNat n :: acc) r

/-- A string literal after its opening quote. -/
def stringBody? (s : List Symbol) : Option (Option String × List Symbol) :=
  (pieces? [] s).map fun (ps, r) => ((assemble? [] ps).map String.ofList, r)

def isDigit (s : Symbol) : Bool := s.any Char.isDigit

/-- The digits at the front, and the rest. -/
def digits (s : List Symbol) : List Char × List Symbol :=
  ((s.takeWhile isDigit).filterMap id, s.dropWhile isDigit)

/-- The digits after a point, if there is one; a point needs at least one. -/
def fraction? : List Symbol → Option (Option (List Char) × List Symbol)
  | some '.' :: s =>
    let (ds, r) := digits s
    if ds = [] then none else some (some ds, r)
  | s => some (none, s)

/-- The sign at the front. -/
def sign : List Symbol → Bool × List Symbol
  | some '-' :: s => (true, s)
  | some '+' :: s => (false, s)
  | s => (false, s)

/-- The exponent, if there is one. -/
def exponent? : List Symbol → Option (Option Int × List Symbol)
  | some e :: s =>
    if e = 'e' ∨ e = 'E' then
      let (negative, s) := sign s
      let (ds, r) := digits s
      let n : Int := Nat.ofDigitChars 10 ds 0
      if ds = [] then none else some (some (if negative then -n else n), r)
    else some (none, some e :: s)
  | s => some (none, s)

/-- The number of a literal from its parts. The digits before the point that do not fit into the
significand of a decimal only shift it; the fraction goes on with it, and what does not fit there
is dropped. -/
def numberOf (negative : Bool) (whole : List Char) (fraction : Option (List Char))
    (exponent : Option Int) : JsonNumber :=
  match fraction, exponent with
  | none, none =>
    let n := Nat.ofDigitChars 10 whole 0
    if negative then if n = 0 then .decimal true 0 0 else .integer (-n) else .integer n
  | _, _ =>
    let places := fraction.getD []
    let (n, surplus) := significand 0 whole
    let (m, dropped) := significand n places
    .decimal negative (.ofNat m)
      (exponent.getD 0 + surplus.length - (places.length - dropped.length : Nat))

/-- A zero stands alone before the point. -/
def number? (s : List Symbol) : Option (JsonNumber × List Symbol) := do
  let (negative, s) := match s with
    | some '-' :: r => (true, r)
    | _ => (false, s)
  let (whole, s) := digits s
  if whole = [] ∨ (whole.head? = some '0' ∧ whole ≠ ['0']) then none
  let (fraction, s) ← fraction? s
  let (exponent, s) ← exponent? s
  return (numberOf negative whole fraction exponent, s)

/-- A value that holds no others. -/
def scalar? (s : List Symbol) : Option (Json × List Symbol) :=
  match afterWord? ['n', 'u', 'l', 'l'] s with
  | some r => some (.null, r)
  | none =>
    match afterWord? ['t', 'r', 'u', 'e'] s with
    | some r => some (.bool true, r)
    | none =>
      match afterWord? ['f', 'a', 'l', 's', 'e'] s with
      | some r => some (.bool false, r)
      | none => (number? s).map fun (n, r) => (.number n, r)

/-- A name with its colon. -/
def key? (s : List Symbol) : Option (Option String × List Symbol) :=
  match skipSpace s with
  | some '"' :: r =>
    match stringBody? r with
    | some (k, r) =>
      match skipSpace r with
      | some ':' :: r => some (k, r)
      | _ => none
    | none => none
  | _ => none

mutual

/-- A value at the front, and what follows it. Every second step takes a symbol, so the fuel need
not exceed twice the length. -/
def value? : Nat → List Symbol → Option (Json × List Symbol)
  | 0, _ => none
  | fuel + 1, s =>
    match skipSpace s with
    | some '"' :: r => (stringBody? r).map fun (t, r) => (.string t, r)
    | some '[' :: r =>
      match skipSpace r with
      | some ']' :: r => some (.array [], r)
      | _ => arrayBody? fuel [] r
    | some '\x7b' :: r =>
      match skipSpace r with
      | some '\x7d' :: r => some (.object [], r)
      | _ => objectBody? fuel [] r
    | r => scalar? r

/-- The elements of an array up to its end, those before them in `acc`. -/
def arrayBody? : Nat → List Json → List Symbol → Option (Json × List Symbol)
  | 0, _, _ => none
  | fuel + 1, acc, s =>
    match value? fuel s with
    | none => none
    | some (v, r) =>
      match skipSpace r with
      | some ',' :: r => arrayBody? fuel (v :: acc) r
      | some ']' :: r => some (.array (v :: acc).reverse, r)
      | _ => none

/-- The members of an object up to its end, those before them in `acc`. -/
def objectBody? : Nat → List (Option String × Json) → List Symbol → Option (Json × List Symbol)
  | 0, _, _ => none
  | fuel + 1, acc, s =>
    match key? s with
    | none => none
    | some (k, r) =>
      match value? fuel r with
      | none => none
      | some (v, r) =>
        match skipSpace r with
        | some ',' :: r => objectBody? fuel ((k, v) :: acc) r
        | some '\x7d' :: r => some (.object ((k, v) :: acc).reverse, r)
        | _ => none

end

/-- A whole text as one document. -/
def ofSymbols? (s : List Symbol) : Option Json :=
  match value? (2 * s.length + 2) s with
  | some (v, r) => if skipSpace r = [] then some v else none
  | none => none

def ofBytes? (bytes : List UInt8) : Option Json := ofSymbols? (Utf8.symbols bytes)

def ofString? (s : String) : Option Json := ofSymbols? (s.toList.map some)

end PlanQuota.Json
