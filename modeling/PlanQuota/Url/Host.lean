import PlanQuota.Url.Basic
import PlanQuota.Url.Domain
import PlanQuota.Url.Percent

/-!
Reading hosts. A host in brackets is an address of eight words. Any other host of a special scheme
is a domain in lower case or an address of four bytes, of any other scheme a plain text. Domains
outside ASCII are mapped into it by a table that is not written down here.
-/
namespace PlanQuota.Host

/-- A part of an address: hexadecimal after `0x`, octal after another `0`, else decimal. -/
def ipv4Number? (s : List Char) : Option Nat :=
  match s with
  | [] => none
  | ['0'] => some 0
  | '0' :: c :: r => if c = 'x' ∨ c = 'X' then ofDigits? 16 r else ofDigits? 8 (c :: r)
  | _ => ofDigits? 10 s

/-- The parts between points, without an empty one at the end. -/
def ipv4Parts (s : List Char) : List (List Char) :=
  let parts := splitBy (· = '.') s
  if parts.getLast? = some [] ∧ 1 < parts.length then parts.dropLast else parts

/-- Whether a domain must be read as an address. -/
def endsInNumber (s : List Char) : Bool :=
  match (ipv4Parts s).getLast? with
  | some p => (p ≠ [] && p.all Char.isDigit) || (ipv4Number? p).isSome
  | none => false

/-- The last part fills all the bytes that are left. -/
def ipv4Value? (ns : List Nat) : Option Nat :=
  match ns.reverse with
  | [] => none
  | last :: front =>
    if 4 < ns.length ∨ front.any (255 < ·) ∨ Nat.pow 256 (5 - ns.length) ≤ last then none
    else some (front.reverse.zipIdx.foldl (fun v (n, i) => v + n * Nat.pow 256 (3 - i)) last)

def ipv4? (s : List Char) : Option Nat := ((ipv4Parts s).mapM ipv4Number?).bind ipv4Value?

def hexWord? (s : List Char) : Option Nat :=
  if s ≠ [] ∧ s.length ≤ 4 then ofDigits? 16 s else none

/-- A decimal byte without leading zeros. -/
def decimalByte? (s : List Char) : Option Nat :=
  if s = [] ∨ (s.head? = some '0' ∧ s ≠ ['0']) ∨ 3 < s.length then none
  else (ofDigits? 10 s).filter (· ≤ 255)

/-- Four bytes with points between them, as two words. -/
def dotted? (s : List Char) : Option (List Nat) :=
  match (splitBy (· = '.') s).mapM decimalByte? with
  | some [a, b, c, d] => some [a * 256 + b, c * 256 + d]
  | _ => none

/-- The words between colons; only at the end of an address may the last two be dotted. -/
def words? (atEnd : Bool) (s : List Char) : Option (List Nat) :=
  if s = [] then some []
  else
    let parts := splitBy (· = ':') s
    let last := parts.getLast?.getD []
    match parts.dropLast.mapM hexWord? with
    | none => none
    | some front =>
      match hexWord? last with
      | some w => some (front ++ [w])
      | none => if atEnd then (dotted? last).map (front ++ ·) else none

/-- The texts around the first double colon. -/
def cutDoubleColon : List Char → Option (List Char × List Char)
  | ':' :: ':' :: r => some ([], r)
  | c :: r => (cutDoubleColon r).map fun (a, b) => (c :: a, b)
  | [] => none

/-- A double colon stands for at least one word of zeros. -/
def ipv6? (s : List Char) : Option (List Nat) :=
  match cutDoubleColon s with
  | none => (words? true s).filter (·.length = 8)
  | some (a, b) => do
    let front ← words? false a
    let back ← words? true b
    if 7 < front.length + back.length then none
    return front ++ List.replicate (8 - front.length - back.length) 0 ++ back

def isForbidden (c : Char) : Bool :=
  ['\x00', '\t', '\n', '\r', ' ', '#', '/', ':', '<', '>', '?', '@', '[', '\\', ']', '^',
    '|'].contains c

/-- What a domain in ASCII stands for a domain with characters outside it, if one does. -/
abbrev Mapping := List Char → Option (List Char)

/-- A domain in ASCII; the mapping has no part in one that is in ASCII already. -/
def inAscii? (map : Mapping) (cs : List Char) : Option (List Char) :=
  if cs.all (·.toNat < 0x80) then some cs else map cs

/-- What no domain in ASCII holds. -/
def isForbiddenInDomain (c : Char) : Bool := isForbidden c || Percent.isControl c || c = '%'

/-- A host between brackets, if the text begins with one. -/
def bracketed? (s : List Char) : Option (Except UrlFault Host) :=
  match s with
  | '[' :: r =>
    match r.getLast?, ipv6? r.dropLast with
    | some ']', some words => some (.ok (.ipv6 words))
    | _, _ => some (.error .invalidIpv6)
  | _ => none

def ofDomain (map : Mapping) (s : List Char) : Except UrlFault Host :=
  match bracketed? s with
  | some result => result
  | none =>
    match (Utf8.decode? (Percent.decode s)).bind (inAscii? map) with
    | none => .error .invalidDomain
    | some cs =>
      let domain := cs.map Char.toLower
      if domain.any isForbiddenInDomain || !Domain.isValid domain then
        .error .invalidDomain
      else if domain = [] then .error .emptyHost
      else if endsInNumber domain then
        match ipv4? domain with
        | some address => .ok (.ipv4 address)
        | none => .error .invalidIpv4
      else .ok (.name (String.ofList domain))

/-- The host of a scheme that is not special. -/
def ofPlain (s : List Char) : Except UrlFault Host :=
  match bracketed? s with
  | some result => result
  | none =>
    if s.any isForbidden then .error .invalidHostCharacter
    else .ok (.name (String.ofList (Percent.encode Percent.isControl s)))

example : (ofDomain (fun _ => none) "EXAMPLE.com".toList).toOption =
    some (.name "example.com") := by decide +kernel
example : (ofDomain (fun _ => some "xn--bcher-kva.de".toList) "bücher.de".toList).toOption =
    some (.name "xn--bcher-kva.de") := by decide +kernel
example : (ofDomain (fun _ => none) "0x7f.1".toList).toOption = some (.ipv4 2130706433) := by
  decide +kernel
example : (ipv6? "2001:db8::1.2.3.4".toList).map ipv6Text = some "2001:db8::102:304" := by
  decide +kernel
example : ipv6? "1:2:3:4::5:6:7:8".toList = none := by decide +kernel

end PlanQuota.Host
