/-!
URLs as the URL standard has them: a scheme, credentials, a host, a port, a path, a query and a
fragment. Every part but host and port is kept percent-encoded, so writing a URL down is plain
concatenation.
-/
namespace PlanQuota

/-- Why a text is no URL, or why a reference has none. -/
inductive UrlFault
  | relativeWithoutBase
  | relativeWithRootlessBase
  | emptyHost
  | invalidPort
  | invalidIpv4
  | invalidIpv6
  | invalidDomain
  | invalidHostCharacter
  deriving DecidableEq, Repr

def UrlFault.message : UrlFault → String
  | relativeWithoutBase => "relative URL without a base"
  | relativeWithRootlessBase => "relative URL with a cannot-be-a-base base"
  | emptyHost => "empty host"
  | invalidPort => "invalid port number"
  | invalidIpv4 => "invalid IPv4 address"
  | invalidIpv6 => "invalid IPv6 address"
  | invalidDomain => "invalid international domain name"
  | invalidHostCharacter => "invalid domain character"

inductive Host
  | name (text : String)
  | ipv4 (address : Nat)
  /-- Eight words of 16 bits. -/
  | ipv6 (words : List Nat)
  deriving DecidableEq, Repr

inductive UrlPath
  /-- A path without a leading slash, below which no other URL can be found. -/
  | rootless (text : String)
  /-- The segments, each after a slash. -/
  | segments (list : List String)
  deriving DecidableEq, Repr

structure Url where
  scheme : String
  username : String
  password : String
  host : Option Host
  /-- Absent if it is the default port of the scheme. -/
  port : Option Nat
  path : UrlPath
  query : Option String
  fragment : Option String
  deriving DecidableEq, Repr

namespace Host

def ipv4Text (address : Nat) : String :=
  ".".intercalate ([16777216, 65536, 256, 1].map fun n => toString (address / n % 256))

/-- Length of the run of zeros at the front. -/
def zeroRun (words : List Nat) : Nat := (words.takeWhile (· = 0)).length

/-- Start and length of the first longest run of zeros. -/
def longestZeros (words : List Nat) : Nat × Nat :=
  (List.range words.length).foldl (fun best i =>
    let n := zeroRun (words.drop i)
    if best.2 < n then (i, n) else best) (0, 0)

def wordsText (words : List Nat) : String :=
  ":".intercalate (words.map fun w => String.ofList (Nat.toDigits 16 w))

/-- The first longest run of at least two zeros is left out. -/
def ipv6Text (words : List Nat) : String :=
  let (start, length) := longestZeros words
  if length < 2 then wordsText words
  else wordsText (words.take start) ++ "::" ++ wordsText (words.drop (start + length))

def toText : Host → String
  | name text => text
  | ipv4 address => ipv4Text address
  | ipv6 words => "[" ++ ipv6Text words ++ "]"

end Host

namespace UrlPath

def toText : UrlPath → String
  | rootless text => text
  | segments list => String.join (list.map ("/" ++ ·))

end UrlPath

namespace Url

def credentials (u : Url) : String :=
  if u.username = "" ∧ u.password = "" then ""
  else if u.password = "" then u.username ++ "@"
  else u.username ++ ":" ++ u.password ++ "@"

/-- A path that begins with two slashes needs a dot before it if there is no host. -/
def authority (u : Url) : String :=
  match u.host with
  | some h =>
    "//" ++ u.credentials ++ h.toText ++ (match u.port with
      | some p => ":" ++ toString p
      | none => "")
  | none =>
    match u.path with
    | .segments ("" :: _ :: _) => "/."
    | _ => ""

/-- A mark and a part, if there is the part. -/
def marked (mark : String) : Option String → String
  | some text => mark ++ text
  | none => ""

def toText (u : Url) : String :=
  u.scheme ++ ":" ++ u.authority ++ u.path.toText ++ marked "?" u.query ++ marked "#" u.fragment

/-- Whether the URL names a host that is not empty. -/
def hasHost (u : Url) : Bool := u.host.any (· ≠ .name "")

/-- Path and query, as a request line has them. -/
def target (u : Url) : String := u.path.toText ++ marked "?" u.query

end Url
end PlanQuota
