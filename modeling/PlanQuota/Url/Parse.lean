import PlanQuota.Text.Blank
import PlanQuota.Url.Host
import PlanQuota.Url.Path

/-! Reading a URL, and the URL of a relative path below another one. -/
namespace PlanQuota.Url

variable (map : Host.Mapping)

/-- Controls and spaces at the ends do not count. -/
def relevant (text : String) : List Char := trimEnds (fun c => c.toNat ≤ 0x20) text.toList

def isSchemeChar (c : Char) : Bool := c.isAlphanum || c = '+' || c = '-' || c = '.'

/-- The scheme in lower case, and what follows its colon. -/
def scheme? (cs : List Char) : Option (String × List Char) :=
  let (front, rest) := cs.span fun c => isSchemeChar c || isLayout c
  match withoutLayout front, rest with
  | c :: name, ':' :: after =>
    if c.isAlpha then some (String.ofList ((c :: name).map Char.toLower), after) else none
  | _, _ => none

structure Authority where
  username : String
  password : String
  host : Host
  port : Option Nat
  deriving DecidableEq, Repr

/-- The text before the last at sign, and the rest. -/
def splitCredentials (cs : List Char) : Option (List Char) × List Char :=
  match cutAt (· = '@') cs.reverse with
  | (_, none) => (none, cs)
  | (rest, some before) => (some before.reverse, rest.reverse)

/-- Host and port around the first colon that is not in brackets. -/
def splitPort (inBrackets : Bool) : List Char → List Char × Option (List Char)
  | [] => ([], none)
  | c :: r =>
    if c = ':' ∧ inBrackets = false then ([], some r)
    else
      let inside := if c = '[' then true else if c = ']' then false else inBrackets
      let (host, port) := splitPort inside r
      (c :: host, port)

/-- A port without digits is no port. -/
def readPort (r : SchemeRules) (text : List Char) : Except UrlFault (Option Nat) :=
  if text = [] then .ok none
  else
    match ofDigits? 10 text with
    | some n =>
      if 65535 < n then .error .invalidPort
      else .ok (if some n = r.defaultPort then none else some n)
    | none => .error .invalidPort

def encodeCredential (cs : List Char) : String :=
  String.ofList (Percent.encode Percent.inCredentials cs)

/-- The authority at the front of a text, and the path after it. A host may only be empty if the
scheme is not special and neither a port nor a name nor a password stands around it; after a lone
at sign nothing may follow then. `more` tells whether a query or a fragment follows. -/
def readAuthority (r : SchemeRules) (cs : List Char) (more : Bool) :
    Except UrlFault (Authority × List Char) := do
  let (front, path) := cs.span (!r.isSlash ·)
  let (credentials, place) := splitCredentials front
  let (hostText, portText) := splitPort false place
  let (port, surplus) := (portText.getD []).span (· ≠ '\\')
  let (name, password) := cutAt (· = ':') (credentials.getD [])
  let isNamed := name ≠ [] ∨ password.getD [] ≠ []
  let isLoneSign := credentials = some [] ∧ (path ≠ [] ∨ more)
  if hostText = [] ∧ (r.isSpecial ∨ portText.isSome ∨ isNamed ∨ isLoneSign) then
    throw .emptyHost
  let host ← if r.isSpecial then Host.ofDomain map hostText else Host.ofPlain hostText
  let port ← readPort r port
  return (⟨encodeCredential name, encodeCredential (password.getD []), host, port⟩,
    surplus ++ path)

def withAuthority (scheme : String) (a : Authority) (path : UrlPath) : Url :=
  ⟨scheme, a.username, a.password, some a.host, a.port, path, none, none⟩

def withoutAuthority (scheme : String) (host : Option Host) (path : UrlPath) : Url :=
  ⟨scheme, "", "", host, none, path, none, none⟩

/-- Any number of slashes begins the authority of a special scheme. -/
def readSpecial (scheme : String) (r : SchemeRules) (cs : List Char) : Except UrlFault Url := do
  let (a, path) ← readAuthority map r (cs.dropWhile r.isSlash) false
  return withAuthority scheme a (.ofText r path)

/-- The host of a file URL, empty for this machine. -/
def fileHost (cs : List Char) : Except UrlFault Host :=
  if cs = [] then .ok (.name "")
  else
    match Host.ofDomain map cs with
    | .ok h => .ok (if h = .name "localhost" then .name "" else h)
    | .error fault => .error fault

/-- A file URL without a host. -/
def onThisMachine (scheme : String) (path : UrlPath) : Url :=
  withoutAuthority scheme (some (.name "")) path

/-- Two slashes begin a host, save that a drive is none. A path that begins with a drive is on this
machine, whatever the host. Without a host the slash after it begins an empty segment, which counts
while the path is read. -/
def readFile (scheme : String) (r : SchemeRules) (cs : List Char) : Except UrlFault Url :=
  match (r.afterSlash? cs).bind r.afterSlash? with
  | none => .ok (onThisMachine scheme (.ofText r cs))
  | some rest =>
    let (hostText, path) := rest.span (!r.isSlash ·)
    if UrlPath.isDrive (withoutLayout hostText) then
      .ok (onThisMachine scheme (.extend r [] rest))
    else
      match fileHost map (withoutLayout hostText) with
      | .error fault => .error fault
      | .ok host =>
        if host = .name "" then .ok (onThisMachine scheme (.extend r [] path))
        else
          let t := UrlPath.rootedTrail r path
          .ok (withoutAuthority scheme (some (if t.onDrive then .name "" else host)) (t.path r))

/-- Two slashes begin an authority, one a path, and anything else a rootless path. -/
def readPlain (scheme : String) (r : SchemeRules) (cs : List Char) (more : Bool) :
    Except UrlFault Url :=
  match cs with
  | '/' :: '/' :: rest => do
    let (a, path) ← readAuthority map r rest more
    return withAuthority scheme a (.ofText r path)
  | '/' :: rest => .ok (withoutAuthority scheme none (.extend r [] rest))
  | _ =>
    .ok (withoutAuthority scheme none
      (.rootless (String.ofList (Percent.encode Percent.isControl cs))))

def readQuery (r : SchemeRules) (cs : List Char) : String :=
  String.ofList
    (Percent.encode (if r.isSpecial then Percent.inSpecialQuery else Percent.inQuery)
      (withoutLayout cs))

def readFragment (cs : List Char) : String :=
  String.ofList (Percent.encode Percent.inFragment (withoutLayout cs))

/-- An absolute URL. -/
def parse (text : String) : Except UrlFault Url :=
  match scheme? (relevant text) with
  | none => .error .relativeWithoutBase
  | some (scheme, rest) => do
    let r := SchemeRules.ofScheme scheme
    let (front, fragment) := cutAt (· = '#') rest
    let (body, query) := cutAt (· = '?') front
    let u ←
      if r.isFile then readFile map scheme r body
      else if r.isSpecial then readSpecial map scheme r (withoutLayout body)
      else readPlain map scheme r (withoutLayout body) (query.isSome || fragment.isSome)
    return { u with query := query.map (readQuery r), fragment := fragment.map readFragment }

/-- The URL with its path read from a text. A rootless path stays. -/
def setPath (u : Url) (text : String) : Url :=
  match u.path with
  | .rootless _ => u
  | .segments _ => { u with path := .ofText (.ofScheme u.scheme) text.toList }

/-- The URL that a relative path without a scheme means: it takes the place of the last segment,
and of query and fragment. -/
def join (u : Url) (text : String) : Except UrlFault Url :=
  match u.path with
  | .rootless _ => .error .relativeWithRootlessBase
  | .segments list =>
    let r := SchemeRules.ofScheme u.scheme
    .ok { u with
      path := .extend r (UrlPath.parents r list) text.toList, query := none, fragment := none }

end PlanQuota.Url
