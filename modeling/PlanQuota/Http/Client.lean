import PlanQuota.Engine
import PlanQuota.Http.Message
import PlanQuota.Json.Writer
import PlanQuota.Settings
import PlanQuota.Catalog.Document
import PlanQuota.Url.Form
import PlanQuota.Url.Login

/-!
The remote side behind HTTP. A read is a GET with two query parameters, a set a PUT with the
request as its body. Both carry the authorization, after one for the name and password in the URL if
there are any, and nothing is sent twice.
-/
namespace PlanQuota.Http

/-- What is said of a failed exchange. The words belong to whoever sends the requests, and no more
goes into them than the URL. -/
structure Texts where
  /-- The authorization cannot be sent. -/
  header : String
  /-- The URL cannot be that of a request. -/
  target : Url → String
  unanswered : Url → String
  /-- The body cannot be read. -/
  undecodable : Url → String

/-- Texts that name the kind of the failure and the URL. -/
def Texts.plain : Texts where
  header := "builder error"
  target url := "builder error for url (" ++ url.toText ++ ")"
  unanswered url := "error sending request for url (" ++ url.toText ++ ")"
  undecodable url := "error decoding response body for url (" ++ url.toText ++ ")"

/-- Settings whose user agent can be sent, and how failures are told. -/
structure Client where
  settings : Settings
  agentLegal : isHeaderValue settings.userAgent = true
  texts : Texts

/-- Why a request got no answer. -/
inductive SendFault
  /-- The authorization cannot be sent. -/
  | header
  /-- The URL is none of HTTP, or none that a request can name. -/
  | target (url : Url)
  | unanswered (url : Url)
  deriving DecidableEq, Repr

def SendFault.message (t : Texts) : SendFault → String
  | header => t.header
  | target url => t.target url
  | unanswered url => t.unanswered url

/-- A reply with a status; the body is absent if it was cut off. -/
structure Response where
  status : Nat
  body : Option (List UInt8)
  deriving DecidableEq, Repr

namespace Response

def ofReply? : Reply → Option Response
  | .answer status body => some ⟨status, some body⟩
  | .cut status => some ⟨status, none⟩
  | .dropped | .stalled => none

/-- The fault of a response without success; a body that was cut off counts as empty. -/
def fault (r : Response) : RemoteFault := .answered r.status (r.body.getD [])

/-- What is logged about such a response. -/
def log (r : Response) : List LogLine :=
  (if r.body.isNone then [.error] else []) ++
    [.warn (statusText r.status ++ " result: " ++ Utf8.toStringLossy (r.body.getD []))]

end Response

namespace Client

/-- The user agent is checked before anything is sent. -/
def ofSettings (texts : Texts) (settings : Settings) : Except Failure Client :=
  if h : isHeaderValue settings.userAgent = true then .ok ⟨settings, h, texts⟩
  else .error (.settings .userAgent)

def assignmentsPath : String := "entitlements/v1/assignments"

def plansPath : String := "entitlements/v1/subaccountServicePlans"

/-- The authorizations of a request to a URL: one for the name and password in it, if there are
any, and the one of the settings. -/
def authorizations (c : Client) (url : Url) : List String :=
  url.login?.toList.map Login.authorization ++ [c.settings.authorization]

def headers (c : Client) (url : Url) (contentType : List (String × String)) :
    List (String × String) :=
  [("accept", "application/json")] ++ (c.authorizations url).map (("authorization", ·)) ++
    contentType ++ [("user-agent", c.settings.userAgent)]

def readUrl (c : Client) (entity service : String) : Except Failure Url := do
  let url ← c.settings.endpoint assignmentsPath
  return { url with
    query := some (Form.write [("subaccountGUID", entity), ("assignedServiceName", service)]) }

def readRequest (c : Client) (url : Url) : Request := ⟨.get, url.bare, c.headers url [], ""⟩

def setRequest (c : Client) (url : Url) (request : SetRequest) : Request :=
  ⟨.put, url.bare, c.headers url [("content-type", "application/json")], request.toJson.toText⟩

/-- The longest URL of a request, in bytes. -/
def maxUrlLength : Nat := 65534

/-- Marks that may stand in the host of a URL, but not in that of a request. -/
def unnamable : List Char := ['"', '\x60', '\x7b', '\x7d']

/-- Whether a request can name a URL. -/
def isNamable (url : Url) : Bool :=
  url.toText.utf8ByteSize ≤ maxUrlLength &&
    !url.host.any fun h => h.toText.toList.any unnamable.contains

/-- Sends a request if it can be sent. -/
def exchange (c : Client) (r : Request) (l : Link) : Except SendFault Response × Link :=
  if r.url.hasHost = false then (.error (.target r.url), l)
  else if isHeaderValue c.settings.authorization = false then (.error .header, l)
  else if (r.url.scheme ≠ "http" ∧ r.url.scheme ≠ "https") ∨ isNamable r.url = false then
    (.error (.target r.url), l)
  else
    let (reply, after) := l.send r
    match reply.bind Response.ofReply? with
    | some response => (.ok response, after)
    | none => (.error (.unanswered r.url), after)

def unanswered (message : String) : Failure := .remote (.unanswered message)

def undecodable (c : Client) (url : Url) : String :=
  "cannot decode assignments: " ++ c.texts.undecodable url

/-- The catalog in a response from a URL, or its fault, and what is logged about it. -/
def catalogOf (c : Client) (url : Url) (r : Response) : Except Failure Catalog × List LogLine :=
  if isSuccess r.status then
    match r.body.bind Catalog.ofBytes? with
    | some catalog => (.ok catalog, [])
    | none => (.error (unanswered (c.undecodable url)), [.error])
  else (.error (.remote r.fault), r.log)

/-- The body of a successful set is not looked at. -/
def setResult (r : Response) : Except Failure Unit × List LogLine :=
  if isSuccess r.status then (.ok (), []) else (.error (.remote r.fault), r.log)

def read (c : Client) (entity service : String) (l : Link) : Answer Link Catalog :=
  match c.readUrl entity service with
  | .error failure => ⟨.error failure, [], l⟩
  | .ok url =>
    let fetching := LogLine.debug ("Fetching assignments from " ++ url.toText)
    match c.exchange (c.readRequest url) l with
    | (.error fault, after) =>
      ⟨.error (unanswered (fault.message c.texts)), [fetching, .error], after⟩
    | (.ok response, after) =>
      let (result, log) := c.catalogOf url.bare response
      ⟨result, fetching :: log, after⟩

def set (c : Client) (request : SetRequest) (l : Link) : Answer Link Unit :=
  match c.settings.endpoint plansPath with
  | .error failure => ⟨.error failure, [], l⟩
  | .ok url =>
    match c.exchange (c.setRequest url request) l with
    | (.error fault, after) => ⟨.error (unanswered (fault.message c.texts)), [.error], after⟩
    | (.ok response, after) =>
      let (result, log) := setResult response
      ⟨result, log, after⟩

def remote (c : Client) : Remote Link := ⟨c.read, c.set⟩

end Client
end PlanQuota.Http
