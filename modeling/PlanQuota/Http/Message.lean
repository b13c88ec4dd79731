import PlanQuota.Url.Basic
import PlanQuota.Text.Utf8

/-!
The messages of an exchange, and the other end of it. A reply has a status and a body. It has no
place to send the request on to, so redirects are replies like any other and nothing is said here of
those that would be followed, nor of what a request keeps of its headers then.
-/
namespace PlanQuota.Http

inductive Method
  | get
  | put
  deriving DecidableEq, Repr

def Method.text : Method → String
  | get => "GET"
  | put => "PUT"

structure Request where
  method : Method
  url : Url
  /-- Names in lower case; those with several values stand once for each, in their order. -/
  headers : List (String × String)
  body : String
  deriving DecidableEq, Repr

/-- What the other end does with one request. -/
inductive Reply
  | answer (status : Nat) (body : List UInt8)
  /-- The connection ends before the announced body does. -/
  | cut (status : Nat)
  /-- The connection ends without an answer. -/
  | dropped
  /-- No answer comes before the time limit. -/
  | stalled
  deriving DecidableEq, Repr

/-- The other end: none at all, or one that gives its replies in order and then drops what comes. -/
inductive Peer
  | refusing
  | scripted (replies : List Reply)
  deriving DecidableEq, Repr

/-- The connection so far: the other end as it is now, and the requests that reached it. -/
structure Link where
  peer : Peer
  received : List Request
  deriving DecidableEq, Repr

namespace Link

def new (peer : Peer) : Link := ⟨peer, []⟩

/-- Sends a request; `none` means that no answer came. -/
def send (l : Link) (r : Request) : Option Reply × Link :=
  match l.peer with
  | .refusing => (none, l)
  | .scripted replies =>
    (replies.head?, ⟨.scripted replies.tail, l.received ++ [r]⟩)

end Link

/-- Controls other than the tab are not allowed in a header value. -/
def isHeaderByte (b : UInt8) : Bool := b = 9 || (32 ≤ b && b ≠ 127)

def isHeaderValue (s : String) : Bool := (Utf8.ofString s).all isHeaderByte

def isSuccess (status : Nat) : Bool := 200 ≤ status && status < 300

def reasons : List (Nat × String) := [
  (100, "Continue"), (101, "Switching Protocols"), (102, "Processing"), (103, "Early Hints"),
  (200, "OK"), (201, "Created"), (202, "Accepted"), (203, "Non Authoritative Information"),
  (204, "No Content"), (205, "Reset Content"), (206, "Partial Content"), (207, "Multi-Status"),
  (208, "Already Reported"), (226, "IM Used"),
  (300, "Multiple Choices"), (301, "Moved Permanently"), (302, "Found"), (303, "See Other"),
  (304, "Not Modified"), (305, "Use Proxy"), (307, "Temporary Redirect"),
  (308, "Permanent Redirect"),
  (400, "Bad Request"), (401, "Unauthorized"), (402, "Payment Required"), (403, "Forbidden"),
  (404, "Not Found"), (405, "Method Not Allowed"), (406, "Not Acceptable"),
  (407, "Proxy Authentication Required"), (408, "Request Timeout"), (409, "Conflict"),
  (410, "Gone"), (411, "Length Required"), (412, "Precondition Failed"),
  (413, "Payload Too Large"), (414, "URI Too Long"), (415, "Unsupported Media Type"),
  (416, "Range Not Satisfiable"), (417, "Expectation Failed"), (418, "I'm a teapot"),
  (421, "Misdirected Request"), (422, "Unprocessable Entity"), (423, "Locked"),
  (424, "Failed Dependency"), (425, "Too Early"), (426, "Upgrade Required"),
  (428, "Precondition Required"), (429, "Too Many Requests"),
  (431, "Request Header Fields Too Large"), (451, "Unavailable For Legal Reasons"),
  (500, "Internal Server Error"), (501, "Not Implemented"), (502, "Bad Gateway"),
  (503, "Service Unavailable"), (504, "Gateway Timeout"), (505, "HTTP Version Not Supported"),
  (506, "Variant Also Negotiates"), (507, "Insufficient Storage"), (508, "Loop Detected"),
  (510, "Not Extended"), (511, "Network Authentication Required")]

/-- A status with its usual reason. -/
def statusText (status : Nat) : String :=
  toString status ++ " " ++ ((reasons.lookup status).getD "<unknown status code>")

end PlanQuota.Http
