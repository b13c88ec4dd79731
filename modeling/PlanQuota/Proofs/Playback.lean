import PlanQuota.Http.Client
import PlanQuota.Proofs.Endpoint
import PlanQuota.Proofs.Session

/-!
Sessions over HTTP with complete replies. They cannot be told apart from sessions on a remote side
in memory that plays the replies back, one for each call, and knows nothing of requests, headers or
URLs but the texts of its failures. The requests that are sent are those of the calls played to.
-/
namespace PlanQuota.Http

/-- The replies not yet given, each a status and a body, and the calls they were asked for. -/
structure Playback where
  replies : List (Nat × List UInt8)
  delivered : List Call
  deriving DecidableEq, Repr

/-- The texts of failures that are not in the replies. -/
structure Wording where
  /-- Why a call cannot be delivered, if it cannot. -/
  obstacle : Call → Option String
  /-- A call after the last reply. -/
  silence : Call → String
  /-- A body that holds no catalog, for an entity and a service. -/
  undecodable : String → String → String

namespace Playback

variable (w : Wording)

/-- Delivers a call and concludes from the next reply. -/
def play {α : Type} (call : Call) (conclude : Nat → List UInt8 → Except Failure α)
    (p : Playback) : Answer Playback α :=
  match w.obstacle call, p.replies with
  | some text, _ => ⟨.error (.remote (.unanswered text)), [], p⟩
  | none, [] => ⟨.error (.remote (.unanswered (w.silence call))), [], ⟨[], p.delivered ++ [call]⟩⟩
  | none, (status, body) :: rest => ⟨conclude status body, [], ⟨rest, p.delivered ++ [call]⟩⟩

def catalogIn (undecodable : String) (status : Nat) (body : List UInt8) :
    Except Failure Catalog :=
  if 200 ≤ status ∧ status ≤ 299 then
    match Catalog.ofBytes? body with
    | some catalog => .ok catalog
    | none => .error (.remote (.unanswered undecodable))
  else .error (.remote (.answered status body))

/-- Success is told by the status alone. -/
def acceptance (status : Nat) (body : List UInt8) : Except Failure Unit :=
  if 200 ≤ status ∧ status ≤ 299 then .ok () else .error (.remote (.answered status body))

def remote : Remote Playback where
  read entity service :=
    play w (.read entity service) (catalogIn (w.undecodable entity service))
  set request := play w (.set request) acceptance

/-- Every call without an obstacle is delivered. -/
theorem records : Session.Records (remote w) (·.delivered)
    (fun call => [call].filter (w.obstacle · = none)) := by
  have hplay {α : Type} (call : Call) (conclude : Nat → List UInt8 → Except Failure α)
      (p : Playback) : (play w call conclude p).state.delivered =
        p.delivered ++ [call].filter (w.obstacle · = none) := by
    unfold play
    cases ho : w.obstacle call with
    | some text => simp [ho]
    | none =>
      cases p.replies with
      | nil => simp [ho]
      | cons reply rest => simp [ho]
  exact ⟨fun entity service p => hplay _ _ p, fun request p => hplay _ _ p⟩

theorem delivered_run (p : Playback) (ops : List Operation) :
    (Session.run (remote w) p ops).1.delivered = p.delivered ++
      (Session.calls (Session.run (remote w) p ops).2).filter (w.obstacle · = none) := by
  rw [(records w).run p ops, ← List.filter_flatMap]
  simp

theorem fetch_of_obstacle {entity service text : String}
    (h : w.obstacle (.read entity service) = some text) (p : Playback) :
    (Session.run (remote w) p [.fetch entity service]).2 =
      [⟨.error (.remote (.unanswered text)), [.read entity service]⟩] := by
  simp [Session.run, Session.step, Operation.run, Engine.fetch, Outcome.map, Except.map, remote,
    play, h]

theorem fetch_of_reply {entity service : String} (h : w.obstacle (.read entity service) = none)
    {status : Nat} (hs : 200 ≤ status ∧ status ≤ 299) {body : List UInt8} {catalog : Catalog}
    (hb : Catalog.ofBytes? body = some catalog) (rest : List (Nat × List UInt8)) :
    (Session.run (remote w) ⟨(status, body) :: rest, []⟩ [.fetch entity service]).2 =
      [⟨.ok (.fetched catalog), [.read entity service]⟩] := by
  simp [Session.run, Session.step, Operation.run, Engine.fetch, Outcome.map, Except.map, remote,
    play, catalogIn, h, hs, hb]

end Playback

namespace Client

variable (c : Client)

/-- The URL that a call goes to. -/
def url : Call → Except Failure Url
  | .read entity service => c.readUrl entity service
  | .set _ => c.settings.endpoint plansPath

def requestTo (url : Url) : Call → Request
  | .read _ _ => c.readRequest url
  | .set request => c.setRequest url request

/-- The request of a call. -/
def request (call : Call) : Except Failure Request := (c.url call).map (c.requestTo · call)

/-- Failures as the client words them, by the URL of the call's request. -/
def wording : Wording where
  obstacle call := (c.url call).toOption.bind fun u =>
    if isNamable u.bare then none else some (c.texts.target u.bare)
  silence call := (c.url call).toOption.elim "" (c.texts.unanswered ·.bare)
  undecodable entity service :=
    (c.url (.read entity service)).toOption.elim "" (c.undecodable ·.bare)

section Wording

variable {c} {call : Call} {u : Url} (hu : c.url call = .ok u)
include hu

theorem obstacle_of_namable (hn : isNamable u.bare = true) : c.wording.obstacle call = none := by
  simp only [wording, hu, Except.toOption, Option.bind_some, hn, if_true]

theorem obstacle_of_not_namable (hn : isNamable u.bare = false) :
    c.wording.obstacle call = some (c.texts.target u.bare) := by
  simp only [wording, hu, Except.toOption, Option.bind_some, hn, Bool.false_eq_true, if_false]

theorem silence_of_url : c.wording.silence call = c.texts.unanswered u.bare := by
  simp only [wording, hu, Except.toOption, Option.elim_some]

end Wording

theorem undecodable_of_url {c : Client} {entity service : String} {u : Url}
    (hu : c.url (.read entity service) = .ok u) :
    c.wording.undecodable entity service = c.undecodable u.bare := by
  simp only [wording, hu, Except.toOption, Option.elim_some]

theorem readUrl_of_endpoint {u : Url} (hu : c.settings.endpoint assignmentsPath = .ok u)
    (entity service : String) : c.readUrl entity service = .ok { u with
      query := some
        (Form.write [("subaccountGUID", entity), ("assignedServiceName", service)]) } := by
  simp [readUrl, hu, bind, Except.bind, pure, Except.pure]

theorem url_of_isWeb (hb : c.settings.base.IsWeb) (call : Call) :
    ∃ u, c.url call = .ok u ∧ u.IsWeb := by
  cases call with
  | read entity service =>
    obtain ⟨u, hu, hweb⟩ := Settings.endpoint_of_isWeb hb assignmentsPath
    exact ⟨_, c.readUrl_of_endpoint hu entity service, hweb.withQuery _ u.fragment⟩
  | set request => exact Settings.endpoint_of_isWeb hb plansPath

@[simp] theorem url_requestTo (u : Url) (call : Call) : (c.requestTo u call).url = u.bare := by
  cases call <;> rfl

/-- The reply that ends a request, with its whole body. -/
def complete (reply : Nat × List UInt8) : Reply := .answer reply.1 reply.2

/-- A link whose other end gives the replies of a playback, and got a request for each delivered
call. -/
structure Mirrors (l : Link) (p : Playback) : Prop where
  peer : l.peer = .scripted (p.replies.map complete)
  received : p.delivered.map c.request = l.received.map .ok

variable {c} {l : Link} {p : Playback} {call : Call} {r : Request}

theorem Mirrors.send (h : c.Mirrors l p) (r : Request) : l.send r =
    (p.replies.head?.map complete,
      ⟨.scripted (p.replies.tail.map complete), l.received ++ [r]⟩) := by
  simp [Link.send, h.peer, List.head?_map, List.map_tail]

theorem Mirrors.deliver (h : c.Mirrors l p) (hr : c.request call = .ok r)
    (replies : List (Nat × List UInt8)) :
    c.Mirrors ⟨.scripted (replies.map complete), l.received ++ [r]⟩
      ⟨replies, p.delivered ++ [call]⟩ :=
  ⟨rfl, by simp [h.received, hr]⟩

/-- Exchanging a request, or playing a call: both fail alike, or both get the same reply. -/
inductive Meets {α : Type} (texts : Texts) (conclude : Nat → List UInt8 → Except Failure α)
    (exchanged : Except SendFault Response) (played : Except Failure α) : Prop
  | failed (fault : SendFault) (exchange : exchanged = .error fault)
      (play : played = .error (unanswered (fault.message texts)))
  | replied (status : Nat) (body : List UInt8) (exchange : exchanged = .ok ⟨status, some body⟩)
      (play : played = conclude status body)

theorem Mirrors.play {α : Type} (h : c.Mirrors l p)
    (ha : isHeaderValue c.settings.authorization = true) {u : Url} (hu : c.url call = .ok u)
    (hw : u.IsWeb) (conclude : Nat → List UInt8 → Except Failure α) :
    Meets c.texts conclude (c.exchange (c.requestTo u call) l).1
        (Playback.play c.wording call conclude p).result ∧
      c.Mirrors (c.exchange (c.requestTo u call) l).2
        (Playback.play c.wording call conclude p).state := by
  have hr : c.request call = .ok (c.requestTo u call) := by simp [request, hu, Except.map]
  have hs : ¬(u.scheme ≠ "http" ∧ u.scheme ≠ "https") := by
    rintro ⟨hhttp, hhttps⟩
    cases hw.scheme with
    | inl h => exact hhttp h
    | inr h => exact hhttps h
  unfold exchange Playback.play
  cases hn : isNamable u.bare with
  | true =>
    simp only [url_requestTo, Url.scheme_bare, hw.bare.hasHost, ha, hn, hs, h.send,
      obstacle_of_namable hu hn, Bool.true_eq_false, or_self, if_false]
    cases p.replies with
    | nil =>
      simp only [List.head?_nil, List.tail_nil, Option.map_none, Option.bind_none,
        silence_of_url hu]
      exact ⟨.failed (.unanswered u.bare) rfl rfl, h.deliver hr []⟩
    | cons reply rest =>
      simp only [List.head?_cons, List.tail_cons, Option.map_some, Option.bind_some]
      exact ⟨.replied reply.1 reply.2 rfl rfl, h.deliver hr rest⟩
  | false =>
    simp only [url_requestTo, hw.bare.hasHost, ha, hn, obstacle_of_not_namable hu hn,
      Bool.true_eq_false, or_true, if_false, if_true]
    exact ⟨.failed (.target u.bare) rfl rfl, h⟩

theorem isSuccess_iff (status : Nat) : isSuccess status = true ↔ 200 ≤ status ∧ status ≤ 299 := by
  simp only [isSuccess, Bool.and_eq_true, decide_eq_true_eq]
  omega

theorem catalogOf_complete (c : Client) (u : Url) (status : Nat) (body : List UInt8) :
    (c.catalogOf u ⟨status, some body⟩).1 =
      Playback.catalogIn (c.undecodable u) status body := by
  unfold catalogOf Playback.catalogIn
  simp only [isSuccess_iff]
  by_cases hs : 200 ≤ status ∧ status ≤ 299
  · simp only [if_pos hs, Option.bind_some]
    cases Catalog.ofBytes? body with
    | none => rfl
    | some catalog => rfl
  · simp [hs, Response.fault]

theorem setResult_complete (status : Nat) (body : List UInt8) :
    (setResult ⟨status, some body⟩).1 = Playback.acceptance status body := by
  unfold setResult Playback.acceptance
  simp only [isSuccess_iff]
  by_cases hs : 200 ≤ status ∧ status ≤ 299
  · simp [hs]
  · simp [hs, Response.fault]

theorem read_of_meets {entity service : String} {u : Url}
    (hu : c.url (.read entity service) = .ok u) {played : Except Failure Catalog}
    (h : Meets c.texts (Playback.catalogIn (c.wording.undecodable entity service))
      (c.exchange (c.readRequest u) l).1 played) :
    (c.read entity service l).result = played ∧
      (c.read entity service l).state = (c.exchange (c.readRequest u) l).2 := by
  have hread : c.readUrl entity service = .ok u := hu
  rw [undecodable_of_url hu] at h
  unfold read
  simp only [hread]
  cases he : c.exchange (c.readRequest u) l with
  | mk exchanged after =>
    rw [he] at h
    cases h with
    | failed fault exchange play =>
      subst exchange
      exact ⟨play.symm, rfl⟩
    | replied status body exchange play =>
      subst exchange
      exact ⟨(c.catalogOf_complete u.bare status body).trans play.symm, rfl⟩

theorem set_of_meets {request : SetRequest} {u : Url} (hu : c.url (.set request) = .ok u)
    {played : Except Failure Unit}
    (h : Meets c.texts Playback.acceptance (c.exchange (c.setRequest u request) l).1 played) :
    (c.set request l).result = played ∧
      (c.set request l).state = (c.exchange (c.setRequest u request) l).2 := by
  have hset : c.settings.endpoint plansPath = .ok u := hu
  unfold set
  simp only [hset]
  cases he : c.exchange (c.setRequest u request) l with
  | mk exchanged after =>
    rw [he] at h
    cases h with
    | failed fault exchange play =>
      subst exchange
      exact ⟨play.symm, rfl⟩
    | replied status body exchange play =>
      subst exchange
      exact ⟨(setResult_complete status body).trans play.symm, rfl⟩

theorem simulates (hb : c.settings.base.IsWeb)
    (ha : isHeaderValue c.settings.authorization = true) :
    Session.Simulates c.Mirrors c.remote (Playback.remote c.wording) := by
  refine ⟨?_, ?_⟩
  · intro l p h entity service
    obtain ⟨u, hu, hw⟩ := c.url_of_isWeb hb (.read entity service)
    obtain ⟨hmeets, hmirrors⟩ :=
      h.play ha hu hw (Playback.catalogIn (c.wording.undecodable entity service))
    obtain ⟨hresult, hstate⟩ := read_of_meets hu hmeets
    exact ⟨hresult, hstate ▸ hmirrors⟩
  · intro l p h request
    obtain ⟨u, hu, hw⟩ := c.url_of_isWeb hb (.set request)
    obtain ⟨hmeets, hmirrors⟩ := h.play ha hu hw Playback.acceptance
    obtain ⟨hresult, hstate⟩ := set_of_meets hu hmeets
    exact ⟨hresult, hstate ▸ hmirrors⟩

theorem mirrors_start (c : Client) (replies : List (Nat × List UInt8)) :
    c.Mirrors (Link.new (.scripted (replies.map complete))) ⟨replies, []⟩ := ⟨rfl, rfl⟩

/-- The client of a service on this machine. -/
def atLocalhost : Client :=
  ⟨.new ⟨"http", "", "", some (.name "localhost"), none, .segments [""], none, none⟩ "secret",
    by decide +kernel, .plain⟩

theorem base_atLocalhost :
    Url.parse (fun _ => none) "http://localhost" = .ok atLocalhost.settings.base :=
  eq_ok_of_toOption (by decide +kernel)

theorem authorization_atLocalhost : isHeaderValue atLocalhost.settings.authorization = true := by
  decide +kernel

/-- A session over HTTP with complete replies yields what the same session yields in memory. Its
requests are, in this order, those of the calls that were delivered there. -/
theorem session_as_played_back (c : Client) {map : Host.Mapping} {text : String}
    (hbase : Url.parse map text = .ok c.settings.base) (hscheme : c.settings.base.scheme = "http")
    (ha : isHeaderValue c.settings.authorization = true) (replies : List (Nat × List UInt8))
    (ops : List Operation) :
    let sent := Session.run c.remote (Link.new (.scripted (replies.map complete))) ops
    let played := Session.run (Playback.remote c.wording) ⟨replies, []⟩ ops
    sent.2 = played.2 ∧
    sent.1.peer = .scripted (played.1.replies.map complete) ∧
    played.1.delivered =
      (Session.calls played.2).filter (c.wording.obstacle · = none) ∧
    played.1.delivered.map c.request = sent.1.received.map .ok := by
  intro sent played
  have hweb := Url.isWeb_of_parse hbase (.inl hscheme)
  obtain ⟨hreports, hmirrors⟩ := (simulates hweb ha).run (c.mirrors_start replies) ops
  have hdelivered := Playback.delivered_run c.wording ⟨replies, []⟩ ops
  exact ⟨hreports, hmirrors.peer, by simpa using hdelivered, hmirrors.received⟩

/-- A body that holds no catalog, and then a refused set. -/
theorem two_replies_at_localhost :
    let c := atLocalhost
    let ops := [Operation.fetch "sub-1" "hana",
      .update ⟨"hana", "cloud", none, "sub-1", some 3⟩ (.numeric 3)]
    let replies := [(200, Utf8.ofString "?"), (409, Utf8.ofString "busy")]
    let sent := Session.run c.remote (Link.new (.scripted (replies.map complete))) ops
    let played := Session.run (Playback.remote c.wording) ⟨replies, []⟩ ops
    sent.1.received.length = 2 ∧ sent.2 = played.2 ∧
    sent.1.peer = .scripted (played.1.replies.map complete) ∧
    played.1.delivered = (Session.calls played.2).filter (c.wording.obstacle · = none) ∧
    played.1.delivered.map c.request = sent.1.received.map .ok := by
  intro c ops replies sent played
  have hlength : sent.1.received.length = 2 := by decide +kernel
  exact ⟨hlength, session_as_played_back c base_atLocalhost rfl authorization_atLocalhost
    replies ops⟩

/-- A read of an entity with a long name has no URL that a request can name. -/
theorem isNamable_of_long {entity service : String} {u : Url}
    (hu : c.url (.read entity service) = .ok u) (h : maxUrlLength < entity.length) :
    isNamable u.bare = false := by
  obtain ⟨v, -, hv⟩ := bind_eq_ok_iff.mp hu
  obtain rfl := Except.ok.inj hv
  have hquery := Form.length_le_write "subaccountGUID" entity ("assignedServiceName", service)
  have htext := Url.query_le_utf8ByteSize (Url.query_bare { v with
    query := some (Form.write [("subaccountGUID", entity), ("assignedServiceName", service)]) })
  simp only [isNamable, Bool.and_eq_false_iff, decide_eq_false_iff_not]
  left
  omega

/-- Such a read fails, whatever the replies are. -/
theorem fetch_of_long (hb : c.settings.base.IsWeb)
    (ha : isHeaderValue c.settings.authorization = true) {entity : String}
    (h : maxUrlLength < entity.length) (service : String) (replies : List (Nat × List UInt8)) :
    ∃ text, (Session.run c.remote (Link.new (.scripted (replies.map complete)))
      [.fetch entity service]).2 =
        [⟨.error (.remote (.unanswered text)), [.read entity service]⟩] := by
  obtain ⟨u, hu, -⟩ := c.url_of_isWeb hb (.read entity service)
  have ho := obstacle_of_not_namable hu (isNamable_of_long hu h)
  refine ⟨c.texts.target u.bare, ?_⟩
  rw [((simulates hb ha).run (c.mirrors_start replies) _).1]
  exact Playback.fetch_of_obstacle c.wording ho ⟨replies, []⟩

/-- If every call was delivered in memory, sessions could be told apart: a read of such an entity
would succeed. -/
theorem long_entity_not_delivered :
    let c := atLocalhost
    let ops := [Operation.fetch (String.ofList (List.replicate 70000 'a')) "hana"]
    let replies := [(200, Utf8.ofString "\x7b\x7d")]
    Url.parse (fun _ => none) "http://localhost" = .ok c.settings.base ∧
    isHeaderValue c.settings.authorization = true ∧
    (Session.run c.remote (Link.new (.scripted (replies.map complete))) ops).2 ≠
      (Session.run (Playback.remote { c.wording with obstacle := fun _ => none })
        ⟨replies, []⟩ ops).2 := by
  intro c ops replies
  refine ⟨base_atLocalhost, authorization_atLocalhost, ?_⟩
  have hlong : maxUrlLength < (String.ofList (List.replicate 70000 'a')).length := by
    rw [String.length_ofList, List.length_replicate]
    decide
  have hweb := Url.isWeb_of_parse base_atLocalhost (.inl rfl)
  obtain ⟨text, hsent⟩ := fetch_of_long hweb authorization_atLocalhost hlong "hana" replies
  have hbody : Catalog.ofBytes? (Utf8.ofString "\x7b\x7d") = some ⟨[], []⟩ := by decide +kernel
  rw [hsent, Playback.fetch_of_reply _ rfl (by decide) hbody]
  intro hsame
  cases hsame

end Client
end PlanQuota.Http
