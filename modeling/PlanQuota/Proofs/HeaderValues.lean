import PlanQuota.Proofs.Delivery
import PlanQuota.Proofs.Escapes
import PlanQuota.Proofs.Footprint

/-!
The texts of the settings as header values. A byte that could end a header is refused wherever a
text becomes a value: in the user agent when a client is made, in the authorization whenever a
request is to be sent. So what is sent has the headers of the settings and no others, and a text
that could bring others with it keeps the client from being made or the request from being sent. A
name and a password in the base are sent in an authorization of their own; they are encoded, so that
they bring nothing else with them.
-/
namespace PlanQuota.Http

/-- A byte that no header value may hold: a control other than the tab, or the delete character. -/
def IsControl (b : UInt8) : Prop := (b < 32 ∧ b ≠ 9) ∨ b = 127

instance (b : UInt8) : Decidable (IsControl b) := inferInstanceAs (Decidable (_ ∨ _))

/-- A text none of whose bytes is refused in a header value. -/
def IsClean (text : String) : Prop := ∀ b ∈ Utf8.ofString text, ¬IsControl b

instance (text : String) : Decidable (IsClean text) := inferInstanceAs (Decidable (∀ b ∈ _, _))

theorem isHeaderByte_iff (b : UInt8) : isHeaderByte b = true ↔ ¬IsControl b := by
  by_cases htab : b = 9
  · subst htab
    decide
  · simp [isHeaderByte, IsControl, htab]

theorem isHeaderValue_iff (text : String) : isHeaderValue text = true ↔ IsClean text := by
  simp only [isHeaderValue, List.all_eq_true, isHeaderByte_iff, IsClean]

theorem isClean_append (s t : String) : IsClean (s ++ t) ↔ IsClean s ∧ IsClean t := by
  simp only [IsClean, Utf8.ofString_append, List.forall_mem_append]

/-- The space between its parts adds nothing that could be refused. -/
theorem isClean_authorization (s : Settings) :
    IsClean s.authorization ↔ IsClean s.tokenType ∧ IsClean s.token := by
  have hspace : IsClean " " := by decide +kernel
  simp only [Settings.authorization, isClean_append, hspace, and_true]

theorem isClean_ofList {cs : List Char} (h : ∀ c ∈ cs, 0x20 ≤ c.toNat ∧ c.toNat < 0x7F) :
    IsClean (String.ofList cs) := by
  intro b hb
  rw [Utf8.ofString, String.toList_ofList, Utf8.encode] at hb
  obtain ⟨c, hc, hb⟩ := List.mem_flatMap.mp hb
  obtain ⟨hlow, hhigh⟩ := h c hc
  have hbyte := Utf8.mem_encodeChar hb
  simp only [IsControl, UInt8.lt_iff_toNat_lt, ← UInt8.toNat_inj, UInt8.reduceToNat]
  omega

/-- Nothing in a name or a password is refused, as they are encoded. -/
theorem isClean_login (l : Login) : IsClean l.authorization := by
  have hbasic : IsClean "Basic " := by decide +kernel
  exact (isClean_append _ _).mpr ⟨hbasic, isClean_ofList Base64.toNat_of_mem_encode⟩

/-- The values of the headers with a name. -/
def Request.values (r : Request) (name : String) : List String :=
  (r.headers.filter (·.1 = name)).map (·.2)

/-- The headers that requests have, each once but for the authorization, of which there are two if
the base has a name or a password. -/
def headerNames : Option Login → Method → List String
  | none, .get => ["accept", "authorization", "user-agent"]
  | none, .put => ["accept", "authorization", "content-type", "user-agent"]
  | some _, .get => ["accept", "authorization", "authorization", "user-agent"]
  | some _, .put => ["accept", "authorization", "authorization", "content-type", "user-agent"]

/-- A request has its authorization and its user agent from the settings, and no header that the
settings put in beside them. -/
structure Request.IsConfigured (r : Request) (s : Settings) : Prop where
  authorization : s.base.login? = none →
    r.values "authorization" = [s.tokenType ++ " " ++ s.token]
  /-- The authorization for the name and the password of the base is the first of two. -/
  authorizations : ∀ login, s.base.login? = some login →
    r.values "authorization" = [login.authorization, s.tokenType ++ " " ++ s.token]
  userAgent : r.values "user-agent" = [s.userAgent]
  names : r.headers.map (·.1) = headerNames s.base.login? r.method
  clean : ∀ value ∈ r.headers.map (·.2), IsClean value

namespace Client

variable {c : Client}

/-- What the authorization and the URL are like if a request can be sent. -/
def CanSend (c : Client) (url : Url) : Prop :=
  IsClean c.settings.tokenType ∧ IsClean c.settings.token ∧ isNamable url = true

instance (c : Client) (url : Url) : Decidable (c.CanSend url) :=
  inferInstanceAs (Decidable (_ ∧ _ ∧ _))

/-- Why a request to a URL of the web is not sent; the authorization is looked at first. -/
def sendFault (c : Client) (url : Url) : SendFault :=
  if IsClean c.settings.tokenType ∧ IsClean c.settings.token then .target url else .header

/-- The URL of a call has the name and the password of the base. -/
theorem login?_of_url {call : Call} {url : Url} (hu : c.url call = .ok url) :
    url.login? = c.settings.base.login? := by
  cases call with
  | read entity service =>
    obtain ⟨u, hendpoint, hread⟩ := bind_eq_ok_iff.mp hu
    obtain rfl := Except.ok.inj hread
    -- the query that is put in has no part in it
    change u.login? = c.settings.base.login?
    exact Settings.login?_of_endpoint hendpoint
  | set request => exact Settings.login?_of_endpoint hu

/-- All authorizations of a request are values of the header, and nothing else is. -/
theorem values_authorization (url : Url) (call : Call) :
    (c.requestTo url call).values "authorization" = c.authorizations url := by
  cases call with
  | read entity service =>
    simp [requestTo, readRequest, headers, Request.values, List.filter_map, Function.comp_def]
  | set request =>
    simp [requestTo, setRequest, headers, Request.values, List.filter_map, Function.comp_def]

theorem values_userAgent (url : Url) (call : Call) :
    (c.requestTo url call).values "user-agent" = [c.settings.userAgent] := by
  cases call with
  | read entity service => simp [requestTo, readRequest, headers, Request.values]
  | set request => simp [requestTo, setRequest, headers, Request.values]

theorem isConfigured_requestTo (h : IsClean c.settings.authorization) {url : Url}
    (hl : url.login? = c.settings.base.login?) (call : Call) :
    (c.requestTo url call).IsConfigured c.settings := by
  have hvalues : c.authorizations url =
      c.settings.base.login?.toList.map Login.authorization ++ [c.settings.authorization] := by
    rw [authorizations, hl]
  have hclean : ∀ value ∈ c.authorizations url, IsClean value := by
    rw [hvalues, List.forall_mem_append, List.forall_mem_map]
    exact ⟨fun login _ => isClean_login login, List.forall_mem_singleton.mpr h⟩
  have hagent : IsClean c.settings.userAgent := (isHeaderValue_iff _).mp c.agentLegal
  have hjson : IsClean "application/json" := by decide +kernel
  refine ⟨fun hnone => ?_, fun login hlogin => ?_, values_userAgent url call, ?_, ?_⟩
  · rw [values_authorization, hvalues, hnone]
    rfl
  · rw [values_authorization, hvalues, hlogin]
    rfl
  · cases hlogin : c.settings.base.login? with
    | none => cases call <;> simp [requestTo, readRequest, setRequest, headers, hvalues, hlogin,
        headerNames]
    | some login => cases call <;> simp [requestTo, readRequest, setRequest, headers, hvalues,
        hlogin, headerNames]
  · cases call with
    | read entity service =>
      simpa [requestTo, readRequest, headers, or_imp, forall_and, hjson, hagent] using hclean
    | set request =>
      simpa [requestTo, setRequest, headers, or_imp, forall_and, hjson, hagent] using hclean

/-- What leaves a client has its headers from the settings. -/
theorem isConfigured_of_outgoing? {call : Call} {r : Request} (h : c.outgoing? call = some r) :
    r.IsConfigured c.settings := by
  cases hu : c.url call with
  | error failure =>
    rw [outgoing?_of_error hu] at h
    cases h
  | ok url =>
    rw [outgoing?_of_ok hu] at h
    obtain ⟨hpasses, rfl⟩ : c.passes url.bare = true ∧ c.requestTo url call = r := by
      simpa using h
    have hvalue : isHeaderValue c.settings.authorization = true := by
      simp only [passes, Bool.and_eq_true] at hpasses
      exact hpasses.1.1.2
    exact isConfigured_requestTo ((isHeaderValue_iff _).mp hvalue) (login?_of_url hu) call

section Web

variable {url : Url} (hw : url.IsWeb)
include hw

theorem passes_iff_canSend : c.passes url = true ↔ c.CanSend url := by
  have hscheme : (url.scheme = "http" || url.scheme = "https") = true := by simpa using hw.scheme
  simp only [passes, hw.hasHost, hscheme, Bool.true_and, Bool.and_true, Bool.and_eq_true,
    isHeaderValue_iff, isClean_authorization, CanSend, and_assoc]

/-- Nothing happens to the connection then. -/
theorem exchange_of_not_canSend (h : ¬c.CanSend url) {r : Request} (hr : r.url = url) (l : Link) :
    c.exchange r l = (.error (c.sendFault url), l) := by
  have hvalue := (isHeaderValue_iff c.settings.authorization).trans (isClean_authorization _)
  unfold exchange sendFault
  rw [hr, if_neg (by simp [hw.hasHost])]
  by_cases ha : IsClean c.settings.tokenType ∧ IsClean c.settings.token
  · have hn : isNamable url = false := by simpa [CanSend, ha] using h
    simp [hvalue.mpr ha, hn, ha]
  · have hrefused : isHeaderValue c.settings.authorization = false := by simpa [← hvalue] using ha
    simp [hrefused, ha]

theorem read_of_not_canSend (h : ¬c.CanSend url.bare) {entity service : String}
    (hu : c.readUrl entity service = .ok url) (l : Link) :
    (c.read entity service l).result =
      .error (.remote (.unanswered ((c.sendFault url.bare).message c.texts))) := by
  have hurl : (c.readRequest url).url = url.bare := rfl
  simp only [read, hu, exchange_of_not_canSend hw.bare h hurl]
  rfl

theorem set_of_not_canSend (h : ¬c.CanSend url.bare) (request : SetRequest)
    (hu : c.settings.endpoint plansPath = .ok url) (l : Link) :
    (c.set request l).result =
      .error (.remote (.unanswered ((c.sendFault url.bare).message c.texts))) := by
  have hurl : (c.setRequest url request).url = url.bare := rfl
  simp only [set, hu, exchange_of_not_canSend hw.bare h hurl]
  rfl

/-- A call whose request cannot be sent fails without an answer, and so does its operation. -/
theorem result_of_not_canSend (h : ¬c.CanSend url.bare) {op : Operation} {call : Call}
    (hcall : op.call? = some call) (hu : c.url call = .ok url) (l : Link) :
    (op.run c.remote l).result =
      .error (op.unanswered ((c.sendFault url.bare).message c.texts)) := by
  rw [(op.run_eq_shape c.remote l).1]
  cases call with
  | read entity service =>
    obtain ⟨conclude, hshape, hconclude⟩ := Operation.shape_of_read hcall
    rw [hshape, ← hconclude, ← read_of_not_canSend hw h hu l]
    rfl
  | set request =>
    obtain ⟨conclude, hshape, hconclude⟩ := Operation.shape_of_set hcall
    rw [hshape, ← hconclude, ← set_of_not_canSend hw h request hu l]
    rfl

end Web
end Client

/-- One operation of a session, and the requests that reached the other end meanwhile. -/
structure Turn where
  operation : Operation
  result : Except Failure Yield
  requests : List Request

/-- An operation without a call ends well and sends nothing. A call becomes one request if that can
be sent; if not, nothing is sent and the operation fails without status, refusal or body. -/
def Turn.IsDue (t : Turn) (c : Client) (peer : Peer) : Prop :=
  match t.operation.call? with
  | none => t.requests = [] ∧ ∃ deletion, t.result = .ok (.deleted deletion)
  | some call => ∃ url, c.url call = .ok url ∧
    t.requests = (if c.CanSend url.bare then peer.accepts [c.requestTo url call] else []) ∧
    (¬c.CanSend url.bare →
      t.result = .error (t.operation.unanswered ((c.sendFault url.bare).message c.texts)))

namespace Client

variable (c : Client) (l : Link)

def turnOf (l : Link) (op : Operation) : Link × List Turn :=
  let outcome := op.run c.remote l
  (outcome.state, [⟨op, outcome.result, outcome.state.received.drop l.received.length⟩])

/-- The requests of an operation are those of its call that leave and are accepted. -/
theorem turnOf_eq (op : Operation) :
    c.turnOf l op = (op.call?.toList.foldl c.transmit l, [⟨op, (op.run c.remote l).result,
      l.peer.accepts (op.call?.toList.filterMap c.outgoing?)⟩]) := by
  simp only [turnOf, c.operation_link l op, Operation.calls_shape, received_foldl_transmit,
    List.drop_left]

theorem received_turnOf (op : Operation) :
    (c.turnOf l op).1.received = l.received ++ (c.turnOf l op).2.flatMap (·.requests) := by
  simp only [turnOf_eq, received_foldl_transmit, List.flatMap_cons, List.flatMap_nil,
    List.append_nil]

/-- The other end accepts after an operation what it accepted before. -/
theorem accepts_turnOf (op : Operation) :
    (c.turnOf l op).1.peer.accepts = l.peer.accepts := by
  rw [turnOf_eq]
  funext requests
  cases op.call? with
  | none => rfl
  | some call => exact c.accepts_transmit l call requests

theorem isConfigured_turnOf (op : Operation) :
    ∀ t ∈ (c.turnOf l op).2, ∀ r ∈ t.requests, r.IsConfigured c.settings := by
  intro t ht r hr
  rw [turnOf_eq] at ht
  obtain rfl := List.mem_singleton.mp ht
  obtain ⟨call, -, hout⟩ := List.mem_filterMap.mp (Peer.mem_of_mem_accepts hr)
  exact isConfigured_of_outgoing? hout

theorem isDue_turnOf (hb : c.settings.base.IsWeb) (op : Operation) :
    ∀ t ∈ (c.turnOf l op).2, t.IsDue c l.peer := by
  intro t ht
  rw [turnOf_eq] at ht
  obtain rfl := List.mem_singleton.mp ht
  unfold Turn.IsDue
  cases hcall : op.call? with
  | none =>
    obtain ⟨deletion, hshape⟩ := Operation.shape_of_silent hcall
    refine ⟨by simp, deletion, ?_⟩
    rw [(op.run_eq_shape c.remote l).1, hshape]
    rfl
  | some call =>
    obtain ⟨url, hu, hw⟩ := c.url_of_isWeb hb call
    refine ⟨url, hu, ?_, fun h => result_of_not_canSend hw h hcall hu l⟩
    have hpasses := passes_iff_canSend (c := c) hw.bare
    by_cases h : c.CanSend url.bare
    · have hleaves : c.passes url.bare = true := hpasses.mpr h
      simp [outgoing?_of_ok hu, hleaves, h]
    · have hstays : c.passes url.bare = false := Bool.eq_false_iff.mpr (mt hpasses.mp h)
      simp [outgoing?_of_ok hu, hstays, h]

end Client

theorem Turn.IsDue.of_accepts {t : Turn} {c : Client} {peer peer' : Peer}
    (h : t.IsDue c peer) (hpeer : peer.accepts = peer'.accepts) : t.IsDue c peer' := by
  simpa only [Turn.IsDue, hpeer] using h

namespace Client

variable (texts : Texts) {s : Settings}

theorem ofSettings_of_isClean (h : IsClean s.userAgent) :
    ofSettings texts s = .ok ⟨s, (isHeaderValue_iff _).mpr h, texts⟩ :=
  dif_pos ((isHeaderValue_iff _).mpr h)

theorem ofSettings_of_not_isClean (h : ¬IsClean s.userAgent) :
    ofSettings texts s = .error (.settings .userAgent) := dif_neg (mt (isHeaderValue_iff _).mp h)

/-- No client is made for a user agent that is not clean, and for any other one is. -/
theorem ofSettings_eq_error_iff (s : Settings) (failure : Failure) :
    ofSettings texts s = .error failure ↔
      ¬IsClean s.userAgent ∧ failure = .settings .userAgent := by
  by_cases h : IsClean s.userAgent
  · simp [ofSettings_of_isClean texts h, h]
  · simp [ofSettings_of_not_isClean texts h, h, eq_comm]

end Client

/-- Makes a client and lets it carry out the operations. Without a client the link stays as it
is. -/
def serve (texts : Texts) (s : Settings) (l : Link) (ops : List Operation) :
    Except Failure (List Turn) × Link :=
  match Client.ofSettings texts s with
  | .error failure => (.error failure, l)
  | .ok c =>
    let (last, turns) := Trace.run c.turnOf l ops
    (.ok turns, last)

/-- A client is made unless the user agent holds a control, and nothing is sent before that. All
that it then sends, in whatever session, has one authorization and one user agent, those of the
settings, and no header beside its own, save for a second authorization if the base has a name or a
password. On a base of the web each call is one request if token type and token hold no control and
the URL can be named; otherwise it sends nothing and fails. -/
theorem no_text_leaves_its_header (texts : Texts) (s : Settings) (l : Link)
    (ops : List Operation) :
    (∀ failure, Client.ofSettings texts s = .error failure ↔
      ¬IsClean s.userAgent ∧ failure = .settings .userAgent) ∧
    (Failure.settings .userAgent).isTerminal = true ∧
    (¬IsClean s.userAgent → serve texts s l ops = (.error (.settings .userAgent), l)) ∧
    (IsClean s.userAgent → ∃ c turns last, Client.ofSettings texts s = .ok c ∧ c.settings = s ∧
      serve texts s l ops = (.ok turns, last) ∧ turns.map (·.operation) = ops ∧
      last.received = l.received ++ turns.flatMap (·.requests) ∧
      (∀ t ∈ turns, ∀ r ∈ t.requests, r.IsConfigured s) ∧
      ∀ map text, Url.parse map text = .ok s.base →
        (s.base.scheme = "http" ∨ s.base.scheme = "https") → ∀ t ∈ turns, t.IsDue c l.peer) := by
  refine ⟨Client.ofSettings_eq_error_iff texts s, rfl, fun h => ?_, fun h => ?_⟩
  · rw [serve, Client.ofSettings_of_not_isClean texts h]
  · let c : Client := ⟨s, (isHeaderValue_iff _).mpr h, texts⟩
    refine ⟨c, (Trace.run c.turnOf l ops).2, (Trace.run c.turnOf l ops).1,
      Client.ofSettings_of_isClean texts h, rfl, ?_, ?_, Trace.run_adds c.received_turnOf l ops, ?_,
      fun map text hbase hscheme => ?_⟩
    · rw [serve, Client.ofSettings_of_isClean texts h]
    · simpa using Trace.run_labels Turn.operation id (fun _ _ => rfl) l ops
    · exact Trace.run_emits (P := fun _ => True) (fun _ _ _ => trivial)
        (fun m op _ => c.isConfigured_turnOf m op) l trivial ops
    · have hweb := Url.isWeb_of_parse hbase hscheme
      -- replies are used up on the way, so the peer itself is no invariant; what it accepts is
      refine Trace.run_emits (P := fun m => m.peer.accepts = l.peer.accepts) ?_ ?_ l rfl ops
      · exact fun m op hm => (c.accepts_turnOf m op).trans hm
      · exact fun m op hm t ht => (c.isDue_turnOf m hweb op t ht).of_accepts hm

/-- A text that would begin a header of its own: as a user agent, as a token, and not at all, on a
base without and with a name and a password. -/
theorem line_end_kept_out_at_localhost :
    let s := Client.atLocalhost.settings
    let text := "x\r\nrole: admin"
    let link := Link.new (.scripted [.answer 502 [], .answer 204 []])
    let d : Desired := ⟨"hana", "cloud", none, "sub-1", some 3⟩
    let ops := [Operation.observe d none, .update d (.numeric 3)]
    let t := { s with token := text }
    let u := { s with base := { s.base with username := "user", password := "pw" } }
    Url.parse (fun _ => none) "http://localhost" = .ok s.base ∧
    Url.parse (fun _ => none) "http://user:pw@localhost" = .ok u.base ∧
    IsClean s.userAgent ∧ ¬IsClean text ∧
    serve .plain (s.withUserAgent text) link ops = (.error (.settings .userAgent), link) ∧
    (∃ c turns last, serve .plain t link ops = (.ok turns, last) ∧ last.received = [] ∧
      ∀ turn ∈ turns, turn.IsDue c link.peer) ∧
    (∃ c turns last, serve .plain s link ops = (.ok turns, last) ∧
      last.received.map (·.values "authorization") = [["Bearer secret"], ["Bearer secret"]] ∧
      ∀ turn ∈ turns, turn.IsDue c link.peer ∧ ∀ r ∈ turn.requests, r.IsConfigured s) ∧
    ∃ c turns last, serve .plain u link ops = (.ok turns, last) ∧
      last.received.map (·.values "authorization") =
        [["Basic dXNlcjpwdw==", "Bearer secret"], ["Basic dXNlcjpwdw==", "Bearer secret"]] ∧
      ∀ turn ∈ turns, turn.IsDue c link.peer ∧ ∀ r ∈ turn.requests, r.IsConfigured u := by
  intro s text link d ops t u
  have hbase : Url.parse (fun _ => none) "http://localhost" = .ok s.base := Client.base_atLocalhost
  have hlogin : Url.parse (fun _ => none) "http://user:pw@localhost" = .ok u.base :=
    eq_ok_of_toOption (by decide +kernel)
  have hclean : IsClean s.userAgent := by decide +kernel
  have htext : ¬IsClean text := by decide +kernel
  obtain ⟨-, -, hagent, -⟩ := no_text_leaves_its_header .plain (s.withUserAgent text) link ops
  obtain ⟨-, -, -, htoken⟩ := no_text_leaves_its_header .plain t link ops
  obtain ⟨-, -, -, hsecret⟩ := no_text_leaves_its_header .plain s link ops
  obtain ⟨-, -, -, hnamed⟩ := no_text_leaves_its_header .plain u link ops
  refine ⟨hbase, hlogin, hclean, htext, hagent htext, ?_, ?_, ?_⟩
  · obtain ⟨c, turns, last, -, -, hserve, -, -, -, hdue⟩ := htoken hclean
    have hnothing : (serve .plain t link ops).2.received = [] := by decide +kernel
    rw [hserve] at hnothing
    exact ⟨c, turns, last, hserve, hnothing, hdue _ _ hbase (.inl rfl)⟩
  · obtain ⟨c, turns, last, -, -, hserve, -, -, hconfigured, hdue⟩ := hsecret hclean
    have hvalues : (serve .plain s link ops).2.received.map (·.values "authorization") =
        [["Bearer secret"], ["Bearer secret"]] := by decide +kernel
    rw [hserve] at hvalues
    exact ⟨c, turns, last, hserve, hvalues, fun turn hturn =>
      ⟨hdue _ _ hbase (.inl rfl) turn hturn, hconfigured turn hturn⟩⟩
  · obtain ⟨c, turns, last, -, -, hserve, -, -, hconfigured, hdue⟩ := hnamed hclean
    have hvalues : (serve .plain u link ops).2.received.map (·.values "authorization") =
        [["Basic dXNlcjpwdw==", "Bearer secret"], ["Basic dXNlcjpwdw==", "Bearer secret"]] := by
      decide +kernel
    rw [hserve] at hvalues
    exact ⟨c, turns, last, hserve, hvalues, fun turn hturn =>
      ⟨hdue _ _ hlogin (.inl rfl) turn hturn, hconfigured turn hturn⟩⟩

/-- Without a control in token type and token, a read of an entity with a long name is not sent;
with one in the token, a delete that has nothing to take back does not fail; and with a name and a
password in the base a request has two authorizations. -/
theorem clean_token_not_decisive :
    let c := Client.atLocalhost
    let link := Link.new (.scripted [])
    let long : Desired := ⟨"hana", "cloud", none, String.ofList (List.replicate 70000 'a'), none⟩
    let s := { c.settings with token := "x\nrole: admin" }
    let d : Desired := ⟨"hana", "cloud", none, "sub-1", none⟩
    let gone : Observation := ⟨⟨⟨"cloud", none, none, none, false, none⟩, none⟩, .enabled true⟩
    let base := { c.settings.base with username := "user", password := "pw" }
    let named : Client := ⟨{ c.settings with base }, c.agentLegal, c.texts⟩
    (Url.parse (fun _ => none) "http://localhost" = .ok c.settings.base ∧
      IsClean c.settings.tokenType ∧ IsClean c.settings.token ∧
      ((Operation.observe long none).run c.remote link).state.received = []) ∧
    (Url.parse (fun _ => none) "http://localhost" = .ok s.base ∧ ¬IsClean s.token ∧
      ∃ c, Client.ofSettings .plain s = .ok c ∧
        ((Operation.delete d gone 1).run c.remote link).result =
          .ok (.deleted .alreadyAbsent)) ∧
    Url.parse (fun _ => none) "http://user:pw@localhost" = .ok named.settings.base ∧
      IsClean named.settings.tokenType ∧ IsClean named.settings.token ∧
      ((Operation.observe d none).run named.remote link).state.received.map
        (·.values "authorization") = [["Basic dXNlcjpwdw==", "Bearer secret"]] := by
  intro c link long s d gone base named
  have hbase : Url.parse (fun _ => none) "http://localhost" = .ok c.settings.base :=
    Client.base_atLocalhost
  have hlong : Client.maxUrlLength < long.entity.length := by
    rw [String.length_ofList, List.length_replicate]
    decide
  obtain ⟨url, hu, -⟩ := c.url_of_isWeb (Url.isWeb_of_parse hbase (.inl rfl))
    (.read long.entity long.service)
  have hstays : c.passes url.bare = false := by
    simp [Client.passes, Client.isNamable_of_long hu hlong]
  refine ⟨⟨hbase, by decide +kernel, by decide +kernel, ?_⟩, ⟨hbase, by decide +kernel, _,
    Client.ofSettings_of_isClean .plain (by decide +kernel), rfl⟩,
    eq_ok_of_toOption (by decide +kernel), by decide +kernel, by decide +kernel,
    by decide +kernel⟩
  have hcalls : (Operation.observe long none).shape.calls = [.read long.entity long.service] := rfl
  rw [c.operation_link, hcalls, Client.received_foldl_transmit]
  simp [Client.outgoing?_of_ok hu, hstays, link, Link.new]

end PlanQuota.Http
