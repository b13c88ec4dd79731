import PlanQuota.Proofs.Playback

/-!
Which calls become requests, and what a client makes of the answers. A request leaves the client if
its URL can be built and named, the URL is one of HTTP and the authorization can be sent; otherwise
nothing happens to the connection. What reaches the other end are the requests of the calls that
leave, in the order of the calls.
-/
namespace PlanQuota.Http

/-- Those of the requests that reach the other end: all of them if it is there. -/
def Peer.accepts : Peer → List Request → List Request
  | refusing, _ => []
  | scripted _, requests => requests

@[simp] theorem Peer.accepts_nil (peer : Peer) : peer.accepts [] = [] := by cases peer <;> rfl

theorem Peer.accepts_append (peer : Peer) (xs ys : List Request) :
    peer.accepts (xs ++ ys) = peer.accepts xs ++ peer.accepts ys := by
  cases peer <;> rfl

theorem Peer.mem_of_mem_accepts {peer : Peer} {requests : List Request} {r : Request}
    (h : r ∈ peer.accepts requests) : r ∈ requests := by
  cases peer with
  | refusing => cases h
  | scripted replies => exact h

namespace Link

variable (l : Link) (r : Request)

theorem received_send : (l.send r).2.received = l.received ++ l.peer.accepts [r] := by
  unfold send
  cases hp : l.peer with
  | refusing => simp [Peer.accepts]
  | scripted replies => rfl

/-- The other end stays as it is, but for its replies. -/
theorem accepts_send (requests : List Request) :
    (l.send r).2.peer.accepts requests = l.peer.accepts requests := by
  unfold send
  cases hp : l.peer with
  | refusing => rw [hp]
  | scripted replies => rfl

theorem reply_send_iff {reply : Reply} :
    (l.send r).1 = some reply ↔ ∃ replies, l.peer = .scripted (reply :: replies) := by
  unfold send
  cases l.peer with
  | refusing => simp
  | scripted replies =>
    cases replies with
    | nil => simp
    | cons first rest => simp [eq_comm]

end Link

/-- A whole body comes with a whole answer only. -/
theorem Response.ofReply?_eq_some_iff {reply : Reply} {status : Nat} {body : List UInt8} :
    ofReply? reply = some ⟨status, some body⟩ ↔ reply = .answer status body := by
  cases reply with
  | answer s b => simp [ofReply?]
  | cut s => simp [ofReply?]
  | dropped => simp [ofReply?]
  | stalled => simp [ofReply?]

namespace Client

variable (c : Client)

/-- Whether requests to a URL leave the client. -/
def passes (url : Url) : Bool :=
  url.hasHost && isHeaderValue c.settings.authorization &&
    (url.scheme = "http" || url.scheme = "https") && isNamable url

/-- The request that leaves the client for a call, if one does. -/
def outgoing? (call : Call) : Option Request :=
  (c.request call).toOption.filter (c.passes ·.url)

/-- What a call does to the connection. -/
def transmit (l : Link) (call : Call) : Link :=
  (c.outgoing? call).elim l fun r => (l.send r).2

variable {c} {l : Link} {r : Request}

theorem exchange_of_passes (h : c.passes r.url = true) :
    c.exchange r l = ((match (l.send r).1.bind Response.ofReply? with
      | some response => .ok response
      | none => .error (.unanswered r.url)), (l.send r).2) := by
  simp only [passes, Bool.and_eq_true, Bool.or_eq_true, decide_eq_true_eq] at h
  obtain ⟨⟨⟨hhost, ha⟩, hscheme⟩, hn⟩ := h
  have hweb : ¬((r.url.scheme ≠ "http" ∧ r.url.scheme ≠ "https") ∨ isNamable r.url = false) := by
    rintro (⟨hhttp, hhttps⟩ | hname)
    · exact hscheme.elim hhttp hhttps
    · rw [hn] at hname
      cases hname
  unfold exchange
  rw [if_neg (by simp [hhost]), if_neg (by simp [ha]), if_neg hweb]
  obtain ⟨reply, after⟩ := l.send r
  dsimp only
  cases reply.bind Response.ofReply? with
  | none => rfl
  | some response => rfl

theorem exchange_of_not_passes (h : c.passes r.url = false) :
    ∃ fault, c.exchange r l = (.error fault, l) := by
  unfold exchange
  split
  · exact ⟨_, rfl⟩
  · next hhost =>
    split
    · exact ⟨_, rfl⟩
    · next ha =>
      split
      · exact ⟨_, rfl⟩
      · next hweb =>
        rw [not_or, not_and_or, not_not, not_not] at hweb
        obtain ⟨hscheme, hn⟩ := hweb
        have hpasses : c.passes r.url = true := by simp [passes, hhost, ha, hscheme, hn]
        rw [hpasses] at h
        cases h

/-- After an exchange the connection has the request if it left. -/
theorem exchange_link (c : Client) (l : Link) (r : Request) :
    (c.exchange r l).2 = if c.passes r.url then (l.send r).2 else l := by
  cases h : c.passes r.url with
  | true => rw [exchange_of_passes h, if_pos rfl]
  | false =>
    obtain ⟨fault, hfault⟩ := exchange_of_not_passes (l := l) h
    rw [hfault]
    rfl

theorem exchange_eq_ok_iff (response : Response) :
    (c.exchange r l).1 = .ok response ↔ c.passes r.url = true ∧
      ∃ reply replies, l.peer = .scripted (reply :: replies) ∧
        Response.ofReply? reply = some response := by
  have hreply : (l.send r).1.bind Response.ofReply? = some response ↔
      ∃ reply replies, l.peer = .scripted (reply :: replies) ∧
        Response.ofReply? reply = some response := by
    simp only [Option.bind_eq_some_iff, Link.reply_send_iff, exists_and_right]
  cases h : c.passes r.url with
  | true =>
    rw [← hreply, exchange_of_passes h]
    cases (l.send r).1.bind Response.ofReply? with
    | none => simp
    | some other => simp
  | false =>
    obtain ⟨fault, hfault⟩ := exchange_of_not_passes (l := l) h
    simp [hfault]

variable {call : Call} {u : Url}

theorem outgoing?_of_error {failure : Failure} (hu : c.url call = .error failure) :
    c.outgoing? call = none := by
  simp [outgoing?, request, hu, Except.map, Except.toOption]

theorem outgoing?_of_ok (hu : c.url call = .ok u) :
    c.outgoing? call = if c.passes u.bare then some (c.requestTo u call) else none := by
  simp [outgoing?, request, hu, Except.map, Except.toOption, Option.filter_some]

theorem exchange_link_of_url (hu : c.url call = .ok u) (l : Link) :
    (c.exchange (c.requestTo u call) l).2 = c.transmit l call := by
  rw [exchange_link, url_requestTo, transmit, outgoing?_of_ok hu]
  cases c.passes u.bare <;> rfl

theorem transmit_of_error {failure : Failure} (hu : c.url call = .error failure) (l : Link) :
    c.transmit l call = l := by
  rw [transmit, outgoing?_of_error hu]
  rfl

theorem read_link (c : Client) (entity service : String) (l : Link) :
    (c.read entity service l).state = c.transmit l (.read entity service) := by
  unfold read
  cases hu : c.readUrl entity service with
  | error failure =>
    have hurl : c.url (.read entity service) = .error failure := hu
    exact (transmit_of_error hurl l).symm
  | ok u =>
    have hurl : c.url (.read entity service) = .ok u := hu
    rw [← exchange_link_of_url hurl l]
    simp only [requestTo]
    cases c.exchange (c.readRequest u) l with
    | mk exchanged after => cases exchanged <;> rfl

theorem set_link (c : Client) (request : SetRequest) (l : Link) :
    (c.set request l).state = c.transmit l (.set request) := by
  unfold set
  cases hu : c.settings.endpoint plansPath with
  | error failure =>
    have hurl : c.url (.set request) = .error failure := hu
    exact (transmit_of_error hurl l).symm
  | ok u =>
    have hurl : c.url (.set request) = .ok u := hu
    rw [← exchange_link_of_url hurl l]
    simp only [requestTo]
    cases c.exchange (c.setRequest u request) l with
    | mk exchanged after => cases exchanged <;> rfl

theorem catalogOf_eq_ok_iff {status : Nat} {body : Option (List UInt8)} {catalog : Catalog} :
    (c.catalogOf u ⟨status, body⟩).1 = .ok catalog ↔
      (200 ≤ status ∧ status ≤ 299) ∧ ∃ bytes, body = some bytes ∧
        Catalog.ofBytes? bytes = some catalog := by
  unfold catalogOf
  simp only [isSuccess_iff, ← Option.bind_eq_some_iff]
  by_cases hs : 200 ≤ status ∧ status ≤ 299
  · simp only [hs, true_and]
    cases body.bind Catalog.ofBytes? with
    | none => simp
    | some other => simp
  · simp [hs]

theorem read_eq_ok_iff_exchange {entity service : String} {catalog : Catalog}
    (hu : c.readUrl entity service = .ok u) :
    (c.read entity service l).result = .ok catalog ↔
      ∃ response, (c.exchange (c.readRequest u) l).1 = .ok response ∧
        (c.catalogOf u.bare response).1 = .ok catalog := by
  unfold read
  rw [hu]
  dsimp only
  cases c.exchange (c.readRequest u) l with
  | mk exchanged after =>
    cases exchanged with
    | error fault => simp
    | ok response => simp

/-- A read succeeds if its request leaves and the next reply is a success with a catalog. -/
theorem read_eq_ok_iff {entity service : String} {catalog : Catalog} :
    (c.read entity service l).result = .ok catalog ↔
      (c.outgoing? (.read entity service)).isSome = true ∧
      ∃ status body replies, l.peer = .scripted (.answer status body :: replies) ∧
        (200 ≤ status ∧ status ≤ 299) ∧ Catalog.ofBytes? body = some catalog := by
  cases hu : c.readUrl entity service with
  | error failure =>
    have hurl : c.url (.read entity service) = .error failure := hu
    simp [read, hu, outgoing?_of_error hurl]
  | ok u =>
    have hurl : c.url (.read entity service) = .ok u := hu
    have hout : (c.outgoing? (.read entity service)).isSome = c.passes u.bare := by
      rw [outgoing?_of_ok hurl]
      cases c.passes u.bare <;> rfl
    rw [read_eq_ok_iff_exchange hu, hout]
    constructor
    · rintro ⟨⟨status, body⟩, hexchange, hcatalog⟩
      obtain ⟨hpasses, reply, replies, hpeer, hreply⟩ := (exchange_eq_ok_iff _).mp hexchange
      obtain ⟨hs, bytes, rfl, hbytes⟩ := catalogOf_eq_ok_iff.mp hcatalog
      obtain rfl := Response.ofReply?_eq_some_iff.mp hreply
      exact ⟨hpasses, status, bytes, replies, hpeer, hs, hbytes⟩
    · rintro ⟨hpasses, status, bytes, replies, hpeer, hs, hbytes⟩
      have hexchange : (c.exchange (c.readRequest u) l).1 = .ok ⟨status, some bytes⟩ :=
        (exchange_eq_ok_iff _).mpr ⟨hpasses, _, replies, hpeer, rfl⟩
      exact ⟨_, hexchange, catalogOf_eq_ok_iff.mpr ⟨hs, bytes, rfl, hbytes⟩⟩

theorem received_transmit (l : Link) (call : Call) :
    (c.transmit l call).received = l.received ++ l.peer.accepts (c.outgoing? call).toList := by
  unfold transmit
  cases c.outgoing? call with
  | none => simp
  | some r => exact l.received_send r

theorem accepts_transmit (l : Link) (call : Call) (requests : List Request) :
    (c.transmit l call).peer.accepts requests = l.peer.accepts requests := by
  unfold transmit
  cases c.outgoing? call with
  | none => rfl
  | some r => exact l.accepts_send r requests

/-- The requests that reach the other end are those of the calls that leave. -/
theorem received_foldl_transmit (calls : List Call) (l : Link) :
    (calls.foldl c.transmit l).received =
      l.received ++ l.peer.accepts (calls.filterMap c.outgoing?) := by
  induction calls generalizing l with
  | nil => simp
  | cons call rest ih =>
    rw [List.foldl_cons, ih, received_transmit, accepts_transmit, List.append_assoc,
      ← Peer.accepts_append, List.filterMap_cons]
    cases c.outgoing? call with
    | none => rfl
    | some r => rfl

/-- The connection after an operation is the one after its calls. -/
theorem operation_link (c : Client) (l : Link) (op : Operation) :
    (op.run c.remote l).state = op.shape.calls.foldl c.transmit l := by
  rw [(op.run_eq_shape c.remote l).2.2]
  cases op.shape with
  | silent result => rfl
  | reads entity service conclude => exact c.read_link entity service l
  | sets request conclude => exact c.set_link request l

end Client
end PlanQuota.Http
