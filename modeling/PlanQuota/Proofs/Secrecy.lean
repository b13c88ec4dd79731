import PlanQuota.Http.Client
import PlanQuota.Proofs.Session

/-!
The token is a secret that only the authorization shows. Two sessions with settings that differ in
nothing else look the same to everybody who does not read that header: whether there are settings
and a client at all and what is printed of them, every result and log line, every request but for
its authorization. A caller that decides on each operation by what it has seen so far learns no
more than one with a fixed list.
-/
namespace PlanQuota

variable {σ τ α β : Type} {Rel : σ → τ → Prop}

/-- The same result and log lines on two sides, with states that are related again. -/
structure Answer.Matches (Rel : σ → τ → Prop) (x : Answer σ α) (y : Answer τ α) : Prop where
  result : x.result = y.result
  log : x.log = y.log
  state : Rel x.state y.state

structure Outcome.Matches (Rel : σ → τ → Prop) (x : Outcome σ α) (y : Outcome τ α) : Prop where
  result : x.result = y.result
  calls : x.calls = y.calls
  log : x.log = y.log
  state : Rel x.state y.state

theorem Outcome.Matches.map {x : Outcome σ α} {y : Outcome τ α} (h : x.Matches Rel y)
    (f : α → β) : (x.map f).Matches Rel (y.map f) :=
  ⟨congrArg (Except.map f) h.result, h.calls, h.log, h.state⟩

/-- No call tells the two sides apart, neither by its answer nor by what it logs. -/
structure Remote.Alike (Rel : σ → τ → Prop) (a : Remote σ) (b : Remote τ) : Prop where
  read : ∀ s t, Rel s t → ∀ entity service,
    (a.read entity service s).Matches Rel (b.read entity service t)
  set : ∀ s t, Rel s t → ∀ request, (a.set request s).Matches Rel (b.set request t)

namespace Remote.Alike

variable {a : Remote σ} {b : Remote τ} {s : σ} {t : τ}

theorem observe (h : Alike Rel a b) (hst : Rel s t) (d : Desired) (established : Option Quota) :
    (Engine.observe a d established s).Matches Rel (Engine.observe b d established t) := by
  obtain ⟨hresult, hlog, hstate⟩ := h.read s t hst d.entity d.service
  unfold Engine.observe
  simp only [hresult, hlog]
  cases (b.read d.entity d.service t).result with
  | error failure => exact ⟨rfl, rfl, rfl, hstate⟩
  | ok catalog => exact ⟨rfl, rfl, rfl, hstate⟩

theorem update (h : Alike Rel a b) (hst : Rel s t) (d : Desired) (q : Quota) :
    (Engine.update a d q s).Matches Rel (Engine.update b d q t) := by
  obtain ⟨hresult, hlog, hstate⟩ := h.set s t hst (SetRequest.ofQuota d q)
  exact ⟨congrArg (Except.mapError (Engine.setFailure d)) hresult, rfl, congrArg (_ :: ·) hlog,
    hstate⟩

theorem delete (h : Alike Rel a b) (hst : Rel s t) (d : Desired) (o : Observation)
    (siblings : Nat) :
    (Engine.delete a d o siblings s).Matches Rel (Engine.delete b d o siblings t) := by
  obtain ⟨hresult, hcalls, hlog, hstate⟩ := h.update hst d o.required.removal
  unfold Engine.delete
  split
  · exact ⟨rfl, rfl, rfl, hst⟩
  · split
    · exact ⟨rfl, rfl, rfl, hst⟩
    · exact ⟨congrArg (Except.map fun _ => Deletion.revoked o.required.removal) hresult, hcalls,
        hlog, hstate⟩

theorem fetch (h : Alike Rel a b) (hst : Rel s t) (entity service : String) :
    (Engine.fetch a entity service s).Matches Rel (Engine.fetch b entity service t) := by
  obtain ⟨hresult, hlog, hstate⟩ := h.read s t hst entity service
  exact ⟨hresult, rfl, hlog, hstate⟩

theorem send (h : Alike Rel a b) (hst : Rel s t) (request : SetRequest) :
    (Engine.send a request s).Matches Rel (Engine.send b request t) := by
  obtain ⟨hresult, hlog, hstate⟩ := h.set s t hst request
  exact ⟨hresult, rfl, hlog, hstate⟩

/-- Nor does any operation tell them apart. -/
theorem run (h : Alike Rel a b) (hst : Rel s t) (op : Operation) :
    (op.run a s).Matches Rel (op.run b t) := by
  cases op with
  | observe d established => exact (h.observe hst d established).map _
  | create d q => exact (h.update hst d q).map _
  | update d q => exact (h.update hst d q).map _
  | delete d o siblings => exact (h.delete hst d o siblings).map _
  | fetch entity service => exact (h.fetch hst entity service).map _
  | send request => exact (h.send hst request).map _

end Remote.Alike

namespace Session

/-- All that an operation lets its caller know. -/
structure Account where
  result : Except Failure Yield
  calls : List Call
  log : List LogLine

/-- At most `n` operations, each chosen by the accounts of those before it, until the caller has
no other. A fixed list is the caller that looks at nothing but their number. -/
def converse (remote : Remote σ) (caller : List Account → Option Operation) :
    Nat → σ → List Account → σ × List Account
  | 0, s, seen => (s, seen)
  | n + 1, s, seen =>
    match caller seen with
    | none => (s, seen)
    | some op =>
      let o := op.run remote s
      converse remote caller n o.state (seen ++ [⟨o.result, o.calls, o.log⟩])

/-- A caller whose operations all turn out the same on related states sees the same throughout. -/
theorem converse_of_matches {a : Remote σ} {b : Remote τ}
    {caller : List Account → Option Operation}
    (h : ∀ seen op, caller seen = some op →
      ∀ s t, Rel s t → (op.run a s).Matches Rel (op.run b t))
    (n : Nat) {s : σ} {t : τ} (hst : Rel s t) (seen : List Account) :
    (converse a caller n s seen).2 = (converse b caller n t seen).2 ∧
      Rel (converse a caller n s seen).1 (converse b caller n t seen).1 := by
  induction n generalizing s t seen with
  | zero => exact ⟨rfl, hst⟩
  | succ n ih =>
    unfold converse
    cases hop : caller seen with
    | none => exact ⟨rfl, hst⟩
    | some op =>
      obtain ⟨hresult, hcalls, hlog, hstate⟩ := h seen op hop s t hst
      simp only [hresult, hcalls, hlog]
      exact ih hstate _

/-- On sides that look alike a caller sees the same, and so it goes on in the same way. -/
theorem converse_of_alike {a : Remote σ} {b : Remote τ} (h : Remote.Alike Rel a b)
    (caller : List Account → Option Operation) (n : Nat) {s : σ} {t : τ} (hst : Rel s t)
    (seen : List Account) :
    (converse a caller n s seen).2 = (converse b caller n t seen).2 ∧
      Rel (converse a caller n s seen).1 (converse b caller n t seen).1 :=
  converse_of_matches (fun _ op _ _ _ hst => h.run hst op) n hst seen

end Session

def Settings.withToken (s : Settings) (token : String) : Settings := { s with token }

@[simp] theorem Settings.describe_withToken (s : Settings) (token : String) :
    (s.withToken token).describe = s.describe := rfl

namespace Http

/-- What a request shows to those who do not read its authorization. -/
def Request.withoutAuthorization (r : Request) : Request :=
  { r with headers := r.headers.filter (·.1 ≠ "authorization") }

/-- Links that differ at most in the authorization of what they received. -/
structure Link.SameBut (l m : Link) : Prop where
  peer : l.peer = m.peer
  received : l.received.map Request.withoutAuthorization =
    m.received.map Request.withoutAuthorization

theorem Link.SameBut.send {l m : Link} (h : l.SameBut m) {r q : Request}
    (hr : r.withoutAuthorization = q.withoutAuthorization) :
    (l.send r).1 = (m.send q).1 ∧ (l.send r).2.SameBut (m.send q).2 := by
  unfold Link.send
  rw [← h.peer]
  cases hl : l.peer with
  | refusing => exact ⟨rfl, h⟩
  | scripted replies => exact ⟨rfl, rfl, by simp [h.received, hr]⟩

namespace Client

def withToken (c : Client) (token : String) : Client :=
  ⟨c.settings.withToken token, c.agentLegal, c.texts⟩

/-- Neither authorization is left, whether there is one for a name and a password or not. -/
theorem filter_headers (c : Client) (url : Url) (contentType : List (String × String)) :
    (c.headers url contentType).filter (·.1 ≠ "authorization") =
      [("accept", "application/json")] ++ contentType.filter (·.1 ≠ "authorization") ++
        [("user-agent", c.settings.userAgent)] := by
  have hnone : ((c.authorizations url).map (("authorization", ·))).filter
      (·.1 ≠ "authorization") = [] := by simp
  simp only [headers, List.filter_append, hnone, List.append_nil]
  rfl

theorem readRequest_withToken (c : Client) (token : String) (url : Url) :
    (c.readRequest url).withoutAuthorization =
      ((c.withToken token).readRequest url).withoutAuthorization := by
  simp only [Request.withoutAuthorization, readRequest, filter_headers]
  rfl

theorem setRequest_withToken (c : Client) (token : String) (url : Url) (request : SetRequest) :
    (c.setRequest url request).withoutAuthorization =
      ((c.withToken token).setRequest url request).withoutAuthorization := by
  simp only [Request.withoutAuthorization, setRequest, filter_headers]
  rfl

section Exchange

variable {c : Client} {token : String}
variable (ha : isHeaderValue c.settings.authorization =
  isHeaderValue (c.withToken token).settings.authorization)
include ha

/-- Requests that differ in their authorization alone get the same response, or fail alike. -/
theorem exchange_withToken {l m : Link} (h : l.SameBut m) {r q : Request} (hurl : r.url = q.url)
    (hr : r.withoutAuthorization = q.withoutAuthorization) :
    ∃ exchanged after after', c.exchange r l = (exchanged, after) ∧
      (c.withToken token).exchange q m = (exchanged, after') ∧ after.SameBut after' := by
  obtain ⟨hreply, hafter⟩ := h.send hr
  unfold exchange
  rw [hurl, ha]
  split
  · exact ⟨_, _, _, rfl, rfl, h⟩
  · split
    · exact ⟨_, _, _, rfl, rfl, h⟩
    · split
      · exact ⟨_, _, _, rfl, rfl, h⟩
      · simp only [hreply]
        cases (m.send q).1.bind Response.ofReply? with
        | none => exact ⟨_, _, _, rfl, rfl, hafter⟩
        | some response => exact ⟨_, _, _, rfl, rfl, hafter⟩

theorem read_withToken {l m : Link} (h : l.SameBut m) (entity service : String) :
    (c.read entity service l).Matches Link.SameBut
      ((c.withToken token).read entity service m) := by
  have hurl : (c.withToken token).readUrl entity service = c.readUrl entity service := rfl
  unfold read
  rw [hurl]
  cases c.readUrl entity service with
  | error failure => exact ⟨rfl, rfl, h⟩
  | ok url =>
    obtain ⟨exchanged, after, after', hc, hc', hafter⟩ :=
      exchange_withToken ha h (r := c.readRequest url)
        (q := (c.withToken token).readRequest url) rfl (c.readRequest_withToken token url)
    simp only [hc, hc']
    cases exchanged with
    | error fault => exact ⟨rfl, rfl, hafter⟩
    | ok response => exact ⟨rfl, rfl, hafter⟩

theorem set_withToken {l m : Link} (h : l.SameBut m) (request : SetRequest) :
    (c.set request l).Matches Link.SameBut ((c.withToken token).set request m) := by
  have hurl : (c.withToken token).settings.endpoint plansPath = c.settings.endpoint plansPath := rfl
  unfold set
  rw [hurl]
  cases c.settings.endpoint plansPath with
  | error failure => exact ⟨rfl, rfl, h⟩
  | ok url =>
    obtain ⟨exchanged, after, after', hc, hc', hafter⟩ :=
      exchange_withToken ha h (r := c.setRequest url request)
        (q := (c.withToken token).setRequest url request) rfl
        (c.setRequest_withToken token url request)
    simp only [hc, hc']
    cases exchanged with
    | error fault => exact ⟨rfl, rfl, hafter⟩
    | ok response => exact ⟨rfl, rfl, hafter⟩

theorem alike_withToken : Remote.Alike Link.SameBut c.remote (c.withToken token).remote :=
  ⟨fun _ _ h entity service => read_withToken ha h entity service,
    fun _ _ h request => set_withToken ha h request⟩

end Exchange
end Client

/-- Where settings come from, but for the token. -/
inductive Origin
  | url (base : Url)
  | text (base : String)
  | environment (baseUrl tokenType : Option String)

/-- All that a session is set up with but the token: the origin of the settings, and what is
changed in them. -/
structure Setup where
  origin : Origin
  tokenType : Option String
  userAgent : Option String
  timeout : Option Nat

variable (map : Host.Mapping)

namespace Origin

def settings (origin : Origin) (token : String) : Except Failure Settings :=
  match origin with
  | url base => .ok (.new base token)
  | text base => Settings.parse map base token
  | environment baseUrl tokenType => Settings.ofEnvironment map ⟨baseUrl, some token, tokenType⟩

theorem parse_withToken (base token token' : String) :
    Settings.parse map base token' =
      (Settings.parse map base token).map (·.withToken token') := by
  unfold Settings.parse
  cases Url.parse map base with
  | error fault => rfl
  | ok url => rfl

/-- The token has no part in whether there are settings. -/
theorem settings_withToken (origin : Origin) (token token' : String) :
    origin.settings map token' = (origin.settings map token).map (·.withToken token') := by
  cases origin with
  | url base => rfl
  | text base => exact parse_withToken map base token token'
  | environment baseUrl tokenType =>
    cases baseUrl with
    | none => rfl
    | some base =>
      simp only [settings, Settings.ofEnvironment]
      rw [parse_withToken map base token token']
      cases Settings.parse map base token with
      | error failure => rfl
      | ok s =>
        simp only [Except.map, bind, Except.bind]
        split
        · rfl
        · rfl

end Origin

namespace Setup

def change (x : Setup) (s : Settings) : Settings :=
  let s := x.tokenType.elim s s.withTokenType
  let s := x.userAgent.elim s s.withUserAgent
  x.timeout.elim s s.withTimeout

theorem change_withToken (x : Setup) (s : Settings) (token : String) :
    x.change (s.withToken token) = (x.change s).withToken token := by
  obtain ⟨origin, tokenType, userAgent, timeout⟩ := x
  cases tokenType <;> cases userAgent <;> cases timeout <;> rfl

def settings (x : Setup) (token : String) : Except Failure Settings :=
  (x.origin.settings map token).map x.change

theorem settings_withToken (x : Setup) (token token' : String) :
    x.settings map token' = (x.settings map token).map (·.withToken token') := by
  unfold settings
  rw [x.origin.settings_withToken map token token']
  cases x.origin.settings map token with
  | error failure => rfl
  | ok s => exact congrArg Except.ok (x.change_withToken s token')

/-- The settings exist, and their authorization can be sent. -/
def Accepts (x : Setup) (token : String) : Prop :=
  ∃ s, x.settings map token = .ok s ∧ isHeaderValue s.authorization = true

theorem accepts_iff (x : Setup) (token : String) :
    (x.settings map token).toOption.any (isHeaderValue ·.authorization) = true ↔
      x.Accepts map token := by
  unfold Accepts
  cases x.settings map token with
  | error failure => simp [Except.toOption]
  | ok s => simp [Except.toOption]

instance (x : Setup) (token : String) : Decidable (x.Accepts map token) :=
  decidable_of_iff _ (x.accepts_iff map token)

/-- How far a session came, and all that was shown on the way but the authorization. -/
inductive Exposure
  | noSettings (failure : Failure)
  | noClient (description : String) (failure : Failure)
  | session (description : String) (accounts : List Session.Account) (requests : List Request)

def Exposure.requests : Exposure → List Request
  | noSettings _ => []
  | noClient _ _ => []
  | session _ _ requests => requests

/-- Makes settings and a client, and lets the caller talk to the service. -/
def expose (texts : Texts) (x : Setup) (token : String) (peer : Peer)
    (caller : List Session.Account → Option Operation) (n : Nat) : Exposure :=
  match x.settings map token with
  | .error failure => .noSettings failure
  | .ok s =>
    match Client.ofSettings texts s with
    | .error failure => .noClient s.describe failure
    | .ok c =>
      let (link, accounts) := Session.converse c.remote caller n (Link.new peer) []
      .session s.describe accounts (link.received.map Request.withoutAuthorization)

/-- Two tokens of which both or none can be sent expose the same, whatever the settings are made
of, whoever answers and whoever asks. -/
theorem exposes_no_token (texts : Texts) (x : Setup) {token token' : String}
    (h : x.Accepts map token ↔ x.Accepts map token') (peer : Peer)
    (caller : List Session.Account → Option Operation) (n : Nat) :
    x.expose map texts token peer caller n = x.expose map texts token' peer caller n := by
  have hsettings := x.settings_withToken map token token'
  unfold expose
  cases hs : x.settings map token with
  | error failure => simp only [hsettings, hs, Except.map]
  | ok s =>
    rw [hs] at hsettings
    have hs' : x.settings map token' = .ok (s.withToken token') := hsettings
    simp only [hs', Settings.describe_withToken]
    by_cases hagent : isHeaderValue s.userAgent = true
    · have hc : Client.ofSettings texts s = .ok ⟨s, hagent, texts⟩ := dif_pos hagent
      have hc' : Client.ofSettings texts (s.withToken token') =
          .ok (Client.withToken ⟨s, hagent, texts⟩ token') := dif_pos hagent
      have ha : isHeaderValue s.authorization =
          isHeaderValue (s.withToken token').authorization := by
        simp only [Accepts, hs, hs', Except.ok.injEq, exists_eq_left'] at h
        exact Bool.eq_iff_iff.mpr h
      have halike := Client.alike_withToken (c := ⟨s, hagent, texts⟩) ha
      obtain ⟨haccounts, hlinks⟩ := Session.converse_of_alike halike caller n
        (s := Link.new peer) (t := Link.new peer) ⟨rfl, rfl⟩ []
      simp only [hc, hc', haccounts, hlinks.received]
    · have hc : Client.ofSettings texts s = .error (.settings .userAgent) := dif_neg hagent
      have hc' : Client.ofSettings texts (s.withToken token') = .error (.settings .userAgent) :=
        dif_neg hagent
      simp only [hc, hc']

/-- A read that gets no catalog and a set that is refused, with one token and with another. -/
theorem two_tokens_at_localhost :
    let x : Setup := ⟨.text "http://localhost", none, some "agent", some 1500⟩
    let peer := Peer.scripted [.answer 200 [], .answer 409 []]
    let caller := fun seen : List Session.Account =>
      [Operation.fetch "sub-1" "hana",
        .update ⟨"hana", "cloud", none, "sub-1", some 3⟩ (.numeric 3)][seen.length]?
    let map : Host.Mapping := fun _ => none
    x.Accepts map "one" ∧ x.Accepts map "another" ∧
      (x.expose map .plain "one" peer caller 2).requests.map (·.method) = [.get, .put] ∧
      x.expose map .plain "one" peer caller 2 = x.expose map .plain "another" peer caller 2 := by
  intro x peer caller map
  have hone : x.Accepts map "one" := by decide +kernel
  have hanother : x.Accepts map "another" := by decide +kernel
  exact ⟨hone, hanother, by decide +kernel,
    exposes_no_token map .plain x (iff_of_true hone hanother) peer caller 2⟩

end Setup
end Http
end PlanQuota
