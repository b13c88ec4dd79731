import PlanQuota.Proofs.Session

/-!
What a session does to its remote side, written down by the remote side itself: every call that it
is asked and what it answers. An operation asks at most once and never again, whatever the answer
is, and what it sets is one grant of one plan, for the entitlement it was given.
-/
namespace PlanQuota

variable {σ : Type}

/-- A call with its answer. -/
inductive Exchange
  | read (entity service : String) (answer : Except Failure Catalog)
  | set (request : SetRequest) (answer : Except Failure Unit)

namespace Exchange

def call : Exchange → Call
  | read entity service _ => .read entity service
  | set request _ => .set request

end Exchange

/-- The same remote side with a book, to which it adds each exchange. -/
def Remote.watched (remote : Remote σ) : Remote (σ × List Exchange) where
  read entity service s :=
    let answer := remote.read entity service s.1
    ⟨answer.result, answer.log, (answer.state, s.2 ++ [.read entity service answer.result])⟩
  set request s :=
    let answer := remote.set request s.1
    ⟨answer.result, answer.log, (answer.state, s.2 ++ [.set request answer.result])⟩

namespace SetRequest

/-- A request for one plan and one entity, those of the entitlement, with the quota as an amount
or as a flag and never as both. -/
def GrantsOnly (r : SetRequest) (d : Desired) (q : Quota) : Prop :=
  ∃ plan grant, r.plans = [plan] ∧ plan.grants = [grant] ∧
    plan.service = d.service ∧ plan.plan = d.plan ∧ plan.planIdentifier = d.planIdentifier ∧
    grant.entity = d.entity ∧
    match q with
    | .numeric n => grant.amount = some n ∧ grant.enable = none
    | .enabled b => grant.amount = none ∧ grant.enable = some b

theorem grantsOnly_ofQuota (d : Desired) (q : Quota) : (ofQuota d q).GrantsOnly d q := by
  refine ⟨_, _, rfl, rfl, rfl, rfl, rfl, rfl, ?_⟩
  cases q with
  | numeric n => exact ⟨rfl, rfl⟩
  | enabled b => exact ⟨rfl, rfl⟩

end SetRequest

/-- The entitlement that an operation may write, and the quota it writes for it. -/
def Operation.pushed? : Operation → Option (Desired × Quota)
  | .create d q | .update d q => some (d, q)
  | .delete d o _ => some (d, o.required.removal)
  | .observe .. | .fetch .. | .send .. => none

namespace Session

/-- One operation of a session, with what the remote side saw of it. -/
structure Episode where
  operation : Operation
  result : Except Failure Yield
  exchanges : List Exchange

namespace Episode

/-- The operation asked for one change, and for no more. `y` is what it yields if that was made. -/
def Sets (e : Episode) (d : Desired) (q : Quota) (y : Yield) : Prop :=
  ∃ request answer, e.exchanges = [.set request answer] ∧ request.GrantsOnly d q ∧
    ∀ z, e.result = .ok z ↔ answer = .ok () ∧ z = y

/-- The operation did what it has to do, and nothing else. -/
def IsExact (e : Episode) : Prop :=
  match e.operation with
  | .observe d _ => ∃ answer, e.exchanges = [.read d.entity d.service answer]
  | .create d q | .update d q => e.Sets d q .changed
  | .delete d o siblings =>
    (o.state.assignment = none →
      e.exchanges = [] ∧ e.result = .ok (.deleted .alreadyAbsent)) ∧
    (o.state.assignment ≠ none → ¬(o.required.isNumeric = true ∨ siblings ≤ 1) →
      e.exchanges = [] ∧ e.result = .ok (.deleted .shared)) ∧
    (o.state.assignment ≠ none → o.required.isNumeric = true ∨ siblings ≤ 1 →
      e.Sets d o.required.removal (.deleted (.revoked o.required.removal)))
  | .fetch entity service =>
    ∃ answer, e.exchanges = [.read entity service answer] ∧ e.result = answer.map .fetched
  | .send request =>
    ∃ answer, e.exchanges = [.set request answer] ∧ e.result = answer.map fun _ => .changed

end Episode

variable (remote : Remote σ)

/-- Runs an operation with an empty book. -/
def episodeOf (s : σ) (op : Operation) : σ × List Episode :=
  let outcome := op.run remote.watched (s, [])
  (outcome.state.1, [⟨op, outcome.result, outcome.state.2⟩])

/-- The operations of a session, each with what the remote side saw of it. -/
def history (s : σ) (ops : List Operation) : List Episode :=
  (Trace.run (episodeOf remote) s ops).2

end Session

namespace Shape

variable (remote : Remote σ) (s : σ)

def exchanges : Shape → List Exchange
  | silent _ => []
  | reads entity service _ => [.read entity service (remote.read entity service s).result]
  | sets request _ => [.set request (remote.set request s).result]

theorem map_call_exchanges (shape : Shape) :
    (shape.exchanges remote s).map Exchange.call = shape.calls := by
  cases shape with
  | silent result => rfl
  | reads entity service conclude => rfl
  | sets request conclude => rfl

/-- A watched remote side answers as it would otherwise and writes the exchange down. -/
theorem watched (shape : Shape) (book : List Exchange) :
    shape.result remote.watched (s, book) = shape.result remote s ∧
      shape.state remote.watched (s, book) =
        (shape.state remote s, book ++ shape.exchanges remote s) := by
  cases shape with
  | silent result => exact ⟨rfl, by simp [state, exchanges]⟩
  | reads entity service conclude => exact ⟨rfl, rfl⟩
  | sets request conclude => exact ⟨rfl, rfl⟩

end Shape

namespace Operation

variable (remote : Remote σ) (s : σ)

theorem run_watched (op : Operation) (book : List Exchange) :
    (op.run remote.watched (s, book)).result = (op.run remote s).result ∧
      (op.run remote.watched (s, book)).calls = (op.run remote s).calls ∧
      (op.run remote.watched (s, book)).state =
        ((op.run remote s).state, book ++ op.shape.exchanges remote s) := by
  obtain ⟨hresult, hcalls, hstate⟩ := op.run_eq_shape remote s
  obtain ⟨hresult', hcalls', hstate'⟩ := op.run_eq_shape remote.watched (s, book)
  obtain ⟨hr, hs⟩ := op.shape.watched remote s book
  exact ⟨by rw [hresult', hresult, hr], by rw [hcalls', hcalls], by rw [hstate', hstate, hs]⟩

/-- Creating is updating. -/
theorem run_create (d : Desired) (q : Quota) :
    (create d q).run remote s = (update d q).run remote s := rfl

theorem shape_delete_of_absent {d : Desired} {o : Observation} {siblings : Nat}
    (h : o.state.assignment = none) :
    (delete d o siblings).shape = .silent (.ok (.deleted .alreadyAbsent)) := by
  simp [shape, h]

theorem shape_delete_of_shared {d : Desired} {o : Observation} {siblings : Nat}
    (ha : o.state.assignment ≠ none) (h : ¬(o.required.isNumeric = true ∨ siblings ≤ 1)) :
    (delete d o siblings).shape = .silent (.ok (.deleted .shared)) := by
  rw [not_or] at h
  have hs : 1 < siblings := by omega
  simp [shape, ha, h.1, hs]

theorem shape_delete_of_removal {d : Desired} {o : Observation} {siblings : Nat}
    (ha : o.state.assignment ≠ none) (h : o.required.isNumeric = true ∨ siblings ≤ 1) :
    (delete d o siblings).shape =
      .change d o.required.removal (.deleted (.revoked o.required.removal)) := by
  have hs : ¬(o.required.isNumeric = false ∧ 1 < siblings) := by
    rintro ⟨hq, hlt⟩
    cases h with
    | inl hq' => rw [hq] at hq'; cases hq'
    | inr hle => omega
  simp [shape, ha, hs]

end Operation

namespace Operation

/-- The call of an operation. A delete makes none if there is nothing to take back, or if others
still need what is only switched on. -/
def call? : Operation → Option Call
  | observe d _ => some (.read d.entity d.service)
  | create d q | update d q => some (.set (.ofQuota d q))
  | delete d o siblings =>
    if o.state.assignment ≠ none ∧ (o.required.isNumeric = true ∨ siblings ≤ 1) then
      some (.set (.ofQuota d o.required.removal))
    else none
  | fetch entity service => some (.read entity service)
  | send request => some (.set request)

/-- The failure of an operation whose call got no answer: the engine puts the failed operation
around it, a call by itself does not. -/
def unanswered (message : String) : Operation → Failure
  | observe d _ => .readingFailed d.service (.remote (.unanswered message))
  | create d _ | update d _ | delete d _ _ =>
    .settingFailed d.service d.plan (.remote (.unanswered message))
  | fetch .. | send .. => .remote (.unanswered message)

variable {op : Operation}

theorem shape_of_silent (h : op.call? = none) :
    ∃ deletion, op.shape = .silent (.ok (.deleted deletion)) := by
  cases op with
  | delete d o siblings =>
    by_cases ha : o.state.assignment = none
    · exact ⟨_, shape_delete_of_absent ha⟩
    · by_cases hq : o.required.isNumeric = true ∨ siblings ≤ 1
      · simp [call?, ha, hq] at h
      · exact ⟨_, shape_delete_of_shared ha hq⟩
  | observe d established => cases h
  | create d q => cases h
  | update d q => cases h
  | fetch entity service => cases h
  | send request => cases h

theorem shape_of_read {entity service : String} (h : op.call? = some (.read entity service)) :
    ∃ conclude, op.shape = .reads entity service conclude ∧ ∀ message,
      conclude (.error (.remote (.unanswered message))) = .error (op.unanswered message) := by
  cases op with
  | observe d established => cases h; exact ⟨_, rfl, fun _ => rfl⟩
  | fetch entity' service' => cases h; exact ⟨_, rfl, fun _ => rfl⟩
  | delete d o siblings => simp [call?] at h
  | create d q => cases h
  | update d q => cases h
  | send request => cases h

theorem shape_of_set {request : SetRequest} (h : op.call? = some (.set request)) :
    ∃ conclude, op.shape = .sets request conclude ∧ ∀ message,
      conclude (.error (.remote (.unanswered message))) = .error (op.unanswered message) := by
  cases op with
  | create d q => cases h; exact ⟨_, rfl, fun _ => rfl⟩
  | update d q => cases h; exact ⟨_, rfl, fun _ => rfl⟩
  | delete d o siblings =>
    obtain ⟨⟨ha, hq⟩, hrequest⟩ : (o.state.assignment ≠ none ∧
        (o.required.isNumeric = true ∨ siblings ≤ 1)) ∧
        SetRequest.ofQuota d o.required.removal = request := by simpa [call?] using h
    subst hrequest
    exact ⟨_, shape_delete_of_removal ha hq, fun _ => rfl⟩
  | send request' => cases h; exact ⟨_, rfl, fun _ => rfl⟩
  | observe d established => cases h
  | fetch entity service => cases h

theorem calls_shape (op : Operation) : op.shape.calls = op.call?.toList := by
  cases h : op.call? with
  | none =>
    obtain ⟨deletion, hshape⟩ := shape_of_silent h
    rw [hshape]
    rfl
  | some call =>
    cases call with
    | read entity service =>
      obtain ⟨conclude, hshape, -⟩ := shape_of_read h
      rw [hshape]
      rfl
    | set request =>
      obtain ⟨conclude, hshape, -⟩ := shape_of_set h
      rw [hshape]
      rfl

end Operation

namespace Session

variable (remote : Remote σ) (s : σ)

theorem episodeOf_eq (op : Operation) :
    episodeOf remote s op =
      ((op.run remote s).state,
        [⟨op, op.shape.result remote s, op.shape.exchanges remote s⟩]) := by
  obtain ⟨hresult, -, hstate⟩ := op.run_watched remote s []
  simp only [episodeOf, hresult, hstate, (op.run_eq_shape remote s).1, List.nil_append]

namespace Episode

/-- A change is asked for once, and it is made if and only if the answer says so. -/
theorem sets_of_change {op : Operation} {d : Desired} {q : Quota} {y : Yield}
    (h : op.shape = .change d q y) :
    Sets ⟨op, op.shape.result remote s, op.shape.exchanges remote s⟩ d q y := by
  refine ⟨SetRequest.ofQuota d q, (remote.set (SetRequest.ofQuota d q) s).result, ?_,
    SetRequest.grantsOnly_ofQuota d q, fun z => ?_⟩
  · simp [h, Shape.change, Shape.exchanges]
  · simp only [h, Shape.change, Shape.result]
    cases (remote.set (SetRequest.ofQuota d q) s).result with
    | error failure => simp [Except.map]
    | ok u => simp [Except.map, eq_comm]

theorem isExact (op : Operation) :
    IsExact ⟨op, op.shape.result remote s, op.shape.exchanges remote s⟩ := by
  cases op with
  | observe d established => exact ⟨_, rfl⟩
  | create d q => exact sets_of_change remote s rfl
  | update d q => exact sets_of_change remote s rfl
  | fetch entity service => exact ⟨_, rfl, rfl⟩
  | send request => exact ⟨_, rfl, rfl⟩
  | delete d o siblings =>
    refine ⟨fun ha => ?_, fun ha h => ?_, fun ha h => ?_⟩
    · rw [Operation.shape_delete_of_absent ha]
      exact ⟨rfl, rfl⟩
    · rw [Operation.shape_delete_of_shared ha h]
      exact ⟨rfl, rfl⟩
    · exact sets_of_change remote s (Operation.shape_delete_of_removal ha h)

/-- A set is a given request or one grant of what the operation was given. -/
def Permits (op : Operation) (request : SetRequest) : Prop :=
  op = .send request ∨ ∃ d q, op.pushed? = some (d, q) ∧ request.GrantsOnly d q

/-- What the remote side saw of one operation: nothing, one read or one set. -/
theorem IsExact.exchanges {e : Episode} (h : e.IsExact) :
    e.exchanges = [] ∨ (∃ entity service answer, e.exchanges = [.read entity service answer]) ∨
      ∃ request answer, e.exchanges = [.set request answer] ∧ Permits e.operation request := by
  obtain ⟨op, result, exchanges⟩ := e
  have sets : ∀ {d q y}, op.pushed? = some (d, q) → Sets ⟨op, result, exchanges⟩ d q y →
      ∃ request answer, exchanges = [.set request answer] ∧ Permits op request := by
    rintro d q y hop ⟨request, answer, hex, hgrants, -⟩
    exact ⟨request, answer, hex, .inr ⟨d, q, hop, hgrants⟩⟩
  cases op with
  | observe d established =>
    obtain ⟨answer, hex⟩ := h
    exact .inr (.inl ⟨_, _, answer, hex⟩)
  | create d q => exact .inr (.inr (sets rfl h))
  | update d q => exact .inr (.inr (sets rfl h))
  | fetch entity service =>
    obtain ⟨answer, hex, -⟩ := h
    exact .inr (.inl ⟨_, _, answer, hex⟩)
  | send request =>
    obtain ⟨answer, hex, -⟩ := h
    exact .inr (.inr ⟨request, answer, hex, .inl rfl⟩)
  | delete d o siblings =>
    obtain ⟨habsent, hshared, hremoval⟩ := h
    by_cases ha : o.state.assignment = none
    · exact .inl (habsent ha).1
    · by_cases hq : o.required.isNumeric = true ∨ siblings ≤ 1
      · exact .inr (.inr (sets rfl (hremoval ha hq)))
      · exact .inl (hshared ha hq).1

theorem IsExact.length_le_one {e : Episode} (h : e.IsExact) : e.exchanges.length ≤ 1 := by
  rcases h.exchanges with hex | ⟨entity, service, answer, hex⟩ | ⟨request, answer, hex, -⟩
  · simp [hex]
  · simp [hex]
  · simp [hex]

theorem IsExact.permits {e : Episode} (h : e.IsExact) {request : SetRequest}
    {answer : Except Failure Unit} (hmem : .set request answer ∈ e.exchanges) :
    Permits e.operation request := by
  rcases h.exchanges with hex | ⟨entity, service, a, hex⟩ | ⟨r, a, hex, hpermits⟩
  · rw [hex] at hmem
    cases hmem
  · rw [hex] at hmem
    cases List.mem_singleton.mp hmem
  · rw [hex] at hmem
    cases List.mem_singleton.mp hmem
    exact hpermits

end Episode

/-- The book of a whole session is that of its operations, one after the other. -/
theorem watched_run (ops : List Operation) (book : List Exchange) :
    (run remote.watched (s, book) ops).1.2 =
      book ++ (history remote s ops).flatMap (·.exchanges) := by
  induction ops generalizing s book with
  | nil => simp [run, history]
  | cons op rest ih =>
    have hnow := (op.run_watched remote s book).2.2
    have hlater := ih (op.run remote s).state (book ++ op.shape.exchanges remote s)
    simp only [run, history, Trace.run_cons, step, episodeOf_eq, hnow, List.flatMap_append]
      at hlater ⊢
    simpa using hlater

/-- Being watched makes no difference to the reports of a session. -/
theorem reports_eq_history (ops : List Operation) :
    (run remote s ops).2 =
      (history remote s ops).map fun e => ⟨e.result, e.exchanges.map Exchange.call⟩ := by
  induction ops generalizing s with
  | nil => rfl
  | cons op rest ih =>
    obtain ⟨hresult, hcalls, -⟩ := op.run_eq_shape remote s
    have hlater := ih (op.run remote s).state
    simp only [run, history, Trace.run_cons, step, episodeOf_eq, List.map_append] at hlater ⊢
    rw [hlater, hresult, hcalls, ← Shape.map_call_exchanges remote s]
    rfl

theorem operations_history (ops : List Operation) :
    (history remote s ops).map (·.operation) = ops := by
  have hstep (t : σ) (op : Operation) : (episodeOf remote t op).2.map (·.operation) = [op] := by
    rw [episodeOf_eq]
    rfl
  exact (Trace.run_labels Episode.operation id hstep s ops).trans (List.map_id ops)

/-- What holds of one operation on every state holds of each operation of a session. -/
theorem history_forall {P : Episode → Prop}
    (h : ∀ t op, P ⟨op, op.shape.result remote t, op.shape.exchanges remote t⟩)
    (ops : List Operation) : ∀ e ∈ history remote s ops, P e := by
  refine Trace.run_emits (P := fun _ => True) (fun _ _ _ => trivial) ?_ s trivial ops
  intro t op _ e he
  rw [episodeOf_eq] at he
  obtain rfl := List.mem_singleton.mp he
  exact h t op

theorem isExact_of_mem_history (ops : List Operation) :
    ∀ e ∈ history remote s ops, e.IsExact :=
  history_forall remote s (fun t op => Episode.isExact remote t op) ops

/-- On every remote side and for every list of operations: a watched remote side sees the exchanges
of the operations in their order and no others, each operation has its exact footprint, so that it
asks at most once, and all that is ever set is one grant of what the operation was given. -/
theorem exact_footprint (ops : List Operation) :
    let episodes := history remote s ops
    episodes.map (·.operation) = ops ∧
      (run remote.watched (s, []) ops).1.2 = episodes.flatMap (·.exchanges) ∧
      (run remote s ops).2 =
        episodes.map (fun e => ⟨e.result, e.exchanges.map Exchange.call⟩) ∧
      (∀ e ∈ episodes, e.IsExact ∧ e.exchanges.length ≤ 1) ∧
      (∀ e ∈ episodes, ∀ request answer, .set request answer ∈ e.exchanges →
        e.operation = .send request ∨
          ∃ d q, e.operation.pushed? = some (d, q) ∧ request.GrantsOnly d q) ∧
      ∀ t d q, (Operation.create d q).run remote t = (Operation.update d q).run remote t := by
  refine ⟨operations_history remote s ops, watched_run remote s ops [],
    reports_eq_history remote s ops, fun e he => ?_, fun e he request answer hmem => ?_,
    fun t d q => Operation.run_create remote t d q⟩
  · have h := isExact_of_mem_history remote s ops e he
    exact ⟨h, h.length_le_one⟩
  · exact (isExact_of_mem_history remote s ops e he).permits hmem

end Session
end PlanQuota
