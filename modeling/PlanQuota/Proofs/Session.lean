import PlanQuota.Proofs.Operations
import PlanQuota.Proofs.Trace

/-!
Sessions: operations with any arguments, one after the other, on one remote side. Every operation
makes at most one call and looks at nothing but its answer. So two remote sides that cannot be told
apart by a call cannot be told apart by a session, and a remote side that writes its calls down
writes down those of the session.
-/
namespace PlanQuota

/-- What a successful operation yields. -/
inductive Yield
  | observed (o : Observation)
  | changed
  | deleted (d : Deletion)
  | fetched (c : Catalog)
  deriving DecidableEq, Repr

def Outcome.map {σ α β : Type} (f : α → β) (o : Outcome σ α) : Outcome σ β :=
  ⟨o.result.map f, o.calls, o.log, o.state⟩

/-- An operation with its arguments. -/
inductive Operation
  | observe (desired : Desired) (established : Option Quota)
  | create (desired : Desired) (required : Quota)
  | update (desired : Desired) (required : Quota)
  | delete (desired : Desired) (observed : Observation) (siblings : Nat)
  | fetch (entity service : String)
  | send (request : SetRequest)
  deriving DecidableEq, Repr

def Operation.run {σ : Type} (remote : Remote σ) (s : σ) : Operation → Outcome σ Yield
  | observe desired established => (Engine.observe remote desired established s).map .observed
  | create desired required => (Engine.create remote desired required s).map fun _ => .changed
  | update desired required => (Engine.update remote desired required s).map fun _ => .changed
  | delete desired observed siblings =>
    (Engine.delete remote desired observed siblings s).map .deleted
  | fetch entity service => (Engine.fetch remote entity service s).map .fetched
  | send request => (Engine.send remote request s).map fun _ => .changed

/-- What an operation does on every remote side: nothing, or one call, whose answer decides the
result. -/
inductive Shape
  | silent (result : Except Failure Yield)
  | reads (entity service : String) (conclude : Except Failure Catalog → Except Failure Yield)
  | sets (request : SetRequest) (conclude : Except Failure Unit → Except Failure Yield)

namespace Shape

variable {σ : Type} (remote : Remote σ) (s : σ)

/-- A set whose failure is explained by what was to be set. -/
def change (d : Desired) (q : Quota) (y : Yield) : Shape :=
  .sets (SetRequest.ofQuota d q) fun answer =>
    (answer.mapError (Engine.setFailure d)).map fun _ => y

def calls : Shape → List Call
  | silent _ => []
  | reads entity service _ => [.read entity service]
  | sets request _ => [.set request]

def result : Shape → Except Failure Yield
  | silent result => result
  | reads entity service conclude => conclude (remote.read entity service s).result
  | sets request conclude => conclude (remote.set request s).result

def state : Shape → σ
  | silent _ => s
  | reads entity service _ => (remote.read entity service s).state
  | sets request _ => (remote.set request s).state

end Shape

namespace Operation

def shape : Operation → Shape
  | observe d established => .reads d.entity d.service fun answer =>
    ((answer.mapError (Engine.readFailure d)).bind fun catalog =>
      Engine.inspect catalog d established).map .observed
  | create d q => .change d q .changed
  | update d q => .change d q .changed
  | delete d o siblings =>
    if o.state.assignment.isNone then .silent (.ok (.deleted .alreadyAbsent))
    else if !o.required.isNumeric && 1 < siblings then .silent (.ok (.deleted .shared))
    else .change d o.required.removal (.deleted (.revoked o.required.removal))
  | fetch entity service => .reads entity service fun answer => answer.map .fetched
  | send request => .sets request fun answer => answer.map fun _ => .changed

variable {σ : Type} (remote : Remote σ) (s : σ)

theorem run_delete (d : Desired) (o : Observation) (siblings : Nat) :
    let outcome := (delete d o siblings).run remote s
    let shape := (delete d o siblings).shape
    outcome.result = shape.result remote s ∧ outcome.calls = shape.calls ∧
      outcome.state = shape.state remote s := by
  unfold run shape Engine.delete
  by_cases ha : o.state.assignment.isNone = true
  · simp [ha, Outcome.map, Except.map, Shape.result, Shape.calls, Shape.state]
  · by_cases hs : (!o.required.isNumeric && decide (1 < siblings)) = true
    · simp [ha, hs, Outcome.map, Except.map, Shape.result, Shape.calls, Shape.state]
    · simp only [ha, hs, if_false, Bool.false_eq_true]
      refine ⟨?_, rfl, rfl⟩
      simp only [Outcome.map, Engine.update, Shape.change, Shape.result]
      cases (remote.set (SetRequest.ofQuota d o.required.removal) s).result <;> rfl

/-- An operation is no more than its shape. -/
theorem run_eq_shape (op : Operation) :
    (op.run remote s).result = op.shape.result remote s ∧
      (op.run remote s).calls = op.shape.calls ∧
      (op.run remote s).state = op.shape.state remote s := by
  cases op with
  | observe d established =>
    refine ⟨?_, Engine.observe_calls .., Engine.observe_state ..⟩
    exact congrArg (Except.map Yield.observed) (Engine.observe_result remote d s established)
  | create d q => exact ⟨rfl, rfl, rfl⟩
  | update d q => exact ⟨rfl, rfl, rfl⟩
  | delete d o siblings => exact run_delete remote s d o siblings
  | fetch entity service => exact ⟨rfl, rfl, rfl⟩
  | send request => exact ⟨rfl, rfl, rfl⟩

end Operation

namespace Session

variable {σ τ α : Type}

/-- What can be seen of one operation. -/
structure Report where
  result : Except Failure Yield
  calls : List Call

def step (remote : Remote σ) (s : σ) (op : Operation) : σ × List Report :=
  ((op.run remote s).state, [⟨(op.run remote s).result, (op.run remote s).calls⟩])

/-- The remote state after a session, and the reports of its operations. -/
def run (remote : Remote σ) (s : σ) (ops : List Operation) : σ × List Report :=
  Trace.run (step remote) s ops

def calls (reports : List Report) : List Call := reports.flatMap (·.calls)

/-- No call tells the two sides apart as long as their states are related, and every call leads to
related states. -/
structure Simulates (Rel : σ → τ → Prop) (a : Remote σ) (b : Remote τ) : Prop where
  read : ∀ s t, Rel s t → ∀ entity service,
    (a.read entity service s).result = (b.read entity service t).result ∧
      Rel (a.read entity service s).state (b.read entity service t).state
  set : ∀ s t, Rel s t → ∀ request,
    (a.set request s).result = (b.set request t).result ∧
      Rel (a.set request s).state (b.set request t).state

namespace Simulates

variable {Rel : σ → τ → Prop} {a : Remote σ} {b : Remote τ} {s : σ} {t : τ}

theorem step (h : Simulates Rel a b) (hst : Rel s t) (op : Operation) :
    (step a s op).2 = (step b t op).2 ∧ Rel (step a s op).1 (step b t op).1 := by
  obtain ⟨hra, hca, hsa⟩ := op.run_eq_shape a s
  obtain ⟨hrb, hcb, hsb⟩ := op.run_eq_shape b t
  simp only [Session.step, hra, hca, hsa, hrb, hcb, hsb]
  cases op.shape with
  | silent result => exact ⟨rfl, hst⟩
  | reads entity service conclude =>
    obtain ⟨hresult, hstate⟩ := h.read s t hst entity service
    exact ⟨by simp [Shape.result, hresult], hstate⟩
  | sets request conclude =>
    obtain ⟨hresult, hstate⟩ := h.set s t hst request
    exact ⟨by simp [Shape.result, hresult], hstate⟩

theorem run (h : Simulates Rel a b) (hst : Rel s t) (ops : List Operation) :
    (run a s ops).2 = (run b t ops).2 ∧ Rel (run a s ops).1 (run b t ops).1 := by
  induction ops generalizing s t with
  | nil => exact ⟨rfl, hst⟩
  | cons op rest ih =>
    obtain ⟨hnow, hnext⟩ := h.step hst op
    obtain ⟨hlater, hlast⟩ := ih hnext
    simp only [Session.run, Trace.run_cons] at hlater hlast ⊢
    rw [hnow, hlater]
    exact ⟨rfl, hlast⟩

end Simulates

/-- Each call adds its entries to the book that a remote state holds. -/
structure Records (remote : Remote σ) (book : σ → List α) (entries : Call → List α) : Prop where
  read : ∀ entity service s, book (remote.read entity service s).state =
    book s ++ entries (.read entity service)
  set : ∀ request s, book (remote.set request s).state = book s ++ entries (.set request)

namespace Records

variable {remote : Remote σ} {book : σ → List α} {entries : Call → List α}

theorem step (h : Records remote book entries) (s : σ) (op : Operation) :
    book (step remote s op).1 = book s ++ (calls (step remote s op).2).flatMap entries := by
  obtain ⟨-, hcalls, hstate⟩ := op.run_eq_shape remote s
  simp only [Session.step, calls, hcalls, hstate]
  cases op.shape with
  | silent result => simp [Shape.state, Shape.calls]
  | reads entity service conclude => simp [Shape.state, Shape.calls, h.read]
  | sets request conclude => simp [Shape.state, Shape.calls, h.set]

theorem run (h : Records remote book entries) (s : σ) (ops : List Operation) :
    book (run remote s ops).1 = book s ++ (calls (run remote s ops).2).flatMap entries := by
  have hstep (t : σ) (op : Operation) : book (Session.step remote t op).1 =
      book t ++ (Session.step remote t op).2.flatMap (·.calls.flatMap entries) := by
    rw [h.step t op, calls, List.flatMap_assoc]
  rw [calls, List.flatMap_assoc]
  exact Trace.run_adds hstep s ops

end Records
end Session
end PlanQuota
