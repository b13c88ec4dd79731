import PlanQuota.Http.Client
import PlanQuota.Proofs.Endpoint
import PlanQuota.Proofs.Footprint

/-!
Whether a failure is terminal, before and after it is explained. An operation of the engine shows
the failure of its call as a reason of the service or as a failure of its own, and neither is
terminal. So explaining keeps the kind of exactly the failures that were not terminal before, and
one that no repetition can cure, such as a base without a URL below it, looks like any other.
-/
namespace PlanQuota

namespace Failure

/-- What a failed operation is wrapped in decides, however deep its cause is. -/
theorem isTerminal_explain {wrap : Failure → Failure} (h : ∀ f, (wrap f).isTerminal = false)
    (failure : Failure) : (explain wrap failure).isTerminal = false := by
  unfold explain
  split
  · rfl
  · exact h failure

end Failure

namespace Engine

theorem isTerminal_readFailure (d : Desired) (failure : Failure) :
    (readFailure d failure).isTerminal = false :=
  Failure.isTerminal_explain (fun _ => rfl) failure

theorem isTerminal_setFailure (d : Desired) (failure : Failure) :
    (setFailure d failure).isTerminal = false :=
  Failure.isTerminal_explain (fun _ => rfl) failure

end Engine

namespace Exchange

/-- The failure that was the answer, if it was one. -/
def failure? : Exchange → Option Failure
  | read _ _ (.error failure) => some failure
  | set _ (.error failure) => some failure
  | _ => none

theorem read_failure? {entity service : String} {answer : Except Failure Catalog}
    {failure : Failure} (h : (read entity service answer).failure? = some failure) :
    answer = .error failure := by
  cases answer with
  | error f => exact congrArg Except.error (Option.some.inj h)
  | ok catalog => cases h

theorem set_failure? {request : SetRequest} {answer : Except Failure Unit} {failure : Failure}
    (h : (set request answer).failure? = some failure) : answer = .error failure := by
  cases answer with
  | error f => exact congrArg Except.error (Option.some.inj h)
  | ok u => cases h

end Exchange

namespace Operation

/-- How an operation of the engine shows the failure of its call; a call by itself does not change
it. -/
def explainer? : Operation → Option (Failure → Failure)
  | .observe d _ => some (Engine.readFailure d)
  | .create d _ | .update d _ | .delete d _ _ => some (Engine.setFailure d)
  | .fetch .. | .send .. => none

theorem isTerminal_of_explainer? {op : Operation} {explain : Failure → Failure}
    (h : op.explainer? = some explain) (failure : Failure) :
    (explain failure).isTerminal = false := by
  cases op with
  | observe d established => cases h; exact Engine.isTerminal_readFailure d failure
  | create d q => cases h; exact Engine.isTerminal_setFailure d failure
  | update d q => cases h; exact Engine.isTerminal_setFailure d failure
  | delete d o siblings => cases h; exact Engine.isTerminal_setFailure d failure
  | fetch entity service => cases h
  | send request => cases h

variable {σ : Type} (remote : Remote σ) (s : σ)

theorem result_of_failed_change {op : Operation} {d : Desired} {q : Quota} {y : Yield}
    (hop : op.shape = .change d q y) {x : Exchange} (hx : x ∈ op.shape.exchanges remote s)
    {failure : Failure} (hf : x.failure? = some failure) :
    op.shape.result remote s = .error (Engine.setFailure d failure) := by
  simp only [hop, Shape.change, Shape.exchanges, List.mem_singleton] at hx
  subst hx
  simp [hop, Shape.change, Shape.result, Exchange.set_failure? hf, Except.map]

/-- An operation whose call fails fails with that failure, explained. -/
theorem result_of_failed {op : Operation} {explain : Failure → Failure}
    (hop : op.explainer? = some explain) {x : Exchange} (hx : x ∈ op.shape.exchanges remote s)
    {failure : Failure} (hf : x.failure? = some failure) :
    op.shape.result remote s = .error (explain failure) := by
  cases op with
  | observe d established =>
    cases hop
    obtain rfl := List.mem_singleton.mp hx
    simp only [shape, Shape.result, Exchange.read_failure? hf]
    rfl
  | create d q => cases hop; exact result_of_failed_change remote s rfl hx hf
  | update d q => cases hop; exact result_of_failed_change remote s rfl hx hf
  | delete d o siblings =>
    cases hop
    by_cases ha : o.state.assignment = none
    · rw [shape_delete_of_absent ha] at hx
      cases hx
    · by_cases hq : o.required.isNumeric = true ∨ siblings ≤ 1
      · exact result_of_failed_change remote s (shape_delete_of_removal ha hq) hx hf
      · rw [shape_delete_of_shared ha hq] at hx
        cases hx
  | fetch entity service => cases hop
  | send request => cases hop

end Operation

namespace Session

variable {σ : Type} (remote : Remote σ) (s : σ)

/-- Whatever failure the remote side answers with, in whatever session: the operation fails with
its explanation, that is never terminal, and so it is as terminal as the answer if and only if the
answer was not. -/
theorem explained_failure_not_terminal (ops : List Operation) :
    ∀ e ∈ history remote s ops, ∀ explain, e.operation.explainer? = some explain →
      ∀ x ∈ e.exchanges, ∀ failure, x.failure? = some failure →
        e.result = .error (explain failure) ∧ (explain failure).isTerminal = false ∧
          ((explain failure).isTerminal = failure.isTerminal ↔ failure.isTerminal = false) := by
  refine history_forall remote s (fun t op explain hop x hx failure hf => ?_) ops
  have hterminal := Operation.isTerminal_of_explainer? hop failure
  refine ⟨Operation.result_of_failed remote t hop hx hf, hterminal, ?_⟩
  rw [hterminal, eq_comm]

end Session

namespace Http.Client

/-- The client of a base below which there is no URL. -/
def atMailbox : Client :=
  ⟨.new ⟨"mailto", "", "", none, none, .rootless "x", none, none⟩ "secret", by decide +kernel,
    .plain⟩

/-- A base below which there is no URL is a terminal failure of the client, and no longer one when
an observation shows it. -/
theorem rootless_base_not_terminal :
    let c := atMailbox
    let d := Desired.new "xsuaa" "application" "sub-1"
    let failure := Failure.settings (.endpoint Client.assignmentsPath .relativeWithRootlessBase)
    let link := Link.new .refusing
    let x := Exchange.read "sub-1" "xsuaa" (c.remote.read "sub-1" "xsuaa" link).result
    let e : Session.Episode :=
      ⟨.observe d none, (Operation.observe d none).shape.result c.remote link, [x]⟩
    Url.parse (fun _ => none) "mailto:x" = .ok c.settings.base ∧ failure.isTerminal = true ∧
    e ∈ Session.history c.remote link [.observe d none] ∧
    e.operation.explainer? = some (Engine.readFailure d) ∧
    x ∈ e.exchanges ∧ x.failure? = some failure ∧
    e.result = .error (Engine.readFailure d failure) ∧
    (Engine.readFailure d failure).isTerminal = false ∧
    ((Engine.readFailure d failure).isTerminal = failure.isTerminal ↔
      failure.isTerminal = false) := by
  intro c d failure link x e
  have hbase : Url.parse (fun _ => none) "mailto:x" = .ok c.settings.base :=
    eq_ok_of_toOption (by decide +kernel)
  have he : e ∈ Session.history c.remote link [.observe d none] := by
    rw [Session.history, Trace.run_cons, Session.episodeOf_eq]
    exact List.mem_singleton.mpr rfl
  have hx : x ∈ e.exchanges := List.mem_singleton.mpr rfl
  have hf : x.failure? = some failure := by decide +kernel
  exact ⟨hbase, rfl, he, rfl, hx, hf, Session.explained_failure_not_terminal c.remote
    link [.observe d none] e he _ rfl x hx failure hf⟩

end Http.Client
end PlanQuota
