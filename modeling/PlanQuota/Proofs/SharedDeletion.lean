import Mathlib.Data.Finset.Card
import PlanQuota.Proofs.Operations
import PlanQuota.Proofs.Trace

/-!
Several owners of one entitlement that is only switched on. In any order each of them observes it,
over catalogs and failures that come as they like, and deletes it by the latest observation it has,
however old. An owner that has deleted it is gone, one whose delete failed may try again. No run of
this kind switches the entitlement off while another owner is left.
-/
namespace PlanQuota.SharedDeletion

variable {ι σ : Type}

/-- What an owner does next. The identifier and the amount that it desires may vary. -/
inductive Move (ι : Type)
  | observe (owner : ι) (identifier : Option String) (amount : Option Int64)
  | delete (owner : ι) (identifier : Option String) (amount : Option Int64)
  deriving DecidableEq, Repr

structure Owners (ι σ : Type) where
  /-- The owners that have not deleted the entitlement yet. -/
  present : Finset ι
  /-- The quota that each owner holds as established. -/
  held : ι → Quota
  /-- The latest success of each owner in observing. -/
  seen : ι → Option Observation
  remote : σ

/-- Owners that have seen nothing yet, each with a flag for its quota. -/
def start (owners : Finset ι) (flag : ι → Bool) (s : σ) : Owners ι σ :=
  ⟨owners, fun i => .enabled (flag i), fun _ => none, s⟩

/-- What happened in a move. `owners` counts those present before it. -/
inductive Event (σ : Type)
  | observed (owners : Nat) (outcome : Outcome σ Observation)
  | deleted (owners : Nat) (desired : Desired) (seen : Observation) (before : σ)
      (outcome : Outcome σ Deletion)

namespace Event

def owners : Event σ → Nat
  | observed n _ => n
  | deleted n _ _ _ _ => n

def calls : Event σ → List Call
  | observed _ outcome => outcome.calls
  | deleted _ _ _ _ outcome => outcome.calls

end Event

variable [DecidableEq ι] (remote : Remote σ) (target : Target)

def observe (w : Owners ι σ) (i : ι) (desired : Desired) : Owners ι σ × List (Event σ) :=
  let outcome := Engine.observe remote desired (some (w.held i)) w.remote
  (match outcome.result with
    | .ok o =>
      { w with
        held := Function.update w.held i o.required
        seen := Function.update w.seen i (some o)
        remote := outcome.state }
    | .error _ => { w with remote := outcome.state },
    [.observed w.present.card outcome])

/-- Nothing is deleted before it was seen. -/
def delete (w : Owners ι σ) (i : ι) (desired : Desired) : Owners ι σ × List (Event σ) :=
  match w.seen i with
  | none => (w, [])
  | some o =>
    let outcome := Engine.delete remote desired o w.present.card w.remote
    ({ w with
        present := if outcome.result.isOk then w.present.erase i else w.present
        remote := outcome.state },
      [.deleted w.present.card desired o w.remote outcome])

/-- Only owners that are present move. -/
def step (w : Owners ι σ) : Move ι → Owners ι σ × List (Event σ)
  | .observe i identifier amount =>
    if i ∈ w.present then observe remote w i (target.desired identifier amount) else (w, [])
  | .delete i identifier amount =>
    if i ∈ w.present then delete remote w i (target.desired identifier amount) else (w, [])

/-- Every owner takes the entitlement for one that is only switched on. -/
structure Boolean (w : Owners ι σ) : Prop where
  held : ∀ i, (w.held i).isNumeric = false
  seen : ∀ i o, w.seen i = some o → o.required.isNumeric = false

omit [DecidableEq ι] in
theorem boolean_start (owners : Finset ι) (flag : ι → Bool) (s : σ) :
    Boolean (start owners flag s) :=
  ⟨fun _ => rfl, fun _ _ h => by cases h⟩

theorem Boolean.observe {w : Owners ι σ} (h : Boolean w) (i : ι) (desired : Desired) :
    Boolean (observe remote w i desired).1 := by
  cases hr : (Engine.observe remote desired (some (w.held i)) w.remote).result with
  | error failure =>
    simp only [SharedDeletion.observe, hr]
    exact ⟨h.held, h.seen⟩
  | ok o =>
    have hq : o.required.isNumeric = false := by
      rw [Engine.required_of_observe remote desired w.remote hr, Quota.isNumeric_resolve]
      exact h.held i
    simp only [SharedDeletion.observe, hr]
    constructor
    · intro j
      by_cases hj : j = i
      · subst j
        simpa using hq
      · simpa [hj] using h.held j
    · intro j o' ho
      rcases Trace.update_eq_some_iff.mp ho with ⟨-, hnew⟩ | ⟨-, hold⟩
      · obtain rfl := Option.some.inj hnew
        exact hq
      · exact h.seen j o' hold

theorem Boolean.delete {w : Owners ι σ} (h : Boolean w) (i : ι) (desired : Desired) :
    Boolean (delete remote w i desired).1 := by
  unfold SharedDeletion.delete
  split
  · exact h
  · exact ⟨h.held, h.seen⟩

theorem Boolean.step {w : Owners ι σ} (h : Boolean w) (m : Move ι) :
    Boolean (step remote target w m).1 := by
  cases m with
  | observe i identifier amount =>
    simp only [SharedDeletion.step]
    split
    · exact h.observe remote i _
    · exact h
  | delete i identifier amount =>
    simp only [SharedDeletion.step]
    split
    · exact h.delete remote i _
    · exact h

/-- How a move went: an observation sets nothing, and a delete is one of the engine for an
entitlement to the target that is only switched on, with all owners counted. -/
def Event.Faithful : Event σ → Prop
  | .observed _ outcome => ∀ r, .set r ∉ outcome.calls
  | .deleted n desired o s outcome =>
    0 < n ∧ desired.target = target ∧ o.required.isNumeric = false ∧
      outcome = Engine.delete remote desired o n s

theorem faithful_step {w : Owners ι σ} (h : Boolean w) (m : Move ι) :
    ∀ e ∈ (step remote target w m).2, e.Faithful remote target := by
  intro e he
  cases m with
  | observe i identifier amount =>
    simp only [step] at he
    split at he
    · simp only [observe, List.mem_singleton] at he
      subst e
      intro r hr
      simp at hr
    · cases he
  | delete i identifier amount =>
    simp only [step] at he
    split at he
    case isTrue hi =>
      unfold delete at he
      split at he
      · cases he
      case h_2 o ho =>
        simp only [List.mem_singleton] at he
        subst e
        exact ⟨Finset.card_pos.mpr ⟨i, hi⟩, target.target_desired .., h.seen i o ho, rfl⟩
    case isFalse => cases he

theorem faithful_run (owners : Finset ι) (flag : ι → Bool) (s : σ) (moves : List (Move ι)) :
    ∀ e ∈ (Trace.run (step remote target) (start owners flag s) moves).2,
      e.Faithful remote target :=
  Trace.run_emits (P := Boolean) (fun _ m h => h.step remote target m)
    (fun _ m h => faithful_step remote target h m) _ (boolean_start owners flag s) moves

variable {remote target} {n : Nat} {desired : Desired} {o : Observation} {s : σ}
  {outcome : Outcome σ Deletion}

/-- What the last owner sends, and what comes of it. -/
theorem Event.Faithful.last (h : (Event.deleted n desired o s outcome).Faithful remote target)
    (ha : o.state.assignment.isSome = true) (hn : n ≤ 1) :
    outcome.calls = [.set (SetRequest.ofQuota desired (.enabled false))] ∧
      outcome.result =
        (Engine.update remote desired (.enabled false) s).result.map
          fun _ => .revoked (.enabled false) := by
  obtain ⟨-, -, hq, rfl⟩ := h
  obtain ⟨hr, hc⟩ := Engine.delete_of_removal remote desired s ha (.inr hn)
  rw [Quota.removal_of_boolean hq] at hr hc
  exact ⟨hc, hr⟩

/-- A request of a run switches the entitlement off, for the last owner. -/
theorem Event.Faithful.request {e : Event σ} (h : e.Faithful remote target) {r : SetRequest}
    (hr : .set r ∈ e.calls) :
    e.owners = 1 ∧
      ∃ d : Desired, d.target = target ∧ r = SetRequest.ofQuota d (.enabled false) := by
  cases e with
  | observed n outcome => exact absurd hr (h r)
  | deleted n d o s outcome =>
    obtain ⟨hpos, ht, hq, he⟩ := id h
    have hcalls : outcome.calls ≠ [] := List.ne_nil_of_mem hr
    have ha : o.state.assignment.isSome = true := by
      cases ha : o.state.assignment with
      | some a => rfl
      | none =>
        rw [he] at hcalls
        exact absurd (Engine.delete_of_absent remote d s ha).2 hcalls
    have hn : n ≤ 1 := by
      by_contra hlt
      rw [he] at hcalls
      exact hcalls (Engine.delete_of_shared remote d s ha hq (by omega)).2
    have hone : n = 1 := by omega
    refine ⟨hone, d, ht, ?_⟩
    have hset : Call.set r ∈ outcome.calls := hr
    rw [(h.last ha hn).1] at hset
    simpa using hset

end PlanQuota.SharedDeletion
