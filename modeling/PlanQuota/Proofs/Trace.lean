import Mathlib.Logic.Function.Basic

/-!
Runs of a system that takes one step after another. A step leads to a state and emits a list of
events; the events of a run stand in the order of its steps. A step may change a table in one place.
-/
namespace PlanQuota.Trace

variable {σ α ε : Type}

/-- The state after a list of steps, and what they emitted. -/
def run (step : σ → α → σ × List ε) (s : σ) : List α → σ × List ε
  | [] => (s, [])
  | a :: rest =>
    let later := run step (step s a).1 rest
    (later.1, (step s a).2 ++ later.2)

variable (step : σ → α → σ × List ε)

@[simp] theorem run_nil (s : σ) : run step s [] = (s, []) := rfl

@[simp] theorem run_cons (s : σ) (a : α) (rest : List α) :
    run step s (a :: rest) =
      ((run step (step s a).1 rest).1, (step s a).2 ++ (run step (step s a).1 rest).2) := rfl

theorem run_append (s : σ) (first second : List α) :
    run step s (first ++ second) =
      ((run step (run step s first).1 second).1,
        (run step s first).2 ++ (run step (run step s first).1 second).2) := by
  induction first generalizing s with
  | nil => simp
  | cons a rest ih => simp [ih]

variable {step}

/-- What one step keeps, a run keeps. -/
theorem run_keeps {P : σ → Prop} (hstep : ∀ s a, P s → P (step s a).1) (s : σ) (h : P s)
    (steps : List α) : P (run step s steps).1 := by
  induction steps generalizing s with
  | nil => exact h
  | cons a rest ih => exact ih (step s a).1 (hstep s a h)

/-- A step that establishes something which later steps keep does so wherever it stands in a run. -/
theorem run_reaches {P Q : σ → Prop} (hstep : ∀ s a, P s → P (step s a).1)
    (hkeep : ∀ s a, P s → Q s → Q (step s a).1) {a : α} (hreach : ∀ s, P s → Q (step s a).1)
    (s : σ) (h : P s) {steps : List α} (ha : a ∈ steps) : Q (run step s steps).1 := by
  induction steps generalizing s with
  | nil => cases ha
  | cons b rest ih =>
    cases List.mem_cons.mp ha with
    | inr hrest => exact ih (step s b).1 (hstep s b h) hrest
    | inl hb =>
      subst hb
      have hkept : P (step s a).1 ∧ Q (step s a).1 := ⟨hstep s a h, hreach s h⟩
      exact (run_keeps (P := fun t => P t ∧ Q t)
        (fun t b ht => ⟨hstep t b ht.1, hkeep t b ht.1 ht.2⟩) _ hkept rest).2

/-- What holds of the events of every step from a state that keeps an invariant holds of the
events of a run. -/
theorem run_emits {P : σ → Prop} {Q : ε → Prop} (hstep : ∀ s a, P s → P (step s a).1)
    (hemit : ∀ s a, P s → ∀ e ∈ (step s a).2, Q e) (s : σ) (h : P s) (steps : List α) :
    ∀ e ∈ (run step s steps).2, Q e := by
  induction steps generalizing s with
  | nil => simp
  | cons a rest ih =>
    intro e he
    rw [run_cons] at he
    cases List.mem_append.mp he with
    | inl hnow => exact hemit s a h e hnow
    | inr hlater => exact ih (step s a).1 (hstep s a h) e hlater

/-- A book to which each step adds the entries of its events has those of a run after it. -/
theorem run_adds {β : Type} {book : σ → List β} {entries : ε → List β}
    (hstep : ∀ s a, book (step s a).1 = book s ++ (step s a).2.flatMap entries) (s : σ)
    (steps : List α) :
    book (run step s steps).1 = book s ++ (run step s steps).2.flatMap entries := by
  induction steps generalizing s with
  | nil => simp
  | cons a rest ih =>
    rw [run_cons, ih (step s a).1, hstep s a, List.flatMap_append, List.append_assoc]

/-- If each step emits one event, which bears the label of the step, the events of a run bear the
labels of its steps. -/
theorem run_labels {β : Type} (name : ε → β) (label : α → β)
    (hstep : ∀ s a, (step s a).2.map name = [label a]) (s : σ) (steps : List α) :
    (run step s steps).2.map name = steps.map label := by
  induction steps generalizing s with
  | nil => rfl
  | cons a rest ih =>
    rw [run_cons, List.map_append, hstep s a, ih (step s a).1, List.map_cons,
      List.singleton_append]

/-- What stands in a table after a step changed it in one place. -/
theorem update_eq_some_iff {ι β : Type} [DecidableEq ι] {table : ι → Option β} {i j : ι}
    {new : Option β} {b : β} : Function.update table i new j = some b ↔
      (j = i ∧ new = some b) ∨ (j ≠ i ∧ table j = some b) := by
  by_cases hj : j = i
  · subst hj
    simp
  · simp [hj]

end PlanQuota.Trace
