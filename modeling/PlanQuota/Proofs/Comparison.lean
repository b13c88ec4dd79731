import PlanQuota.Observation
import PlanQuota.Proofs.Nearest

/-!
Comparing what an entity holds with what is required. An amount that is held is a number of 53
binary digits, one that is required an integer of 64 bits, and the integer is rounded before the
two are compared. So an assignment is taken to be as required if its amount is the number nearest
to the required one: the required amount itself as long as that is a number, and past 2 ^ 53 often
a neighbour of it.
-/
namespace PlanQuota

namespace PlanState

variable {s : PlanState}

/-- The amount that the entity holds. -/
def amount? (s : PlanState) : Option Binary64 := s.assignment.bind (·.amount)

/-- An entity that holds an amount of a plan. -/
def holding (x : Binary64) : PlanState :=
  ⟨⟨"application", none, none, none, false, none⟩,
    some ⟨"sub-1", none, none, none, some x, none, none, none⟩⟩

/-- Whether the entity holds the plan switched on; nothing is said without an assignment. -/
def enabled? (s : PlanState) : Option Bool := s.assignment.map (·.enabled.getD true)

theorem mutation_eq_assign_iff {q : Quota} : s.mutation q = .assign ↔ s.assignment = none := by
  unfold mutation
  cases s.assignment with
  | none => simp
  | some a => cases h : s.isUpToDate q <;> simp

theorem mutation_eq_none_iff {q : Quota} : s.mutation q = .none ↔ s.isUpToDate q = true := by
  unfold mutation
  cases ha : s.assignment with
  | none => simp [isUpToDate, ha]
  | some a => cases h : s.isUpToDate q <;> simp

theorem isUpToDate_numeric_iff {n : Int64} : s.isUpToDate (.numeric n) = true ↔
    ∃ x, s.amount? = some x ∧ x.toInt = (Binary64.ofInt n.toInt).toInt := by
  unfold isUpToDate amount?
  cases s.assignment with
  | none => simp
  | some a => simp [Option.any_eq_true, Binary64.same]

theorem isUpToDate_enabled_iff {b : Bool} :
    s.isUpToDate (.enabled b) = true ↔ s.enabled? = some b := by
  unfold isUpToDate enabled?
  cases s.assignment with
  | none => simp
  | some a => simp

/-- An amount that is as required is the number nearest to it. -/
theorem mutation_numeric_eq_none_iff {n : Int64} : s.mutation (.numeric n) = .none ↔
    ∃ x, s.amount? = some x ∧ x.IsNearest n.toInt := by
  have hlow := n.le_toInt
  have hhigh := n.toInt_lt
  have hnearest : (Binary64.ofInt n.toInt).IsNearest n.toInt :=
    Binary64.isNearest_ofInt (by omega)
  rw [mutation_eq_none_iff, isUpToDate_numeric_iff]
  constructor
  · rintro ⟨x, hx, heq⟩
    exact ⟨x, hx, hnearest.of_toInt_eq heq.symm⟩
  · rintro ⟨x, hx, h⟩
    exact ⟨x, hx, h.unique hnearest⟩

/-- The entity holds exactly the required amount. -/
def HoldsExactly (s : PlanState) (n : Int64) : Prop :=
  ∃ x, s.amount? = some x ∧ x.toInt = n.toInt * Binary64.unitsOfOne

theorem mutation_numeric_of_isNumber {n : Int64} (h : Binary64.IsNumber n.toInt) :
    s.mutation (.numeric n) = .none ↔ s.HoldsExactly n := by
  rw [mutation_numeric_eq_none_iff]
  exact exists_congr fun x => and_congr_right fun _ => h.isNearest_iff

/-- The change that leads to the required quota: to the amount exactly, or to a plan switched on or
off, where a record without the flag is switched on. -/
def needed (s : PlanState) (q : Quota) : Mutation :=
  match s.assignment with
  | none => .assign
  | some a =>
    match q with
    | .numeric n =>
      if a.amount.any (·.toInt = n.toInt * Binary64.unitsOfOne) then .none else .update
    | .enabled b => if a.enabled.getD true = b then .none else .update

theorem needed_eq_assign_iff {q : Quota} : s.needed q = .assign ↔ s.assignment = none := by
  unfold needed
  cases s.assignment with
  | none => simp
  | some a =>
    cases q with
    | numeric n =>
      simp only [reduceCtorEq, iff_false]
      split <;> simp
    | enabled b =>
      simp only [reduceCtorEq, iff_false]
      split <;> simp

theorem needed_numeric_eq_none_iff {n : Int64} :
    s.needed (.numeric n) = .none ↔ s.HoldsExactly n := by
  unfold needed HoldsExactly amount?
  generalize Binary64.unitsOfOne = one
  cases s.assignment with
  | none => simp
  | some a => simp [Option.any_eq_true]

theorem needed_enabled_eq_none_iff {b : Bool} :
    s.needed (.enabled b) = .none ↔ s.enabled? = some b := by
  unfold needed enabled?
  cases s.assignment with
  | none => simp
  | some a => simp

/-- A missing assignment is reported as what is needed. So it only matters whether anything else is
reported where it is needed. -/
theorem mutation_eq_needed {q : Quota} :
    s.mutation q = s.needed q ↔ (s.mutation q = .none ↔ s.needed q = .none) := by
  have hassign : s.mutation q = .assign ↔ s.needed q = .assign :=
    mutation_eq_assign_iff.trans needed_eq_assign_iff.symm
  cases hm : s.mutation q <;> cases hn : s.needed q <;> simp_all

theorem mutation_enabled {b : Bool} : s.mutation (.enabled b) = s.needed (.enabled b) := by
  rw [mutation_eq_needed, mutation_eq_none_iff, isUpToDate_enabled_iff, needed_enabled_eq_none_iff]

/-- The required amount itself is never changed. So the change is the needed one unless an amount
is taken for it that is not the same. -/
theorem mutation_numeric_eq_needed_iff {n : Int64} :
    s.mutation (.numeric n) = s.needed (.numeric n) ↔
      (s.mutation (.numeric n) = .none → s.HoldsExactly n) := by
  rw [mutation_eq_needed, needed_numeric_eq_none_iff]
  refine ⟨Iff.mp, fun h => ⟨h, fun hexact => ?_⟩⟩
  obtain ⟨x, -, hx⟩ := id hexact
  exact (mutation_numeric_of_isNumber ⟨x, hx⟩).mpr hexact

/-- The required amounts whose changes are the needed ones are those that are numbers. Of any other
one the amount it is rounded to is taken for it. -/
theorem isNumber_iff_mutation_needed {n : Int64} : Binary64.IsNumber n.toInt ↔
    ∀ s : PlanState, s.mutation (.numeric n) = s.needed (.numeric n) := by
  refine ⟨fun h s => ?_, fun h => ?_⟩
  · exact mutation_numeric_eq_needed_iff.mpr (mutation_numeric_of_isNumber h).mp
  · have hnone : (holding (Binary64.ofInt n.toInt)).mutation (.numeric n) = .none := by
      rw [mutation_eq_none_iff, isUpToDate_numeric_iff]
      exact ⟨_, rfl, rfl⟩
    obtain ⟨x, -, hx⟩ := mutation_numeric_eq_needed_iff.mp (h _) hnone
    exact ⟨x, hx⟩

/-- The change that is reported is the needed one, unless the amount that is held is the number
nearest to the required one and is not the same: then a change is needed and none is reported. That
is ruled out if the required amount is a number, which all are up to 2 ^ 53, and no amount that is
held will do for two of those. -/
theorem mutation_eq_needed_iff (s : PlanState) (q : Quota) :
    (s.mutation q = s.needed q ↔ ∀ n x, q = .numeric n → s.amount? = some x →
      x.IsNearest n.toInt → x.toInt = n.toInt * Binary64.unitsOfOne) ∧
    (s.mutation q ≠ s.needed q → s.mutation q = .none ∧ s.needed q = .update) ∧
    (∀ n : Int64, Binary64.IsNumber n.toInt ↔
      ∀ t : PlanState, t.mutation (.numeric n) = t.needed (.numeric n)) ∧
    (∀ n : Int64, n.toInt.natAbs ≤ 2 ^ 53 → Binary64.IsNumber n.toInt) ∧
    ∀ m n : Int64, Binary64.IsNumber m.toInt → Binary64.IsNumber n.toInt →
      s.mutation (.numeric m) = .none → s.mutation (.numeric n) = .none → m = n := by
  refine ⟨?_, fun hne => ?_, fun n => isNumber_iff_mutation_needed,
    fun n h => Binary64.isNumber_of_le h, fun m n hm hn hmutation hmutation' => ?_⟩
  · cases q with
    | enabled b => exact iff_of_true mutation_enabled fun n x hn => by cases hn
    | numeric n =>
      rw [mutation_numeric_eq_needed_iff, mutation_numeric_eq_none_iff]
      constructor
      · rintro h n' x hn hx hnear
        obtain rfl := Quota.numeric.inj hn
        obtain ⟨y, hy, hvalue⟩ := h ⟨x, hx, hnear⟩
        rwa [← Option.some.inj (hy.symm.trans hx)]
      · rintro h ⟨x, hx, hnear⟩
        exact ⟨x, hx, h n x rfl hx hnear⟩
  · cases q with
    | enabled b => exact absurd mutation_enabled hne
    | numeric n =>
      rw [ne_eq, mutation_numeric_eq_needed_iff, Classical.not_imp] at hne
      obtain ⟨hnone, hexact⟩ := hne
      refine ⟨hnone, ?_⟩
      cases hn : s.needed (.numeric n) with
      | update => rfl
      | none => exact absurd (needed_numeric_eq_none_iff.mp hn) hexact
      | assign =>
        rw [needed_eq_assign_iff, ← mutation_eq_assign_iff (q := .numeric n), hnone] at hn
        cases hn
  · obtain ⟨x, hx, hvalue⟩ := (mutation_numeric_of_isNumber hm).mp hmutation
    obtain ⟨y, hy, hvalue'⟩ := (mutation_numeric_of_isNumber hn).mp hmutation'
    obtain rfl : x = y := Option.some.inj (hx.symm.trans hy)
    exact Int64.toInt_inj.mp (Binary64.eq_of_mul_unitsOfOne (hvalue.symm.trans hvalue'))

/-- The amount 2 ^ 53 is held and one more is required. That is not a number, 2 ^ 53 is the nearest
one, and no change is reported. -/
theorem neighbour_taken_for_required_amount :
    let s := holding (Binary64.ofInt 9007199254740992)
    s.mutation (.numeric 9007199254740992) = .none ∧
    s.mutation (.numeric 9007199254740993) = .none ∧
    s.needed (.numeric 9007199254740992) = .none ∧
    s.needed (.numeric 9007199254740993) = .update ∧
    ¬Binary64.IsNumber 9007199254740993 := by
  intro s
  obtain ⟨-, -, hnumbers, hsmall, hone⟩ :=
    mutation_eq_needed_iff s (.numeric 9007199254740993)
  have hheld : s.mutation (.numeric 9007199254740992) = .none := by decide +kernel
  have hmore : s.mutation (.numeric 9007199254740993) = .none := by decide +kernel
  have hnumber : Binary64.IsNumber (9007199254740992 : Int64).toInt := hsmall _ (by decide)
  have hnot : ¬Binary64.IsNumber (9007199254740993 : Int64).toInt := by
    intro h
    have hsame := hone 9007199254740992 9007199254740993 hnumber h hheld hmore
    exact absurd hsame (by decide)
  have hexact : s.needed (.numeric 9007199254740992) = .none :=
    ((hnumbers _).mp hnumber s).symm.trans hheld
  have hneeded : s.needed (.numeric 9007199254740993) = .update := by decide +kernel
  exact ⟨hheld, hmore, hexact, hneeded, hnot⟩

end PlanState
end PlanQuota
