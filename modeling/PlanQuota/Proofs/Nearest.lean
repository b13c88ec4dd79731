import PlanQuota.Proofs.Rounding

/-!
The number nearest to an integer: no finite number is nearer, and of two equally near ones it is
the one of even rank. There is only one such value, an integer of 64 bits is converted to it, and
where the integer is itself a number, as all up to 2 ^ 53 are, it is that number.
-/
namespace PlanQuota.Binary64

/-- Neither is across zero from the other. -/
def SameSide (u t : Int) : Prop := 0 ≤ u ∧ 0 ≤ t ∨ u ≤ 0 ∧ t ≤ 0

section SameSide

variable {u v t : Int}

theorem SameSide.eq (hside : SameSide u t) (h : u.natAbs = t.natAbs) : u = t := by
  unfold SameSide at hside
  omega

variable (hside : SameSide u t) (hzero : Nat.dist u.natAbs t.natAbs ≤ t.natAbs)
  (hnear : Nat.dist u.natAbs t.natAbs ≤ Nat.dist v.natAbs t.natAbs)
include hside hzero hnear

/-- What is nearer in magnitude, and nearer than zero, is nearer. -/
theorem SameSide.natAbs_sub_le : (u - t).natAbs ≤ (v - t).natAbs := by
  unfold SameSide Nat.dist at *
  omega

/-- What is as near has another magnitude that is as near, or it is across zero and zero is as
near. -/
theorem SameSide.dist_eq (hne : v ≠ u) (heq : (v - t).natAbs = (u - t).natAbs) :
    v.natAbs ≠ u.natAbs ∧ Nat.dist v.natAbs t.natAbs = Nat.dist u.natAbs t.natAbs ∨
      Nat.dist 0 t.natAbs = Nat.dist u.natAbs t.natAbs := by
  unfold SameSide Nat.dist at *
  omega

end SameSide

/-- How far a number is from an integer, in units. -/
def distance (x : Binary64) (n : Int) : Nat := (x.toInt - n * unitsOfOne).natAbs

/-- No finite number is nearer to the integer, and of two equally near ones it is the one of even
rank. -/
structure IsNearest (x : Binary64) (n : Int) : Prop where
  nearest : ∀ y : Binary64, x.distance n ≤ y.distance n
  even : ∀ y : Binary64, y.toInt ≠ x.toInt → y.distance n = x.distance n → x.rank % 2 = 0

variable {x y : Binary64} {n : Int}

theorem natAbs_toInt (x : Binary64) : x.toInt.natAbs = unitsOfRank x.rank := by
  unfold toInt units
  split <;> omega

theorem rank_eq_of_toInt_eq (h : x.toInt = y.toInt) : x.rank = y.rank := by
  refine unitsOfRank_strictMono.injective ?_
  rw [← natAbs_toInt, ← natAbs_toInt, h]

theorem exists_toInt_eq {rank : Nat} (h : rank < rankLimit) :
    (∃ z : Binary64, z.toInt = unitsOfRank rank) ∧
      ∃ z : Binary64, z.toInt = -(unitsOfRank rank : Int) :=
  ⟨⟨⟨false, rank, h⟩, by simp [toInt, units]⟩, ⟨⟨true, rank, h⟩, by simp [toInt, units]⟩⟩

@[simp] theorem unitsOfRank_zero : unitsOfRank 0 = 0 := by
  simpa using unitsOfRank_of_significand (k := 0) (q := 0) (.inl rfl) (by omega)

/-- Between two different numbers of even rank there is another number. -/
theorem exists_between (h : x.toInt < y.toInt) (hx : x.rank % 2 = 0) (hy : y.rank % 2 = 0) :
    ∃ z : Binary64, x.toInt < z.toInt ∧ z.toInt < y.toInt := by
  have hunitsx := natAbs_toInt x
  have hunitsy := natAbs_toInt y
  by_cases hpos : 0 ≤ x.toInt
  · have hlt : x.rank < y.rank := unitsOfRank_strictMono.lt_iff_lt.mp (by omega)
    have habove := unitsOfRank_strictMono (show x.rank < x.rank + 1 by omega)
    have hbelow := unitsOfRank_strictMono (show x.rank + 1 < y.rank by omega)
    have hnext : x.rank + 1 < rankLimit := Nat.lt_of_le_of_lt hlt y.finite
    obtain ⟨⟨z, hz⟩, -⟩ := exists_toInt_eq hnext
    exact ⟨z, by omega, by omega⟩
  · by_cases hneg : y.toInt ≤ 0
    · have hlt : y.rank < x.rank := unitsOfRank_strictMono.lt_iff_lt.mp (by omega)
      have habove := unitsOfRank_strictMono (show y.rank < y.rank + 1 by omega)
      have hbelow := unitsOfRank_strictMono (show y.rank + 1 < x.rank by omega)
      have hnext : y.rank + 1 < rankLimit := Nat.lt_of_le_of_lt hlt x.finite
      obtain ⟨-, z, hz⟩ := exists_toInt_eq hnext
      exact ⟨z, by omega, by omega⟩
    · obtain ⟨⟨z, hz⟩, -⟩ := exists_toInt_eq (Nat.lt_of_le_of_lt (Nat.zero_le _) x.finite)
      rw [unitsOfRank_zero] at hz
      exact ⟨z, by omega, by omega⟩

theorem IsNearest.not_lt (hx : x.IsNearest n) (hy : y.IsNearest n) : ¬x.toInt < y.toInt := by
  intro h
  have hdist : y.distance n = x.distance n := Nat.le_antisymm (hy.nearest x) (hx.nearest y)
  have hevenx := hx.even y (by omega) hdist
  have heveny := hy.even x (by omega) hdist.symm
  obtain ⟨z, habove, hbelow⟩ := exists_between h hevenx heveny
  have hz := hx.nearest z
  unfold distance at hdist hz
  omega

/-- Only one value is nearest. -/
theorem IsNearest.unique (hx : x.IsNearest n) (hy : y.IsNearest n) : x.toInt = y.toInt :=
  Int.le_antisymm (Int.not_lt.mp (hy.not_lt hx)) (Int.not_lt.mp (hx.not_lt hy))

/-- Being nearest is a matter of the value. -/
theorem IsNearest.of_toInt_eq (hx : x.IsNearest n) (h : x.toInt = y.toInt) : y.IsNearest n := by
  have hdist : y.distance n = x.distance n := by simp only [distance, h]
  refine ⟨fun z => hdist ▸ hx.nearest z, fun z hne heq => ?_⟩
  rw [← rank_eq_of_toInt_eq h]
  exact hx.even z (h ▸ hne) (heq.trans hdist)

/-- Some number has exactly the value of the integer. -/
def IsNumber (n : Int) : Prop := ∃ x : Binary64, x.toInt = n * unitsOfOne

/-- An integer that is a number is nearest to itself. -/
theorem IsNumber.isNearest_iff (h : IsNumber n) :
    x.IsNearest n ↔ x.toInt = n * unitsOfOne := by
  obtain ⟨y, hy⟩ := h
  have hzero : y.distance n = 0 := by simp only [distance, hy]; omega
  constructor
  · intro h
    have hx := h.nearest y
    rw [hzero] at hx
    unfold distance at hx
    omega
  · intro h
    have hx : x.distance n = 0 := by simp only [distance, h]; omega
    refine ⟨fun z => by omega, fun z hne heq => absurd ?_ hne⟩
    unfold distance at heq hx
    omega

/-- An integer with at most `e` binary digits, if these are more than 53, is shifted by the digits
past them. -/
theorem shiftFor_mul_unitsOfOne {m e : Nat} (h : m < 2 ^ e) (he : 53 ≤ e) :
    shiftFor (m * unitsOfOne) 1 + 53 ≤ e + places := by
  unfold shiftFor
  rw [Nat.div_one]
  by_cases hzero : m * unitsOfOne = 0
  · rw [hzero, Nat.log2_zero]
    omega
  · have hlt : (m * unitsOfOne).log2 < e + places := by
      rw [Nat.log2_lt hzero, unitsOfOne_eq, Nat.pow_add]
      exact Nat.mul_lt_mul_of_pos_right h (Nat.two_pow_pos _)
    omega

/-- Integers of 64 bits are far below the largest number. -/
theorem rankNear_lt_rankLimit {m : Nat} (h : m ≤ 2 ^ 63) : rankNear m 1 < rankLimit := by
  obtain ⟨hrank, hhigh, -⟩ := unitsOfRank_rankNear m Nat.one_pos
  have hshift := shiftFor_mul_unitsOfOne (m := m) (e := 64) (by omega) (by decide)
  have hplaces : places = 1074 := by unfold places; rfl
  rw [hrank]
  simp only [rankLimit, binade]
  omega

theorem rank_ofInt {n : Int} (h : n.natAbs ≤ 2 ^ 63) : (ofInt n).rank = rankNear n.natAbs 1 := by
  have hlt := rankNear_lt_rankLimit h
  simp only [ofInt]
  omega

theorem natAbs_mul_unitsOfOne (n : Int) :
    (n * unitsOfOne).natAbs = n.natAbs * unitsOfOne := by
  rw [Int.natAbs_mul, Int.natAbs_natCast]

theorem eq_of_mul_unitsOfOne {m n : Int} (h : m * unitsOfOne = n * unitsOfOne) : m = n := by
  have hpos : 0 < unitsOfOne := unitsOfOne_eq ▸ Nat.two_pow_pos _
  exact Int.eq_of_mul_eq_mul_right (by omega) h

/-- The number for an integer is not on the other side of zero. -/
theorem sameSide_ofInt (n : Int) : SameSide (ofInt n).toInt (n * unitsOfOne) := by
  by_cases h : n < 0
  · right
    refine ⟨by simp [toInt, ofInt, h], ?_⟩
    exact Int.mul_nonpos_of_nonpos_of_nonneg (by omega) (by omega)
  · left
    refine ⟨by simp [toInt, ofInt, h], ?_⟩
    exact Int.mul_nonneg (by omega) (by omega)

/-- An integer is converted to the number nearest to it. -/
theorem isNearest_ofInt {n : Int} (h : n.natAbs ≤ 2 ^ 63) : (ofInt n).IsNearest n := by
  have hside := sameSide_ofInt n
  have hother (rank : Nat) := rankNear_nearest n.natAbs Nat.one_pos rank
  simp only [← rank_ofInt h, Nat.mul_one, ← natAbs_toInt, ← natAbs_mul_unitsOfOne] at hother
  have hzero := hother 0
  rw [unitsOfRank_zero] at hzero
  have hnear (y : Binary64) := (hother y.rank).1
  simp only [← natAbs_toInt] at hnear
  have hnearer := hzero.1
  rw [Nat.dist_zero_left] at hnearer
  refine ⟨fun y => hside.natAbs_sub_le hnearer (hnear y), fun y hne heq => ?_⟩
  rcases hside.dist_eq hnearer (hnear y) hne heq with ⟨hother', htie⟩ | htie
  · refine (hother y.rank).2 (fun hrank => hother' ?_) (natAbs_toInt y ▸ htie)
    rw [natAbs_toInt, natAbs_toInt, hrank]
  · by_cases hrank : (ofInt n).rank = 0
    · rw [hrank]
    · exact hzero.2 (Ne.symm hrank) htie

/-- The units of a small integer have no digits past the shift. -/
theorem dvd_mul_unitsOfOne {m : Nat} (h : m ≤ 2 ^ 53) :
    2 ^ shiftFor (m * unitsOfOne) 1 ∣ m * unitsOfOne := by
  rcases Nat.lt_or_eq_of_le h with hlt | heq
  · have hshift := shiftFor_mul_unitsOfOne hlt (by decide)
    have hdvd : 2 ^ shiftFor (m * unitsOfOne) 1 ∣ 2 ^ places := Nat.pow_dvd_pow 2 (by omega)
    rw [← unitsOfOne_eq] at hdvd
    exact Nat.dvd_mul_left_of_dvd hdvd m
  · have hshift := shiftFor_mul_unitsOfOne (m := m) (e := 54) (by omega) (by decide)
    have hvalue : m * unitsOfOne = 2 ^ (53 + places) := by
      rw [heq, unitsOfOne_eq, Nat.pow_add 2 53 places]
    rw [hvalue] at hshift ⊢
    exact Nat.pow_dvd_pow 2 (by omega)

theorem unitsOfRank_rankNear_of_le {m : Nat} (h : m ≤ 2 ^ 53) :
    unitsOfRank (rankNear m 1) = m * unitsOfOne := by
  obtain ⟨-, -, hunits⟩ := unitsOfRank_rankNear m Nat.one_pos
  have hexact := roundDiv_mul_of_dvd (Nat.two_pow_pos _) (dvd_mul_unitsOfOne h)
  rw [hunits, Nat.one_mul, hexact]

theorem toInt_ofInt_of_le {n : Int} (h : n.natAbs ≤ 2 ^ 53) :
    (ofInt n).toInt = n * unitsOfOne := by
  refine (sameSide_ofInt n).eq ?_
  rw [natAbs_toInt, rank_ofInt (by omega), unitsOfRank_rankNear_of_le h, natAbs_mul_unitsOfOne]

theorem isNumber_of_le {n : Int} (h : n.natAbs ≤ 2 ^ 53) : IsNumber n :=
  ⟨ofInt n, toInt_ofInt_of_le h⟩

end PlanQuota.Binary64
