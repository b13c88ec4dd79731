import Mathlib.Algebra.Group.Nat.Defs
import PlanQuota.Binary64.Basic

/-!
Numbers that need no rounding. Every finite number is a significand of at most 53 binary digits,
shifted; rounding a ratio of exactly that value gives the number back.
-/
namespace PlanQuota.Binary64

/-- The significand of a rank; the binades from the second on have its highest digit set. -/
def significand (rank : Nat) : Nat := rank - shift rank * binade

theorem unitsOfRank_eq (rank : Nat) : unitsOfRank rank = significand rank * 2 ^ shift rank := rfl

theorem shift_add_significand (rank : Nat) : shift rank * binade + significand rank = rank := by
  simp only [significand, shift, binade]
  omega

theorem significand_lt (rank : Nat) : significand rank < 2 ^ 53 := by
  simp only [significand, shift, binade]
  omega

theorem le_significand {rank : Nat} (h : shift rank ≠ 0) : 2 ^ 52 ≤ significand rank := by
  simp only [significand, shift, binade] at h ⊢
  omega

/-- The shift of a rank is the one at which its units have 53 binary digits. -/
theorem log2_unitsOfRank (rank : Nat) : (unitsOfRank rank).log2 - 52 = shift rank := by
  have hhigh := significand_lt rank
  by_cases h : shift rank = 0
  · have hunits : unitsOfRank rank < 2 ^ 53 := by simpa [unitsOfRank_eq, h] using hhigh
    by_cases hzero : unitsOfRank rank = 0
    · simp [hzero, h]
    · have hlog := (Nat.log2_lt hzero).mpr hunits
      omega
  · have hlow := le_significand h
    have hne : unitsOfRank rank ≠ 0 := by
      rw [unitsOfRank_eq]
      exact Nat.mul_ne_zero (by omega) (Nat.ne_of_gt (Nat.two_pow_pos _))
    have hlog : (unitsOfRank rank).log2 = 52 + shift rank := by
      refine (Nat.log2_eq_iff hne).mpr ⟨?_, ?_⟩
      · rw [Nat.pow_add, unitsOfRank_eq]
        exact Nat.mul_le_mul_right _ hlow
      · rw [show 52 + shift rank + 1 = 53 + shift rank by omega, Nat.pow_add, unitsOfRank_eq]
        exact Nat.mul_lt_mul_of_pos_right hhigh (Nat.two_pow_pos _)
    omega

theorem roundDiv_mul (n : Nat) {d : Nat} (hd : 0 < d) : roundDiv (n * d) d = n := by
  simp [roundDiv, Nat.mul_div_cancel n hd, hd]

/-- A ratio of exactly the value of a rank has that rank. -/
theorem rankNear_of_exact {rank num den : Nat} (hden : 0 < den)
    (h : num * unitsOfOne = unitsOfRank rank * den) : rankNear num den = rank := by
  have hshift : shiftFor (num * unitsOfOne) den = shift rank := by
    rw [shiftFor, h, Nat.mul_div_cancel _ hden, log2_unitsOfRank]
  have hpow : Nat.pow 2 (shift rank) = 2 ^ shift rank := rfl
  have hround : roundDiv (num * unitsOfOne) (den * 2 ^ shift rank) = significand rank := by
    rw [h, unitsOfRank_eq, Nat.mul_assoc, Nat.mul_comm (2 ^ shift rank) den]
    exact roundDiv_mul _ (Nat.mul_pos hden (Nat.two_pow_pos _))
  rw [rankNear, hshift, hpow, hround, shift_add_significand]

/-- How many binary digits a number has at most after the point. -/
@[irreducible] def places : Nat := 1074

theorem unitsOfOne_eq : unitsOfOne = 2 ^ places := by decide +kernel

/-- Multiplying by one rounds nothing. -/
theorem product_powerOfTen_zero (r : Nat) : product r (powerOfTen 0) = r := by
  have hone : unitsOfRank (powerOfTen 0) = unitsOfOne := by decide +kernel
  have hpos : 0 < unitsOfOne := unitsOfOne_eq ▸ Nat.two_pow_pos _
  rw [product, hone]
  exact rankNear_of_exact (Nat.mul_pos hpos hpos) (Nat.mul_assoc _ _ _)

/-- A decimal without an exponent is rounded once. -/
theorem ofDecimal?_zero (negative : Bool) (n : Nat) :
    ofDecimal? negative n 0 = ofRank? negative (rankNear n 1) := by
  have hpower : (0 : Int) ≤ maxPower := by decide
  simp only [ofDecimal?, Int.lt_irrefl, if_false, hpower, if_true, Int.natAbs_zero,
    product_powerOfTen_zero]

end PlanQuota.Binary64
