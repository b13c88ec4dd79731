import Mathlib.Data.Nat.Dist
import Mathlib.Order.Monotone.Basic
import PlanQuota.Proofs.Exactness

/-!
Rounding a ratio to the nearest rank. At its shift a ratio is rounded to a multiple of its last
binary digit; no other multiple is nearer, and no magnitude with a smaller last digit is either,
because these all lie below. So no rank at all is nearer to the ratio than the one it is rounded
to, and of two equally near ones it is the even one.
-/
namespace PlanQuota.Binary64

/-- A significand with all its 53 digits, or any one at shift zero, gives a rank at that shift; one
step past the highest is the first of the next binade. -/
theorem unitsOfRank_of_significand {k q : Nat} (hlow : k = 0 ∨ 2 ^ 52 ≤ q) (hhigh : q ≤ 2 ^ 53) :
    unitsOfRank (k * binade + q) = q * 2 ^ k := by
  by_cases htop : q = 2 ^ 53
  · have hshift : shift (k * binade + q) = k + 1 := by
      simp only [shift, binade]
      omega
    have hsignificand : significand (k * binade + q) = 2 ^ 52 := by
      rw [significand, hshift, binade]
      omega
    rw [unitsOfRank_eq, hshift, hsignificand, htop, Nat.pow_succ']
    omega
  · have hshift : shift (k * binade + q) = k := by
      simp only [shift, binade]
      omega
    have hsignificand : significand (k * binade + q) = q := by
      rw [significand, hshift]
      omega
    rw [unitsOfRank_eq, hshift, hsignificand]

theorem unitsOfRank_succ (rank : Nat) :
    unitsOfRank (rank + 1) = unitsOfRank rank + 2 ^ shift rank := by
  have hhigh := significand_lt rank
  have hlow : shift rank = 0 ∨ 2 ^ 52 ≤ significand rank + 1 := by
    by_cases h : shift rank = 0
    · exact .inl h
    · have hle := le_significand h
      omega
  have hnext := unitsOfRank_of_significand hlow (by omega)
  rw [← Nat.add_assoc, shift_add_significand] at hnext
  rw [hnext, unitsOfRank_eq, Nat.succ_mul]

theorem unitsOfRank_strictMono : StrictMono unitsOfRank := by
  refine strictMono_nat_of_lt_succ fun rank => ?_
  have hpos : 0 < 2 ^ shift rank := Nat.two_pow_pos _
  rw [unitsOfRank_succ]
  omega

/-- The magnitudes at a shift and above are multiples, those below it are smaller than all with 53
digits there. -/
theorem unitsOfRank_grid (rank k : Nat) :
    (∃ m, unitsOfRank rank = m * 2 ^ k) ∨ (0 < k ∧ unitsOfRank rank < 2 ^ 52 * 2 ^ k) := by
  by_cases h : k ≤ shift rank
  · refine .inl ⟨significand rank * 2 ^ (shift rank - k), ?_⟩
    rw [unitsOfRank_eq, Nat.mul_assoc, ← Nat.pow_add, Nat.sub_add_cancel h]
  · refine .inr ⟨by omega, ?_⟩
    calc unitsOfRank rank = significand rank * 2 ^ shift rank := unitsOfRank_eq rank
      _ < 2 ^ 53 * 2 ^ shift rank :=
        Nat.mul_lt_mul_of_pos_right (significand_lt rank) (Nat.two_pow_pos _)
      _ = 2 ^ 52 * 2 ^ (shift rank + 1) := by rw [Nat.pow_succ]; omega
      _ ≤ 2 ^ 52 * 2 ^ k := Nat.mul_le_mul_left _ (Nat.pow_le_pow_right (by decide) (by omega))

section RoundDiv

variable {n d m : Nat}

/-- The multiple is at most half a divisor away, and at exactly half of one it is even. -/
theorem two_mul_dist_roundDiv (n : Nat) (hd : 0 < d) :
    2 * Nat.dist (roundDiv n d * d) n ≤ d ∧
      (2 * Nat.dist (roundDiv n d * d) n = d → roundDiv n d % 2 = 0) := by
  have hdiv := Nat.div_add_mod n d
  have hmod := Nat.mod_lt n hd
  have hsucc : (n / d + 1) * d = n / d * d + d := Nat.succ_mul _ _
  rw [Nat.mul_comm] at hdiv
  unfold roundDiv Nat.dist
  dsimp only
  split
  · omega
  · split
    · rcases Nat.mod_two_eq_zero_or_one (n / d) with heven | hodd
      · rw [heven, Nat.add_zero]
        omega
      · rw [hodd, hsucc]
        omega
    · rw [hsucc]
      omega

theorem roundDiv_mul_of_dvd (hd : 0 < d) (h : d ∣ n) : roundDiv n d * d = n := by
  obtain ⟨m, rfl⟩ := h
  rw [Nat.mul_comm d, roundDiv_mul m hd]

/-- Different multiples are a divisor apart. -/
theorem mul_add_le_of_ne {q : Nat} (h : m ≠ q) (d : Nat) :
    m * d + d ≤ q * d ∨ q * d + d ≤ m * d := by
  rcases Nat.lt_or_gt_of_ne h with hlt | hgt
  · exact .inl (by simpa [Nat.succ_mul] using Nat.mul_le_mul_right d hlt)
  · exact .inr (by simpa [Nat.succ_mul] using Nat.mul_le_mul_right d hgt)

/-- No multiple is nearer. -/
theorem dist_roundDiv_le (n m : Nat) (hd : 0 < d) :
    Nat.dist (roundDiv n d * d) n ≤ Nat.dist (m * d) n := by
  by_cases hm : m = roundDiv n d
  · rw [hm]
  · have hnear := (two_mul_dist_roundDiv n hd).1
    have hapart := mul_add_le_of_ne hm d
    unfold Nat.dist at *
    omega

/-- Another multiple is as near only half a divisor away. -/
theorem even_roundDiv_of_dist_eq (hd : 0 < d) (hm : m ≠ roundDiv n d)
    (h : Nat.dist (m * d) n = Nat.dist (roundDiv n d * d) n) : roundDiv n d % 2 = 0 := by
  have hnear := (two_mul_dist_roundDiv n hd).1
  have hapart := mul_add_le_of_ne hm d
  refine (two_mul_dist_roundDiv n hd).2 ?_
  unfold Nat.dist at *
  omega

theorem roundDiv_le (h : n ≤ m * d) (hd : 0 < d) : roundDiv n d ≤ m := by
  refine Nat.le_of_not_lt fun hlt => ?_
  have hnear := (two_mul_dist_roundDiv n hd).1
  have hnext := Nat.mul_le_mul_right d hlt
  rw [Nat.succ_mul] at hnext
  unfold Nat.dist at hnear
  omega

theorem le_roundDiv (h : m * d ≤ n) (hd : 0 < d) : m ≤ roundDiv n d := by
  refine Nat.le_of_not_lt fun hlt => ?_
  have hnear := (two_mul_dist_roundDiv n hd).1
  have hnext := Nat.mul_le_mul_right d hlt
  rw [Nat.succ_mul] at hnext
  unfold Nat.dist at hnear
  omega

end RoundDiv

section RankNear

variable {num den : Nat}

/-- At its shift a ratio has 53 digits, or fewer at shift zero. -/
theorem shiftFor_spec (n : Nat) (hden : 0 < den) :
    n < 2 ^ 53 * (den * 2 ^ shiftFor n den) ∧
      (shiftFor n den = 0 ∨ 2 ^ 52 * (den * 2 ^ shiftFor n den) ≤ n) := by
  obtain ⟨k, hk⟩ : ∃ k, k = shiftFor n den := ⟨_, rfl⟩
  rw [← hk]
  unfold shiftFor at hk
  have hpow (e : Nat) : 2 ^ e * (den * 2 ^ k) = 2 ^ (e + k) * den := by
    rw [Nat.mul_comm den, ← Nat.mul_assoc, Nat.pow_add]
  have hlt : n / den < 2 ^ (53 + k) :=
    Nat.lt_of_lt_of_le Nat.lt_log2_self (Nat.pow_le_pow_right (by decide) (by omega))
  refine ⟨?_, ?_⟩
  · rw [hpow]
    exact (Nat.div_lt_iff_lt_mul hden).mp hlt
  · by_cases hzero : k = 0
    · exact .inl hzero
    · right
      have hne : n / den ≠ 0 := by
        intro h
        rw [h] at hk
        exact hzero hk
      rw [hpow, ← Nat.le_div_iff_mul_le hden, show 52 + k = (n / den).log2 by omega]
      exact Nat.log2_self_le hne

/-- A ratio is rounded to a multiple of its last digit. -/
theorem unitsOfRank_rankNear (num : Nat) (hden : 0 < den) :
    let k := shiftFor (num * unitsOfOne) den
    let q := roundDiv (num * unitsOfOne) (den * 2 ^ k)
    rankNear num den = k * binade + q ∧ q ≤ 2 ^ 53 ∧
      unitsOfRank (rankNear num den) = q * 2 ^ k := by
  intro k q
  obtain ⟨hlt, hle⟩ := shiftFor_spec (num * unitsOfOne) hden
  have hd : 0 < den * 2 ^ k := Nat.mul_pos hden (Nat.two_pow_pos _)
  have hrank : rankNear num den = k * binade + q := rfl
  have hhigh : q ≤ 2 ^ 53 := roundDiv_le (Nat.le_of_lt hlt) hd
  have hlow : k = 0 ∨ 2 ^ 52 ≤ q := hle.imp_right fun h => le_roundDiv h hd
  exact ⟨hrank, hhigh, by rw [hrank, unitsOfRank_of_significand hlow hhigh]⟩

/-- No rank is nearer to a ratio than the one it is rounded to, and another one is as near only if
that one is even. -/
theorem rankNear_nearest (num : Nat) (hden : 0 < den) (rank : Nat) :
    Nat.dist (unitsOfRank (rankNear num den) * den) (num * unitsOfOne) ≤
        Nat.dist (unitsOfRank rank * den) (num * unitsOfOne) ∧
      (rank ≠ rankNear num den →
        Nat.dist (unitsOfRank rank * den) (num * unitsOfOne) =
          Nat.dist (unitsOfRank (rankNear num den) * den) (num * unitsOfOne) →
        rankNear num den % 2 = 0) := by
  obtain ⟨hrank, -, hunits⟩ := unitsOfRank_rankNear num hden
  obtain ⟨-, hle⟩ := shiftFor_spec (num * unitsOfOne) hden
  generalize shiftFor (num * unitsOfOne) den = k at hrank hunits hle
  have hd : 0 < den * 2 ^ k := Nat.mul_pos hden (Nat.two_pow_pos _)
  have hscale (m : Nat) : m * 2 ^ k * den = m * (den * 2 ^ k) := by
    rw [Nat.mul_assoc, Nat.mul_comm (2 ^ k)]
  have heven (h : roundDiv (num * unitsOfOne) (den * 2 ^ k) % 2 = 0) :
      rankNear num den % 2 = 0 := by
    rw [hrank, binade]
    omega
  rw [hunits, hscale]
  rcases unitsOfRank_grid rank k with ⟨m, hm⟩ | ⟨hk, hsmall⟩
  · rw [hm, hscale]
    refine ⟨dist_roundDiv_le _ m hd, fun hne hdist => heven (even_roundDiv_of_dist_eq hd ?_ hdist)⟩
    rintro rfl
    exact hne (unitsOfRank_strictMono.injective (hm.trans hunits.symm))
  · -- the ratio has 53 digits there, so a smaller magnitude is not even as near as the first such
    have hfirst := dist_roundDiv_le (num * unitsOfOne) (2 ^ 52) hd
    have hbelow : unitsOfRank rank * den < 2 ^ 52 * (den * 2 ^ k) := by
      rw [← hscale]
      exact Nat.mul_lt_mul_of_pos_right hsmall hden
    have hle := hle.resolve_left (by omega)
    unfold Nat.dist at *
    omega

end RankNear

end PlanQuota.Binary64
