import PlanQuota.AmountText
import PlanQuota.Text.Digits

/-!
The texts that are read as amounts: decimal digits with at most one sign before them, whose value
fits into 64 bits. The reader checks the range after each digit. That refuses nothing else, since
a value only moves away from zero as digits are added.
-/
namespace PlanQuota.AmountText

/-- The integers that an amount can be. -/
def Fits (z : Int) : Prop := -0x8000000000000000 ≤ z ∧ z < 0x8000000000000000

instance (z : Int) : Decidable (Fits z) := inferInstanceAs (Decidable (_ ∧ _))

theorem fits_toInt (n : Int64) : Fits n.toInt := ⟨n.le_toInt, n.toInt_lt⟩

theorem toInt_ofInt {z : Int} (h : Fits z) : (Int64.ofInt z).toInt = z :=
  Int64.toInt_ofInt_of_le h.1 h.2

def signed (negative : Bool) (n : Nat) : Int := if negative then -n else n

/-- What fits still fits nearer to zero. -/
theorem Fits.anti {negative : Bool} {m n : Nat} (h : Fits (signed negative n)) (hmn : m ≤ n) :
    Fits (signed negative m) := by
  unfold Fits signed at *
  cases negative with
  | false =>
    simp only [Bool.false_eq_true, if_false] at *
    omega
  | true =>
    simp only [if_true] at *
    omega

/-- What may stand before the digits, and whether it makes the value negative. -/
inductive Sign : List Char → Bool → Prop
  | absent : Sign [] false
  | plus : Sign ['+'] false
  | minus : Sign ['-'] true

/-- A text of one or more digits with at most one sign before them, for the number `n`. -/
def Spells (text : String) (n : Int64) : Prop :=
  ∃ sign negative digits, Sign sign negative ∧ text.toList = sign ++ digits ∧ digits ≠ [] ∧
    (∀ c ∈ digits, c.isDigit = true) ∧
    n.toInt = signed negative (Nat.ofDigitChars 10 digits 0)

variable {negative : Bool}

theorem step_of_not_digit {c : Char} (h : c.isDigit = false) (z : Int) :
    step negative z c = .error .invalidDigit := by
  simp [step, h]

/-- One more digit on a value that is the prefix of a number. -/
theorem step_eq_ok_iff {c : Char} (hc : c.isDigit = true) {n : Nat} {z : Int} :
    step negative (signed negative n) c = .ok z ↔
      z = signed negative (10 * n + (c.toNat - '0'.toNat)) ∧ Fits z := by
  have hzero : '0'.toNat ≤ c.toNat := by
    simp only [Char.isDigit, Bool.and_eq_true, decide_eq_true_eq] at hc
    exact hc.1
  have hvalue : (if negative then 10 * signed negative n - ((c.toNat : Int) - 0x30)
      else 10 * signed negative n + ((c.toNat : Int) - 0x30)) =
        signed negative (10 * n + (c.toNat - '0'.toNat)) := by
    have : '0'.toNat = 0x30 := rfl
    unfold signed
    cases negative with
    | false =>
      simp only [Bool.false_eq_true, if_false]
      omega
    | true =>
      simp only [if_true]
      omega
  simp only [step, hc, if_true, hvalue]
  generalize signed negative (10 * n + (c.toNat - '0'.toNat)) = m
  unfold Fits
  split
  · next hsmall =>
    refine ⟨nofun, ?_⟩
    rintro ⟨rfl, hfits⟩
    omega
  · split
    · next hlarge =>
      refine ⟨nofun, ?_⟩
      rintro ⟨rfl, hfits⟩
      omega
    · next hsmall hlarge =>
      rw [Except.ok.injEq]
      constructor
      · rintro rfl
        exact ⟨rfl, by omega, by omega⟩
      · rintro ⟨rfl, -⟩
        rfl

/-- The range is checked on the way only where the value is out of it in the end. -/
theorem foldlM_step_eq_ok_iff (cs : List Char) {n : Nat} (hn : Fits (signed negative n)) {z : Int} :
    cs.foldlM (step negative) (signed negative n) = .ok z ↔
      (∀ c ∈ cs, c.isDigit = true) ∧ z = signed negative (Nat.ofDigitChars 10 cs n) ∧ Fits z := by
  induction cs generalizing n with
  | nil =>
    simp only [List.foldlM_nil, pure, Except.pure, Except.ok.injEq, Nat.ofDigitChars_nil]
    constructor
    · rintro rfl
      exact ⟨nofun, rfl, hn⟩
    · rintro ⟨-, rfl, -⟩
      rfl
  | cons c cs ih =>
    rw [List.foldlM_cons, Nat.ofDigitChars_cons, List.forall_mem_cons]
    cases hc : c.isDigit with
    | false =>
      rw [step_of_not_digit hc]
      simp [bind, Except.bind]
    | true =>
      by_cases hfits : Fits (signed negative (10 * n + (c.toNat - '0'.toNat)))
      · rw [(step_eq_ok_iff hc).mpr ⟨rfl, hfits⟩]
        simpa [bind, Except.bind] using ih hfits
      · cases hs : step negative (signed negative n) c with
        | ok m =>
          obtain ⟨rfl, hm⟩ := (step_eq_ok_iff hc).mp hs
          exact absurd hm hfits
        | error fault =>
          refine ⟨nofun, ?_⟩
          rintro ⟨-, rfl, hz⟩
          exact absurd (hz.anti (le_ofDigitChars cs _)) hfits

theorem digits_eq_ok_iff {cs : List Char} {n : Int64} :
    digits negative cs = .ok n ↔ cs ≠ [] ∧ (∀ c ∈ cs, c.isDigit = true) ∧
      n.toInt = signed negative (Nat.ofDigitChars 10 cs 0) := by
  have hzero : signed negative 0 = 0 := by cases negative <;> rfl
  have hfits : Fits (signed negative 0) := by
    rw [hzero]
    decide
  have hfold {z : Int} := foldlM_step_eq_ok_iff cs hfits (z := z)
  rw [hzero] at hfold
  unfold digits
  split
  · next hcs => simp [hcs]
  · next hcs =>
    cases hr : cs.foldlM (step negative) 0 with
    | error fault =>
      refine ⟨nofun, ?_⟩
      rintro ⟨-, hdigits, hvalue⟩
      have := hfold.mpr ⟨hdigits, hvalue, fits_toInt n⟩
      rw [hr] at this
      cases this
    | ok z =>
      obtain ⟨hdigits, hvalue, hz⟩ := hfold.mp hr
      rw [Except.map, Except.ok.injEq]
      constructor
      · rintro rfl
        exact ⟨hcs, hdigits, (toInt_ofInt hz).trans hvalue⟩
      · rintro ⟨-, -, hn⟩
        rw [hvalue, ← hn]
        exact n.ofInt_toInt

theorem parse_of_digit {s : String} {c : Char} {cs : List Char} (hs : s.toList = c :: cs)
    (hc : c.isDigit = true) : parse s = digits false (c :: cs) := by
  unfold parse
  rw [hs]
  split
  · next h => cases h
  · next h =>
    cases h
    cases hc
  · next h =>
    cases h
    cases hc
  · rfl

/-- A text is read as an amount if and only if it spells it. -/
theorem parse_eq_ok_iff {s : String} {n : Int64} : parse s = .ok n ↔ Spells s n := by
  constructor
  · intro h
    unfold parse at h
    split at h
    · cases h
    · next cs hs =>
      exact ⟨_, _, cs, .plus, hs, digits_eq_ok_iff.mp h⟩
    · next cs hs =>
      exact ⟨_, _, cs, .minus, hs, digits_eq_ok_iff.mp h⟩
    · exact ⟨_, _, _, .absent, rfl, digits_eq_ok_iff.mp h⟩
  · rintro ⟨sign, negative, cs, hsign, hs, hread⟩
    have hdigits := digits_eq_ok_iff.mpr hread
    cases hsign with
    | absent =>
      cases cs with
      | nil => exact absurd rfl hread.1
      | cons c cs => rw [parse_of_digit hs (hread.2.1 c (List.mem_cons_self ..)), hdigits]
    | plus =>
      unfold parse
      rw [hs]
      exact hdigits
    | minus =>
      unfold parse
      rw [hs]
      exact hdigits

end PlanQuota.AmountText
