import PlanQuota.Proofs.Utf8
import PlanQuota.Url.Percent

/-!
Marks and escapes in the parts of a URL. A text that was joined by a mark is cut back into its
pieces if the mark is in none of them, and escapes see to that: an escape is a percent sign and two
digits, so it holds none of the marks, and it is read back as the byte it stands for.
-/
namespace PlanQuota

section Pieces

variable {α : Type} {p : α → Bool} {m : α}

/-- What passes a test is none of the marks that do not. -/
theorem ne_of_test {x : α} {b : Bool} (hx : p x = b) (hm : p m ≠ b) : x ≠ m := by
  rintro rfl
  exact hm hx

theorem splitBy_of_forall_not {xs : List α} (h : ∀ x ∈ xs, p x = false) : splitBy p xs = [xs] := by
  induction xs with
  | nil => rfl
  | cons x rest ih =>
    have hrest := ih fun y hy => h y (List.mem_cons_of_mem x hy)
    simp [splitBy, h x List.mem_cons_self, hrest]

theorem splitBy_append_cons {xs : List α} (h : ∀ x ∈ xs, p x = false) (hm : p m = true)
    (ys : List α) : splitBy p (xs ++ m :: ys) = xs :: splitBy p ys := by
  induction xs with
  | nil => simp [splitBy, hm]
  | cons x rest ih =>
    have hrest := ih fun y hy => h y (List.mem_cons_of_mem x hy)
    simp [splitBy, h x List.mem_cons_self, hrest]

theorem splitBy_ne_nil (xs : List α) : splitBy p xs ≠ [] := by
  cases xs with
  | nil => simp [splitBy]
  | cons x rest =>
    simp only [splitBy]
    split
    · simp
    · split <;> simp

/-- No piece holds a mark. -/
theorem not_of_mem_splitBy {xs : List α} :
    ∀ piece ∈ splitBy p xs, ∀ x ∈ piece, p x = false := by
  induction xs with
  | nil => simp [splitBy]
  | cons x rest ih =>
    cases hx : p x with
    | true =>
      simp only [splitBy, hx, if_true, List.forall_mem_cons]
      exact ⟨by simp, ih⟩
    | false =>
      cases hrest : splitBy p rest with
      | nil => exact absurd hrest (splitBy_ne_nil rest)
      | cons first others =>
        rw [hrest, List.forall_mem_cons] at ih
        simp only [splitBy, hx, hrest, Bool.false_eq_true, if_false, List.forall_mem_cons]
        exact ⟨⟨trivial, ih.1⟩, ih.2⟩

/-- What was joined is cut back into its pieces. -/
theorem splitBy_intercalate (hm : p m = true) {piece : List α} {others : List (List α)}
    (h : ∀ xs ∈ piece :: others, ∀ x ∈ xs, p x = false) :
    splitBy p ([m].intercalate (piece :: others)) = piece :: others := by
  induction others generalizing piece with
  | nil =>
    simp only [List.intercalate_singleton]
    exact splitBy_of_forall_not (h piece List.mem_cons_self)
  | cons second rest ih =>
    rw [List.forall_mem_cons] at h
    rw [List.intercalate_cons_cons, List.append_assoc, List.singleton_append,
      splitBy_append_cons h.1 hm, ih h.2]

theorem cutAt_append_cons {xs : List α} (h : ∀ x ∈ xs, p x = false) (hm : p m = true)
    (ys : List α) : cutAt p (xs ++ m :: ys) = (xs, some ys) := by
  have hpass : ∀ x ∈ xs, (!p x) = true := fun x hx => by simp [h x hx]
  simp [cutAt, List.dropWhile_append_of_pos hpass, List.takeWhile_append_of_pos hpass, hm]

end Pieces

/-- A character of ASCII is one byte, and any other is written without bytes of ASCII. -/
theorem Utf8.mem_encodeChar {c : Char} {b : UInt8} (h : b ∈ encodeChar c) :
    b.toNat = c.toNat ∨ 0x80 ≤ b.toNat := by
  have hvalid : c.toNat < 0x110000 := by
    have hc : c.toNat < 0xD800 ∨ 0xDFFF < c.toNat ∧ c.toNat < 0x110000 := c.valid
    omega
  unfold encodeChar at h
  generalize c.toNat = n at hvalid h
  dsimp only at h
  split at h
  next hsingle =>
    obtain rfl := List.mem_singleton.mp h
    exact .inl (toNat_ofNat_byte (by omega))
  next =>
    right
    -- every byte of a longer sequence carries the bit above those of ASCII
    split at h
    · simp only [List.mem_cons, List.not_mem_nil, or_false] at h
      obtain rfl | rfl := h <;> rw [toNat_ofNat_byte (by omega)] <;> omega
    · split at h
      · simp only [List.mem_cons, List.not_mem_nil, or_false] at h
        obtain rfl | rfl | rfl := h <;> rw [toNat_ofNat_byte (by omega)] <;> omega
      · simp only [List.mem_cons, List.not_mem_nil, or_false] at h
        obtain rfl | rfl | rfl | rfl := h <;> rw [toNat_ofNat_byte (by omega)] <;> omega

namespace Percent

theorem digitValue?_hexDigit : ∀ n < 16, digitValue? 16 (hexDigit n) = some n := by decide

theorem eq_of_mem_escape {b : UInt8} {c : Char} (h : c ∈ escape b) :
    c = '%' ∨ ∃ n < 16, c = hexDigit n := by
  have hb := b.toNat_lt
  simp only [escape, List.mem_cons, List.not_mem_nil, or_false] at h
  obtain h | h | h := h
  · exact .inl h
  · exact .inr ⟨_, by omega, h⟩
  · exact .inr ⟨_, by omega, h⟩

/-- What holds of the percent sign and of all digits holds in every escape. -/
theorem forall_mem_escape {q : Char → Prop} (hsign : q '%') (hdigit : ∀ n < 16, q (hexDigit n))
    (b : UInt8) : ∀ c ∈ escape b, q c := by
  intro c hc
  obtain rfl | ⟨n, hn, rfl⟩ := eq_of_mem_escape hc
  · exact hsign
  · exact hdigit n hn

theorem forall_mem_encodeChar {q : Char → Prop} (hsign : q '%') (hdigit : ∀ n < 16, q (hexDigit n))
    {marks : Char → Bool} {c : Char} (hc : marks c = false → q c) :
    ∀ d ∈ encodeChar marks c, q d := by
  intro d hd
  unfold encodeChar at hd
  split at hd
  · obtain ⟨b, -, hb⟩ := List.mem_flatMap.mp hd
    exact forall_mem_escape hsign hdigit b d hb
  · next hmark =>
    obtain rfl := List.mem_singleton.mp hd
    exact hc (by simpa using hmark)

/-- What holds of escapes and of the characters without a mark holds in the whole text. -/
theorem forall_mem_encode {q : Char → Prop} (hsign : q '%') (hdigit : ∀ n < 16, q (hexDigit n))
    {marks : Char → Bool} {s : List Char} (hs : ∀ c ∈ s, marks c = false → q c) :
    ∀ d ∈ encode marks s, q d := by
  intro d hd
  obtain ⟨c, hc, hd⟩ := List.mem_flatMap.mp hd
  exact forall_mem_encodeChar hsign hdigit (hs c hc) d hd

theorem decode_escape (b : UInt8) (r : List Char) : decode (escape b ++ r) = b :: decode r := by
  have hb := b.toNat_lt
  have hhigh := digitValue?_hexDigit (b.toNat / 16) (by omega)
  have hlow := digitValue?_hexDigit (b.toNat % 16) (by omega)
  have hbyte : 16 * (b.toNat / 16) + b.toNat % 16 = b.toNat := by omega
  simp [escape, decode, hhigh, hlow, hbyte]

theorem decode_flatMap_escape (bytes : List UInt8) (r : List Char) :
    decode (bytes.flatMap escape ++ r) = bytes ++ decode r := by
  induction bytes with
  | nil => rfl
  | cons b rest ih =>
    rw [List.flatMap_cons, List.append_assoc, decode_escape, ih, List.cons_append]

theorem decode_cons_of_ne {c : Char} (h : c ≠ '%') (r : List Char) :
    decode (c :: r) = Utf8.encodeChar c ++ decode r := by
  rw [decode]
  rintro a b rest rfl -
  exact h rfl

end Percent
end PlanQuota
