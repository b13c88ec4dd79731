import PlanQuota.Text.Utf8

/-!
Reading what was written in UTF-8. The scan takes the bytes of a character one after the other: a
lead byte begins it, each further byte adds six bits to its number, and the last one ends it, with
nothing left over for the next character.
-/
namespace PlanQuota.Utf8

variable (done : List (Option Char))

theorem toNat_ofNat_byte {n : Nat} (h : n < 256) : (UInt8.ofNat n).toNat = n := by
  simpa using h

/-- A byte that belongs to a character, but does not end it. -/
theorem step_middle {point needed low high bits : Nat} (hlow : low ≤ 0x80 + bits)
    (hhigh : 0x80 + bits ≤ high) (hbits : bits < 64) (hneeded : needed ≠ 1) :
    Scan.step ⟨done, some ⟨point, needed, low, high⟩⟩ (.ofNat (0x80 + bits)) =
      ⟨done, some ⟨point * 64 + bits, needed - 1, 0x80, 0xBF⟩⟩ := by
  simp only [Scan.step, toNat_ofNat_byte (show 0x80 + bits < 256 by omega), hlow, hhigh, and_self,
    if_true, hneeded, if_false, Nat.add_sub_cancel_left]

/-- The byte that ends a character. -/
theorem step_last {point low high bits : Nat} (hlow : low ≤ 0x80 + bits)
    (hhigh : 0x80 + bits ≤ high) (hbits : bits < 64) :
    Scan.step ⟨done, some ⟨point, 1, low, high⟩⟩ (.ofNat (0x80 + bits)) =
      ⟨some (Char.ofNat (point * 64 + bits)) :: done, none⟩ := by
  simp only [Scan.step, toNat_ofNat_byte (show 0x80 + bits < 256 by omega), hlow, hhigh, and_self,
    if_true, Nat.add_sub_cancel_left]

theorem step_single {n : Nat} (h : n < 0x80) :
    Scan.step ⟨done, none⟩ (.ofNat n) = ⟨some (Char.ofNat n) :: done, none⟩ := by
  simp [Scan.step, Scan.start, lead, toNat_ofNat_byte (show n < 256 by omega), h]

theorem step_two {n : Nat} (hlow : 2 ≤ n) (hhigh : n < 32) :
    Scan.step ⟨done, none⟩ (.ofNat (0xC0 + n)) = ⟨done, some ⟨n, 1, 0x80, 0xBF⟩⟩ := by
  have hlead : lead (.ofNat (0xC0 + n)) = .begins ⟨n, 1, 0x80, 0xBF⟩ := by
    simp only [lead, toNat_ofNat_byte (show 0xC0 + n < 256 by omega)]
    rw [if_neg (by omega), if_neg (by omega), if_pos (by omega), Nat.add_sub_cancel_left]
  simp only [Scan.step, Scan.start, hlead]

/-- The least and the greatest second byte of three: no overlong form, no surrogate. -/
def secondOfThree (n : Nat) : Nat × Nat :=
  if n = 0 then (0xA0, 0xBF) else if n = 0xD then (0x80, 0x9F) else (0x80, 0xBF)

theorem step_three {n : Nat} (h : n < 16) :
    Scan.step ⟨done, none⟩ (.ofNat (0xE0 + n)) =
      ⟨done, some ⟨n, 2, (secondOfThree n).1, (secondOfThree n).2⟩⟩ := by
  have hlead : lead (.ofNat (0xE0 + n)) =
      .begins ⟨n, 2, (secondOfThree n).1, (secondOfThree n).2⟩ := by
    simp only [lead, toNat_ofNat_byte (show 0xE0 + n < 256 by omega)]
    rw [if_neg (by omega), if_neg (by omega), if_neg (by omega)]
    by_cases hzero : n = 0
    · subst hzero; rfl
    · by_cases hd : n = 0xD
      · subst hd; rfl
      · rw [if_neg (by omega), if_neg (by omega), if_pos (by omega), Nat.add_sub_cancel_left]
        simp [secondOfThree, hzero, hd]
  simp only [Scan.step, Scan.start, hlead]

/-- The least and the greatest second byte of four: no overlong form, nothing past the last
character. -/
def secondOfFour (n : Nat) : Nat × Nat :=
  if n = 0 then (0x90, 0xBF) else if n = 4 then (0x80, 0x8F) else (0x80, 0xBF)

theorem step_four {n : Nat} (h : n ≤ 4) :
    Scan.step ⟨done, none⟩ (.ofNat (0xF0 + n)) =
      ⟨done, some ⟨n, 3, (secondOfFour n).1, (secondOfFour n).2⟩⟩ := by
  have hlead : lead (.ofNat (0xF0 + n)) =
      .begins ⟨n, 3, (secondOfFour n).1, (secondOfFour n).2⟩ := by
    simp only [lead, toNat_ofNat_byte (show 0xF0 + n < 256 by omega)]
    rw [if_neg (by omega), if_neg (by omega), if_neg (by omega), if_neg (by omega),
      if_neg (by omega), if_neg (by omega)]
    by_cases hzero : n = 0
    · subst hzero; rfl
    · by_cases hfour : n = 4
      · subst hfour; rfl
      · rw [if_neg (by omega), if_pos (by omega), Nat.add_sub_cancel_left]
        simp [secondOfFour, hzero, hfour]
  simp only [Scan.step, Scan.start, hlead]

/-- The bytes of a character are scanned as that character. -/
theorem scan_encodeChar (c : Char) :
    (encodeChar c).foldl Scan.step ⟨done, none⟩ = ⟨some c :: done, none⟩ := by
  have hvalid : c.toNat < 0xD800 ∨ 0xDFFF < c.toNat ∧ c.toNat < 0x110000 := c.valid
  have hchar : Char.ofNat c.toNat = c := c.ofNat_toNat
  unfold encodeChar
  generalize c.toNat = n at hvalid hchar
  dsimp only
  split
  next h1 =>
    rw [List.foldl_cons, step_single done h1, List.foldl_nil, hchar]
  split
  next h1 h2 =>
    have hn : n / 64 * 64 + n % 64 = n := by omega
    rw [List.foldl_cons, step_two done (by omega) (by omega), List.foldl_cons,
      step_last done (by omega) (by omega) (by omega), List.foldl_nil, hn, hchar]
  split
  next h1 h2 h3 =>
    have hn : (n / 4096 * 64 + n / 64 % 64) * 64 + n % 64 = n := by omega
    have hsecond : (secondOfThree (n / 4096)).1 ≤ 0x80 + n / 64 % 64 ∧
        0x80 + n / 64 % 64 ≤ (secondOfThree (n / 4096)).2 := by
      unfold secondOfThree
      split
      · simp only; omega
      · split
        · simp only; omega
        · simp only; omega
    rw [List.foldl_cons, step_three done (by omega), List.foldl_cons,
      step_middle done hsecond.1 hsecond.2 (by omega) (by omega), List.foldl_cons,
      step_last done (by omega) (by omega) (by omega), List.foldl_nil, hn, hchar]
  next h1 h2 h3 =>
    have hn : ((n / 262144 * 64 + n / 4096 % 64) * 64 + n / 64 % 64) * 64 + n % 64 = n := by omega
    have hsecond : (secondOfFour (n / 262144)).1 ≤ 0x80 + n / 4096 % 64 ∧
        0x80 + n / 4096 % 64 ≤ (secondOfFour (n / 262144)).2 := by
      unfold secondOfFour
      split
      · simp only; omega
      · split
        · simp only; omega
        · simp only; omega
    rw [List.foldl_cons, step_four done (by omega), List.foldl_cons,
      step_middle done hsecond.1 hsecond.2 (by omega) (by omega), List.foldl_cons,
      step_middle done (by omega) (by omega) (by omega) (by omega), List.foldl_cons,
      step_last done (by omega) (by omega) (by omega), List.foldl_nil, hn, hchar]

theorem scan_encode (cs : List Char) :
    (encode cs).foldl Scan.step ⟨done, none⟩ = ⟨(cs.map some).reverse ++ done, none⟩ := by
  induction cs generalizing done with
  | nil => rfl
  | cons c rest ih =>
    have hcons : encode (c :: rest) = encodeChar c ++ encode rest := List.flatMap_cons
    rw [hcons, List.foldl_append, scan_encodeChar, ih]
    simp

theorem ofString_append (s t : String) : ofString (s ++ t) = ofString s ++ ofString t := by
  simp only [ofString, encode, String.toList_append, List.flatMap_append]

/-- Reading gives back the characters, and no bad symbol. -/
@[simp] theorem symbols_encode (cs : List Char) : symbols (encode cs) = cs.map some := by
  simp [symbols, scan_encode, Scan.finish]

/-- A text that was written is read as it was, without a replacement. -/
theorem toStringLossy_ofString (s : String) : toStringLossy (ofString s) = s := by
  rw [toStringLossy, decodeLossy, ofString, symbols_encode, List.map_map]
  have hid : ((fun symbol : Option Char => symbol.getD '\uFFFD') ∘ some) = id := rfl
  rw [hid, List.map_id, String.ofList_toList]

end PlanQuota.Utf8
