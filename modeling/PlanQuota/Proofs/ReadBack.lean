import PlanQuota.Json.Reader
import PlanQuota.Json.Writer
import PlanQuota.Proofs.Utf8

/-!
Reading a document that was written. The reader takes the written form of a value off the front of
a text and leaves what follows, as long as that cannot go on a number. The induction is on the
fuel, with a value, the elements of an array and the members of an object side by side; twice the
length of what is to be read is always fuel enough.
-/
namespace PlanQuota.Json

/-- The symbols of a text that is made of characters. -/
def marks (cs : List Char) : List Symbol := cs.map some

@[simp] theorem marks_nil : marks [] = [] := rfl

@[simp] theorem marks_cons (c : Char) (cs : List Char) : marks (c :: cs) = some c :: marks cs := rfl

@[simp] theorem marks_append (cs ds : List Char) : marks (cs ++ ds) = marks cs ++ marks ds :=
  List.map_append

/-- What the reader makes of a written character: a control without an escape of its own comes
back as a number. -/
def pieceOf (c : Char) : Piece :=
  if c < ' ' ∧ c ≠ '\x08' ∧ c ≠ '\x0c' ∧ c ≠ '\n' ∧ c ≠ '\r' ∧ c ≠ '\t' then .code c.toNat
  else .plain c

/-- An escape of two characters, whatever follows it. -/
theorem pieces?_escaped {y e : Char} (hy : y ≠ 'u') (he : escaped? y = some e) (acc : List Piece)
    (r : List Symbol) :
    pieces? acc (some '\\' :: some y :: r) = pieces? (.plain e :: acc) r := by
  rw [pieces?.eq_def]
  dsimp only
  rw [if_neg (by decide), if_pos rfl]
  match r with
  | [] => simp only [he]
  | [_] => simp only [he]
  | [_, _] => simp only [he]
  | [_, _, _] => simp only [he]
  | _ :: _ :: _ :: _ :: _ => simp only [he, hy, if_false]

theorem pieces?_plain {c : Char} (hquote : c ≠ '"') (hslash : c ≠ '\\') (hcontrol : ¬c < ' ')
    (acc : List Piece) (r : List Symbol) :
    pieces? acc (some c :: r) = pieces? (.plain c :: acc) r := by
  rw [pieces?.eq_def]
  dsimp only
  rw [if_neg hquote, if_neg hslash, if_neg hcontrol]

theorem pieces?_quote (acc : List Piece) (r : List Symbol) :
    pieces? acc (some '"' :: r) = some (acc.reverse, r) := by
  rw [pieces?.eq_def]
  rfl

theorem pieces?_code {a b c d : Symbol} {n : Nat} (h : codeOf? a b c d = some n)
    (acc : List Piece) (r : List Symbol) :
    pieces? acc (some '\\' :: some 'u' :: a :: b :: c :: d :: r) =
      pieces? (.code n :: acc) r := by
  rw [pieces?.eq_def]
  dsimp only
  rw [if_neg (by decide), if_pos rfl]
  simp only [if_true, h]

theorem codeOf?_control {n : Nat} (h : n < 32) :
    codeOf? (some '0') (some '0') (some (hexDigit (n / 16))) (some (hexDigit n)) = some n := by
  decide +revert

/-- One written character is one piece. -/
theorem pieces?_escape (c : Char) (acc : List Piece) (r : List Symbol) :
    pieces? acc (marks (escape c) ++ r) = pieces? (pieceOf c :: acc) r := by
  by_cases hquote : c = '"'
  · subst hquote; exact pieces?_escaped (by decide) rfl acc r
  by_cases hslash : c = '\\'
  · subst hslash; exact pieces?_escaped (by decide) rfl acc r
  by_cases hb : c = '\x08'
  · subst hb; exact pieces?_escaped (by decide) rfl acc r
  by_cases hf : c = '\x0c'
  · subst hf; exact pieces?_escaped (by decide) rfl acc r
  by_cases hn : c = '\n'
  · subst hn; exact pieces?_escaped (by decide) rfl acc r
  by_cases hr : c = '\r'
  · subst hr; exact pieces?_escaped (by decide) rfl acc r
  by_cases ht : c = '\t'
  · subst ht; exact pieces?_escaped (by decide) rfl acc r
  by_cases hcontrol : c < ' '
  · simp only [escape, pieceOf, hquote, hslash, hb, hf, hn, hr, ht, hcontrol, if_false, if_true,
      ne_eq, not_false_eq_true, and_self]
    exact pieces?_code (codeOf?_control hcontrol) acc r
  · simp only [escape, pieceOf, hquote, hslash, hb, hf, hn, hr, ht, hcontrol, if_false, false_and]
    exact pieces?_plain hquote hslash hcontrol acc r

theorem pieces?_flatMap_escape (cs : List Char) (acc : List Piece) (r : List Symbol) :
    pieces? acc (marks (cs.flatMap escape) ++ some '"' :: r) =
      some (acc.reverse ++ cs.map pieceOf, r) := by
  induction cs generalizing acc with
  | nil => simp [pieces?_quote]
  | cons c rest ih =>
    rw [List.flatMap_cons, marks_append, List.append_assoc, pieces?_escape, ih]
    simp

theorem assemble?_pieceOf (cs acc : List Char) :
    assemble? acc (cs.map pieceOf) = some (acc.reverse ++ cs) := by
  induction cs generalizing acc with
  | nil => simp [assemble?]
  | cons c rest ih =>
    have hnow : assemble? acc (pieceOf c :: rest.map pieceOf) =
        assemble? (c :: acc) (rest.map pieceOf) := by
      unfold pieceOf
      split
      next hcontrol =>
        have hn : c.toNat < 32 := hcontrol.1
        have hhigh : isHighSurrogate c.toNat = false := by simp [isHighSurrogate]; omega
        have hlow : isLowSurrogate c.toNat = false := by simp [isLowSurrogate]; omega
        rw [assemble?.eq_def]
        simp only [hhigh, hlow, Bool.false_eq_true, if_false, Char.ofNat_toNat]
      next => rw [assemble?]
    rw [List.map_cons, hnow, ih]
    simp

theorem stringBody?_written (s : String) (r : List Symbol) :
    stringBody? (marks (s.toList.flatMap escape) ++ some '"' :: r) = some (some s, r) := by
  simp [stringBody?, pieces?_flatMap_escape, assemble?_pieceOf]

/-- A written string after its opening quote; one that is undecodable stays so. -/
theorem stringBody?_writeString (t : Option String) (r : List Symbol) :
    ∃ body, marks (writeString t) = some '"' :: body ∧
      stringBody? (body ++ r) = some (t, r) := by
  cases t with
  | some s =>
    refine ⟨marks (s.toList.flatMap escape) ++ [some '"'], by simp [writeString], ?_⟩
    simpa using stringBody?_written s r
  | none =>
    refine ⟨marks ['\\', 'u', 'd', '8', '0', '0'] ++ [some '"'], rfl, ?_⟩
    have hcode : codeOf? (some 'd') (some '8') (some '0') (some '0') = some 0xD800 := by decide
    have hpieces : pieces? [] (marks ['\\', 'u', 'd', '8', '0', '0'] ++ [some '"'] ++ r) =
        some ([.code 0xD800], r) := by
      simp [pieces?_code hcode, pieces?_quote]
    rw [stringBody?, hpieces]
    rfl

/-- The symbols do not go on a number: no digit, no point, no exponent. -/
def Ends (r : List Symbol) : Prop :=
  ∀ s ∈ r.head?, isDigit s = false ∧ s ≠ some '.' ∧ s ≠ some 'e' ∧ s ≠ some 'E'

theorem digits_toDigits (n : Nat) {r : List Symbol} (h : ∀ s ∈ r.head?, isDigit s = false) :
    digits (marks (Nat.toDigits 10 n) ++ r) = (Nat.toDigits 10 n, r) := by
  have hall : ∀ s ∈ marks (Nat.toDigits 10 n), isDigit s = true := by
    intro s hs
    obtain ⟨c, hc, rfl⟩ := List.mem_map.mp hs
    exact Nat.isDigit_of_mem_toDigits (by decide) (by decide) hc
  have htake : r.takeWhile isDigit = [] := by
    cases r with
    | nil => rfl
    | cons s rest => simp [h s rfl]
  have hdrop : r.dropWhile isDigit = r := by
    cases r with
    | nil => rfl
    | cons s rest => simp [h s rfl]
  have hmarks : (marks (Nat.toDigits 10 n)).filterMap id = Nat.toDigits 10 n := by
    simp [marks, List.filterMap_map]
  rw [digits, List.takeWhile_append_of_pos hall, List.dropWhile_append_of_pos hall, htake, hdrop,
    List.append_nil, hmarks]

theorem toDigits_head_ne_zero {n : Nat} (h : n ≠ 0) : (Nat.toDigits 10 n).head? ≠ some '0' := by
  induction n using Nat.strongRecOn with
  | _ n ih =>
    by_cases hn : n < 10
    · rw [Nat.toDigits_of_lt_base hn]
      intro hzero
      have hdigit : n.digitChar = '0' := Option.some.inj hzero
      have hcases : ∀ m < 10, m.digitChar = '0' → m = 0 := by decide
      exact h (hcases n hn hdigit)
    · have hfront : (Nat.toDigits 10 (n / 10)).head?.isSome = true := by
        simp [Nat.toDigits_ne_nil]
      rw [Nat.toDigits_of_base_le (by decide) (by omega), List.head?_append,
        Option.or_of_isSome hfront]
      exact ih (n / 10) (by omega) (by omega)

/-- A written number has no zero at its front that could be left out. -/
theorem toDigits_wellFormed (n : Nat) :
    ¬(Nat.toDigits 10 n = [] ∨
      ((Nat.toDigits 10 n).head? = some '0' ∧ Nat.toDigits 10 n ≠ ['0'])) := by
  rintro (hnil | ⟨hhead, hne⟩)
  · exact Nat.toDigits_ne_nil hnil
  · by_cases hn : n = 0
    · subst hn
      exact hne (Nat.toDigits_zero 10)
    · exact toDigits_head_ne_zero hn hhead

/-- The first symbol of a natural number is a digit. -/
theorem toDigits_eq_cons (n : Nat) :
    ∃ c cs, Nat.toDigits 10 n = c :: cs ∧ c.isDigit = true := by
  cases h : Nat.toDigits 10 n with
  | nil => exact absurd h Nat.toDigits_ne_nil
  | cons c cs =>
    have hmem : c ∈ Nat.toDigits 10 n := by simp [h]
    exact ⟨c, cs, rfl, Nat.isDigit_of_mem_toDigits (by decide) (by decide) hmem⟩

/-- What is no mark of the grammar beside the digits. -/
theorem ne_of_isDigit {c d : Char} (hc : c.isDigit = true) (hd : d.isDigit = false) : c ≠ d := by
  rintro rfl
  rw [hc] at hd
  cases hd

/-- The sign that a written number may have. -/
def minus (negative : Bool) : List Char := if negative then ['-'] else []

/-- A number after its sign. -/
def unsigned? (negative : Bool) (s : List Symbol) : Option (JsonNumber × List Symbol) := do
  let (whole, s) := digits s
  if whole = [] ∨ (whole.head? = some '0' ∧ whole ≠ ['0']) then none
  let (fraction, s) ← fraction? s
  let (exponent, s) ← exponent? s
  return (numberOf negative whole fraction exponent, s)

theorem number?_minus (negative : Bool) (n : Nat) (r : List Symbol) :
    number? (marks (minus negative ++ Nat.toDigits 10 n) ++ r) =
      unsigned? negative (marks (Nat.toDigits 10 n) ++ r) := by
  cases negative with
  | true => rfl
  | false =>
    obtain ⟨c, cs, hcs, hdigit⟩ := toDigits_eq_cons n
    have hne : c ≠ '-' := ne_of_isDigit hdigit (by decide)
    simp only [minus, hcs, Bool.false_eq_true, if_false, List.nil_append, marks_cons,
      List.cons_append, number?]
    split
    next heq =>
      injection heq with hhead
      exact absurd (Option.some.inj hhead) hne
    next => rfl

theorem number?_written (negative : Bool) (n : Nat) {r s t : List Symbol}
    {fraction : Option (List Char)} {exponent : Option Int}
    (hr : ∀ s ∈ r.head?, isDigit s = false) (hfraction : fraction? r = some (fraction, s))
    (hexponent : exponent? s = some (exponent, t)) :
    number? (marks (minus negative ++ Nat.toDigits 10 n) ++ r) =
      some (numberOf negative (Nat.toDigits 10 n) fraction exponent, t) := by
  rw [number?_minus, unsigned?]
  simp only [digits_toDigits n hr, if_neg (toDigits_wellFormed n), hfraction, hexponent,
    Option.bind_eq_bind, Option.bind_some, Option.pure_def]

-- Without a point there is no fraction, and without its letter no exponent.

theorem fraction?_of_ne {r : List Symbol} (h : ∀ s ∈ r.head?, s ≠ some '.') :
    fraction? r = some (none, r) := by
  unfold fraction?
  split
  next rest => exact absurd rfl (h _ rfl)
  next => rfl

theorem exponent?_of_ne {r : List Symbol} (h : ∀ s ∈ r.head?, s ≠ some 'e' ∧ s ≠ some 'E') :
    exponent? r = some (none, r) := by
  unfold exponent?
  split
  next e rest =>
    have he := h _ rfl
    rw [if_neg (by simpa using he)]
  next => rfl

theorem writeInt_eq (n : Int) :
    writeInt n = minus (decide (n < 0)) ++ Nat.toDigits 10 n.natAbs := by
  by_cases h : n < 0
  · simp [writeInt, minus, h]
  · simp [writeInt, minus, h]

theorem sign_minus (negative : Bool) (n : Nat) (r : List Symbol) :
    sign (marks (minus negative ++ Nat.toDigits 10 n) ++ r) =
      (negative, marks (Nat.toDigits 10 n) ++ r) := by
  cases negative with
  | true => rfl
  | false =>
    obtain ⟨c, cs, hcs, hdigit⟩ := toDigits_eq_cons n
    have hminus : c ≠ '-' := ne_of_isDigit hdigit (by decide)
    have hplus : c ≠ '+' := ne_of_isDigit hdigit (by decide)
    simp [minus, hcs, sign, hminus, hplus]

theorem natAbs_signed (n : Int) :
    (if decide (n < 0) = true then -(n.natAbs : Int) else n.natAbs) = n := by
  simp only [decide_eq_true_eq]
  split <;> omega

theorem exponent?_written (n : Int) {r : List Symbol} (h : ∀ s ∈ r.head?, isDigit s = false) :
    exponent? (some 'e' :: marks (writeInt n) ++ r) = some (some n, r) := by
  rw [writeInt_eq, List.cons_append, exponent?, if_pos (.inl rfl)]
  simp only [sign_minus, digits_toDigits _ h, Nat.toDigits_ne_nil, if_false,
    Nat.ofDigitChars_ten_toDigits, natAbs_signed]

theorem numberOf_integer (n : Int) :
    numberOf (decide (n < 0)) (Nat.toDigits 10 n.natAbs) none none = .integer n := by
  simp only [numberOf, Nat.ofDigitChars_ten_toDigits]
  by_cases h : n < 0
  · have hne : n.natAbs ≠ 0 := by omega
    simp only [h, decide_true, if_true, hne, if_false, JsonNumber.integer.injEq]
    omega
  · simp only [h, decide_false, Bool.false_eq_true, if_false, JsonNumber.integer.injEq]
    omega

/-- Digits whose number fits 64 bits are all taken. -/
theorem significand_of_lt {n : Nat} {ds : List Char}
    (h : Nat.ofDigitChars 10 ds n < UInt64.size) :
    significand n ds = (Nat.ofDigitChars 10 ds n, []) := by
  induction ds generalizing n with
  | nil => rfl
  | cons d ds ih =>
    have hfits : Nat.ofDigitChars 10 [d] n < UInt64.size :=
      Nat.lt_of_le_of_lt (le_ofDigitChars ds _) h
    rw [significand, if_pos hfits]
    exact ih h

theorem significand_toDigits {n : Nat} (h : n < UInt64.size) :
    significand 0 (Nat.toDigits 10 n) = (n, []) := by
  have hdigits : Nat.ofDigitChars 10 (Nat.toDigits 10 n) 0 = n := Nat.ofDigitChars_ten_toDigits
  rw [significand_of_lt (by rwa [hdigits]), hdigits]

theorem numberOf_decimal (negative : Bool) (significand : UInt64) (exponent : Int) :
    numberOf negative (Nat.toDigits 10 significand.toNat) none (some exponent) =
      .decimal negative significand exponent := by
  simp [numberOf, significand_toDigits significand.toNat_lt, Json.significand]

theorem number?_writeNumber (n : JsonNumber) {r : List Symbol} (h : Ends r) :
    number? (marks (writeNumber n) ++ r) = some (n, r) := by
  have hdigit : ∀ s ∈ r.head?, isDigit s = false := fun s hs => (h s hs).1
  cases n with
  | integer n =>
    have hfraction := fraction?_of_ne fun s hs => (h s hs).2.1
    have hexponent := exponent?_of_ne fun s hs => (h s hs).2.2
    rw [writeNumber, writeInt_eq, number?_written _ _ hdigit hfraction hexponent,
      numberOf_integer]
  | decimal negative significand exponent =>
    have hletter : ∀ s ∈ (some 'e' :: marks (writeInt exponent) ++ r).head?,
        isDigit s = false ∧ s ≠ some '.' := by
      intro s hs
      obtain rfl := Option.some.inj hs
      decide
    have hfraction := fraction?_of_ne fun s hs => (hletter s hs).2
    have hwrite : marks (writeNumber (.decimal negative significand exponent)) ++ r =
        marks (minus negative ++ Nat.toDigits 10 significand.toNat) ++
          (some 'e' :: marks (writeInt exponent) ++ r) := by
      simp [writeNumber, minus]
    rw [hwrite, number?_written negative _ (fun s hs => (hletter s hs).1) hfraction
      (exponent?_written exponent hdigit), numberOf_decimal]

theorem skipSpace_cons {s : Symbol} (h : isSpace s = false) (r : List Symbol) :
    skipSpace (s :: r) = s :: r := by
  simp [skipSpace, h]

theorem ends_nil : Ends [] := by
  intro s hs
  cases hs

theorem ends_writeElements (vs : List Json) (r : List Symbol) :
    Ends (marks (writeElements vs) ++ r) := by
  intro s hs
  cases vs with
  | nil => obtain rfl := Option.some.inj hs; decide
  | cons v rest => obtain rfl := Option.some.inj hs; decide

theorem ends_writeMembers (ms : List (Option String × Json)) (r : List Symbol) :
    Ends (marks (writeMembers ms) ++ r) := by
  intro s hs
  cases ms with
  | nil => obtain rfl := Option.some.inj hs; decide
  | cons m rest => obtain rfl := Option.some.inj hs; decide

/-- A number begins with its sign or a digit, and so with no other mark of the grammar. -/
theorem writeNumber_eq_cons (n : JsonNumber) :
    ∃ c cs, writeNumber n = c :: cs ∧ ∀ d : Char, d.isDigit = false → d ≠ '-' → c ≠ d := by
  have hsigned : ∀ negative m cs, ∃ c ds, minus negative ++ Nat.toDigits 10 m ++ cs = c :: ds ∧
      ∀ d : Char, d.isDigit = false → d ≠ '-' → c ≠ d := by
    intro negative m cs
    cases negative with
    | true => exact ⟨_, _, rfl, fun d _ hd => hd.symm⟩
    | false =>
      obtain ⟨c, ds, hds, hdigit⟩ := toDigits_eq_cons m
      exact ⟨c, ds ++ cs, by simp [minus, hds], fun d hd _ => ne_of_isDigit hdigit hd⟩
  cases n with
  | integer n => simpa [writeNumber, writeInt_eq] using hsigned (decide (n < 0)) n.natAbs []
  | decimal negative significand exponent =>
    simpa [writeNumber, minus] using hsigned negative significand.toNat ('e' :: writeInt exponent)

/-- What a value begins with is no blank and no end of an array. -/
theorem write_eq_cons (j : Json) :
    ∃ c cs, write j = c :: cs ∧ isSpace (some c) = false ∧ c ≠ ']' := by
  cases j with
  | null => exact ⟨_, _, rfl, by decide, by decide⟩
  | bool b => cases b <;> exact ⟨_, _, rfl, by decide, by decide⟩
  | number n =>
    obtain ⟨c, cs, hcs, hne⟩ := writeNumber_eq_cons n
    refine ⟨c, cs, by rw [write, hcs], ?_, hne ']' rfl (by decide)⟩
    simp [isSpace, hne ' ' rfl (by decide), hne '\n' rfl (by decide), hne '\r' rfl (by decide),
      hne '\t' rfl (by decide)]
  | string t => cases t <;> exact ⟨_, _, rfl, by decide, by decide⟩
  | array vs =>
    cases vs with
    | nil => exact ⟨_, _, rfl, by decide, by decide⟩
    | cons v rest => exact ⟨'[', write v ++ writeElements rest, rfl, by decide, by decide⟩
  | object ms =>
    cases ms with
    | nil => exact ⟨_, _, rfl, by decide, by decide⟩
    | cons m rest =>
      exact ⟨'\x7b', writeString m.1 ++ ':' :: write m.2 ++ writeMembers rest, rfl,
        by decide, by decide⟩

theorem scalar?_number (n : JsonNumber) {r : List Symbol} (h : Ends r) :
    scalar? (marks (writeNumber n) ++ r) = some (.number n, r) := by
  have hread := number?_writeNumber n h
  obtain ⟨c, cs, hcs, hne⟩ := writeNumber_eq_cons n
  have hn : 'n' ≠ c := (hne 'n' rfl (by decide)).symm
  have ht : 't' ≠ c := (hne 't' rfl (by decide)).symm
  have hf : 'f' ≠ c := (hne 'f' rfl (by decide)).symm
  rw [hcs] at hread ⊢
  simp only [scalar?, marks_cons, List.cons_append, afterWord?, hn, ht, hf, if_false] at hread ⊢
  rw [hread]
  rfl

theorem key?_written (k : Option String) (r : List Symbol) :
    key? (marks (writeString k) ++ some ':' :: r) = some (k, r) := by
  obtain ⟨body, hwrite, hread⟩ := stringBody?_writeString k (some ':' :: r)
  rw [hwrite, List.cons_append, key?, skipSpace_cons (by decide)]
  simp only [hread, skipSpace_cons (show isSpace (some ':') = false by decide)]

/-- With this fuel the reader takes off the front what was written there. -/
structure ReadsBack (fuel : Nat) : Prop where
  value : ∀ j r, 2 * (write j).length ≤ fuel → Ends r →
    value? fuel (marks (write j) ++ r) = some (j, r)
  array : ∀ v vs acc r, 2 * (write v ++ writeElements vs).length < fuel →
    arrayBody? fuel acc (marks (write v ++ writeElements vs) ++ r) =
      some (.array (acc.reverse ++ v :: vs), r)
  object : ∀ k v ms acc r, 2 * (writeString k ++ ':' :: write v ++ writeMembers ms).length < fuel →
    objectBody? fuel acc (marks (writeString k ++ ':' :: write v ++ writeMembers ms) ++ r) =
      some (.object (acc.reverse ++ (k, v) :: ms), r)

theorem value?_scalar {c : Char} (hspace : isSpace (some c) = false) (hquote : c ≠ '"')
    (hbracket : c ≠ '[') (hbrace : c ≠ '\x7b') (fuel : Nat) (r : List Symbol) :
    value? (fuel + 1) (some c :: r) = scalar? (some c :: r) := by
  rw [value?, skipSpace_cons hspace]
  split
  next heq => simp [hquote] at heq
  next heq => simp [hbracket] at heq
  next heq => simp [hbrace] at heq
  next => rfl

theorem value?_array {c : Char} (hspace : isSpace (some c) = false) (hne : c ≠ ']') (fuel : Nat)
    (r : List Symbol) :
    value? (fuel + 1) (some '[' :: some c :: r) = arrayBody? fuel [] (some c :: r) := by
  rw [value?, skipSpace_cons (by decide)]
  split
  next heq => simp at heq
  next heq =>
    obtain rfl := (List.cons.inj heq).2
    rw [skipSpace_cons hspace]
    split
    next hend => simp [hne] at hend
    next => rfl
  next heq => simp at heq
  next hbracket _ => exact absurd rfl (hbracket _)

namespace ReadsBack

variable {fuel : Nat}

theorem value_succ (h : ReadsBack fuel) (j : Json) (r : List Symbol)
    (hfuel : 2 * (write j).length ≤ fuel + 1) (hr : Ends r) :
    value? (fuel + 1) (marks (write j) ++ r) = some (j, r) := by
  cases j with
  | null => rfl
  | bool b => cases b <;> rfl
  | number n =>
    have hscalar := scalar?_number n hr
    obtain ⟨c, cs, hcs, hne⟩ := writeNumber_eq_cons n
    obtain ⟨d, ds, hds, hspace, -⟩ := write_eq_cons (.number n)
    rw [write, hcs] at hds
    obtain ⟨rfl, -⟩ := List.cons.inj hds
    rw [hcs] at hscalar
    rw [write, hcs]
    exact (value?_scalar hspace (hne _ rfl (by decide)) (hne _ rfl (by decide))
      (hne _ rfl (by decide)) fuel _).trans hscalar
  | string t =>
    obtain ⟨body, hwrite, hread⟩ := stringBody?_writeString t r
    rw [write, hwrite, List.cons_append, value?, skipSpace_cons (by decide)]
    simp only [hread, Option.map_some]
  | array vs =>
    cases vs with
    | nil => rfl
    | cons v rest =>
      obtain ⟨c, cs, hcs, hspace, hne⟩ := write_eq_cons v
      have hbody := h.array v rest [] r (by simp [write] at hfuel ⊢; omega)
      rw [hcs] at hbody
      rw [write, hcs]
      exact (value?_array hspace hne fuel _).trans hbody
  | object ms =>
    cases ms with
    | nil => rfl
    | cons m rest =>
      obtain ⟨k, v⟩ := m
      have hbody := h.object k v rest [] r (by simp [write] at hfuel ⊢; omega)
      obtain ⟨body, hwrite, -⟩ := stringBody?_writeString k []
      simp only [marks_append, hwrite, List.cons_append] at hbody
      rw [write]
      simp only [marks_cons, marks_append, hwrite, List.cons_append]
      exact hbody

theorem array_succ (h : ReadsBack fuel) (v : Json) (vs acc : List Json) (r : List Symbol)
    (hfuel : 2 * (write v ++ writeElements vs).length < fuel + 1) :
    arrayBody? (fuel + 1) acc (marks (write v ++ writeElements vs) ++ r) =
      some (.array (acc.reverse ++ v :: vs), r) := by
  have hvalue := h.value v (marks (writeElements vs) ++ r) (by simp at hfuel; omega)
    (ends_writeElements vs r)
  rw [marks_append, List.append_assoc, arrayBody?, hvalue]
  cases vs with
  | nil => simp [writeElements, skipSpace, isSpace]
  | cons w rest =>
    have hbody := h.array w rest (v :: acc) r (by
      obtain ⟨c, cs, hcs, -⟩ := write_eq_cons v
      simp [writeElements, hcs] at hfuel ⊢
      omega)
    simpa [writeElements, skipSpace, isSpace] using hbody

theorem object_succ (h : ReadsBack fuel) (k : Option String) (v : Json)
    (ms acc : List (Option String × Json)) (r : List Symbol)
    (hfuel : 2 * (writeString k ++ ':' :: write v ++ writeMembers ms).length < fuel + 1) :
    objectBody? (fuel + 1) acc
        (marks (writeString k ++ ':' :: write v ++ writeMembers ms) ++ r) =
      some (.object (acc.reverse ++ (k, v) :: ms), r) := by
  have hkey := key?_written k (marks (write v) ++ (marks (writeMembers ms) ++ r))
  have hvalue := h.value v (marks (writeMembers ms) ++ r) (by simp at hfuel; omega)
    (ends_writeMembers ms r)
  simp only [marks_append, marks_cons, List.append_assoc, List.cons_append] at hkey ⊢
  simp only [objectBody?, hkey, hvalue]
  cases ms with
  | nil => simp [writeMembers, skipSpace, isSpace]
  | cons m rest =>
    obtain ⟨l, w⟩ := m
    have hbody := h.object l w rest ((k, v) :: acc) r (by
      simp [writeMembers] at hfuel ⊢
      omega)
    simpa [writeMembers, skipSpace, isSpace] using hbody

end ReadsBack

theorem readsBack (fuel : Nat) : ReadsBack fuel := by
  induction fuel with
  | zero =>
    refine ⟨fun j r hfuel _ => ?_, fun v vs acc r hfuel => absurd hfuel (Nat.not_lt_zero _),
      fun k v ms acc r hfuel => absurd hfuel (Nat.not_lt_zero _)⟩
    obtain ⟨c, cs, hcs, -⟩ := write_eq_cons j
    simp [hcs] at hfuel
  | succ fuel ih => exact ⟨ih.value_succ, ih.array_succ, ih.object_succ⟩

/-- A written document reads back as the same tree, whatever the tree is. -/
theorem ofSymbols?_write (j : Json) : ofSymbols? (marks (write j)) = some j := by
  have hread := (readsBack (2 * (marks (write j)).length + 2)).value j []
    (by simp [marks]) ends_nil
  rw [List.append_nil] at hread
  simp [ofSymbols?, hread, skipSpace]

theorem ofString?_toText (j : Json) : ofString? j.toText = some j := by
  simpa [ofString?, toText, marks] using ofSymbols?_write j

theorem ofBytes?_toText (j : Json) : ofBytes? (Utf8.ofString j.toText) = some j := by
  simpa [ofBytes?, Utf8.ofString, toText, marks] using ofSymbols?_write j

end PlanQuota.Json
