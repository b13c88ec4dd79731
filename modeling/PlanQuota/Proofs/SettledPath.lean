import PlanQuota.Proofs.Endpoint
import PlanQuota.Proofs.Escapes

/-!
Paths that reading leaves as they are. A segment is settled if it holds no mark and no slash and
does not stand for a dot; escaped dots are the only other spelling of dots, and no character is
escaped to one. Whatever is read as the path of a web URL has settled segments, so the text of such
a path can be read again, or be read on, without a change.
-/
namespace PlanQuota

namespace Percent

variable {marks : Char → Bool}

theorem encode_cons (c : Char) (r : List Char) :
    encode marks (c :: r) = encodeChar marks c ++ encode marks r := rfl

theorem encodeChar_of_mark {c : Char} (h : marks c = true) :
    ∃ b ∈ Utf8.encodeChar c, ∃ t, encodeChar marks c = escape b ++ t := by
  have hpos := Utf8.length_encodeChar_pos c
  cases hbytes : Utf8.encodeChar c with
  | nil => simp [hbytes] at hpos
  | cons b rest =>
    refine ⟨b, List.mem_cons_self, rest.flatMap escape, ?_⟩
    simp [encodeChar, h, hbytes]

theorem encodeChar_of_not_mark {c : Char} (h : marks c = false) : encodeChar marks c = [c] := by
  simp [encodeChar, h]

/-- A text without marks is written as it is. -/
theorem encode_of_forall_not {s : List Char} (h : ∀ c ∈ s, marks c = false) :
    encode marks s = s := by
  induction s with
  | nil => rfl
  | cons c rest ih =>
    have hrest := ih fun d hd => h d (List.mem_cons_of_mem c hd)
    rw [encode_cons, encodeChar_of_not_mark (h c List.mem_cons_self), hrest]
    rfl

/-- What is not a percent sign was not escaped. -/
theorem encode_eq_cons {s t : List Char} {c : Char} (hc : c ≠ '%')
    (h : encode marks s = c :: t) : ∃ r, s = c :: r ∧ encode marks r = t := by
  cases s with
  | nil => cases h
  | cons d r =>
    rw [encode_cons] at h
    cases hd : marks d with
    | true =>
      obtain ⟨b, -, u, hu⟩ := encodeChar_of_mark hd
      rw [hu] at h
      exact absurd (List.cons.inj h).1.symm hc
    | false =>
      rw [encodeChar_of_not_mark hd] at h
      obtain ⟨rfl, ht⟩ := List.cons.inj h
      exact ⟨r, rfl, ht⟩

theorem eq_nil_of_encode_eq_nil {s : List Char} (h : encode marks s = []) : s = [] := by
  cases s with
  | nil => rfl
  | cons d r =>
    rw [encode_cons] at h
    obtain ⟨hchar, -⟩ := List.append_eq_nil_iff.mp h
    cases hd : marks d with
    | true =>
      obtain ⟨b, -, u, hu⟩ := encodeChar_of_mark hd
      rw [hu] at hchar
      cases hchar
    | false =>
      rw [encodeChar_of_not_mark hd] at hchar
      cases hchar

end Percent

namespace UrlPath

open Percent

theorem inPath_of_dot {c : Char} (h : c = '.' ∨ c = '%' ∨ c = '2' ∨ c = 'e' ∨ c = 'E') :
    inPath c = false := by
  obtain rfl | rfl | rfl | rfl | rfl := h <;> decide

/-- The spelling of a dot as an escape is not the escape of a character of a path. -/
theorem encode_eq_escaped_dot {s t : List Char} {e : Char} (he : e = 'e' ∨ e = 'E')
    (h : encode inPath s = '%' :: '2' :: e :: t) : ∃ r, s = '%' :: '2' :: e :: r := by
  cases s with
  | nil => cases h
  | cons d r =>
    rw [encode_cons] at h
    cases hd : inPath d with
    | true =>
      -- The escaped byte would be the point, which is no byte of a marked character.
      obtain ⟨b, hb, u, hu⟩ := encodeChar_of_mark hd
      rw [hu] at h
      obtain ⟨-, h⟩ := List.cons.inj h
      obtain ⟨hhigh, h⟩ := List.cons.inj h
      obtain ⟨hlow, -⟩ := List.cons.inj h
      have htwo : ∀ n < 16, hexDigit n = '2' → n = 2 := by decide
      have hfourteen : ∀ n < 16, hexDigit n = 'e' ∨ hexDigit n = 'E' → n = 14 := by decide
      have hbound := b.toNat_lt
      have hquotient := htwo (b.toNat / 16) (by omega) hhigh
      have hrest := hfourteen (b.toNat % 16) (by omega) (hlow ▸ he)
      have hpoint : d.toNat = '.'.toNat := by
        have hpoint : '.'.toNat = 46 := rfl
        obtain hsame | hlarge := Utf8.mem_encodeChar hb
        · omega
        · omega
      obtain rfl : d = '.' := Char.toNat_inj.mp hpoint
      rw [inPath_of_dot (.inl rfl)] at hd
      cases hd
    | false =>
      rw [encodeChar_of_not_mark hd, List.singleton_append] at h
      obtain ⟨rfl, htwo⟩ := List.cons.inj h
      obtain ⟨r, rfl, hdigit⟩ := encode_eq_cons (by decide) htwo
      have hsign : e ≠ '%' := by
        rintro rfl
        exact absurd he (by decide)
      obtain ⟨r, rfl, -⟩ := encode_eq_cons hsign hdigit
      exact ⟨r, rfl⟩

/-- A text that begins with no spelling of a dot. -/
structure Undotted (s : List Char) : Prop where
  dot : ∀ r, s ≠ '.' :: r
  escaped : ∀ e r, e = 'e' ∨ e = 'E' → s ≠ '%' :: '2' :: e :: r

theorem Undotted.undotted_eq {s : List Char} (h : Undotted s) : undotted s = s := by
  unfold undotted
  split
  next e r => rw [if_neg fun he => h.escaped e r he rfl]
  next r => exact absurd rfl (h.dot r)
  next => rfl

theorem Undotted.encode {s : List Char} (h : Undotted s) : Undotted (encode inPath s) where
  dot t ht := by
    obtain ⟨r, hr, -⟩ := encode_eq_cons (by decide) ht
    exact h.dot r hr
  escaped e t he ht := by
    obtain ⟨r, hr⟩ := encode_eq_escaped_dot he ht
    exact h.escaped e r he hr

/-- Escaping neither makes a dot nor hides one. -/
theorem undotted_encode (s : List Char) :
    undotted (encode inPath s) = encode inPath (undotted s) := by
  have hplain {t : List Char} (ht : Undotted t) :
      undotted (encode inPath t) = encode inPath (undotted t) := by
    rw [ht.encode.undotted_eq, ht.undotted_eq]
  induction s using undotted.induct with
  | case1 e r he ih =>
    have hwritten : encode inPath ('%' :: '2' :: e :: r) = '%' :: '2' :: e :: encode inPath r := by
      have hmark : inPath e = false := inPath_of_dot (.inr (.inr (.inr he)))
      rw [encode_cons, encode_cons, encode_cons, encodeChar_of_not_mark hmark]
      rfl
    rw [hwritten, undotted, if_pos he, ih, undotted, if_pos he]
    rfl
  | case2 e r he =>
    refine hplain ⟨fun r h => ?_, fun e' r' he' h => ?_⟩
    · cases h
    · cases h
      exact he he'
  | case3 r ih =>
    have hwritten : encode inPath ('.' :: r) = '.' :: encode inPath r := rfl
    rw [hwritten, undotted, ih, undotted]
    rfl
  | case4 t hescaped hdot =>
    exact hplain ⟨fun r h => hdot r h, fun e r _ h => hescaped e r h⟩

theorem encode_eq_singleton_dot {s : List Char} (h : encode inPath s = ['.']) : s = ['.'] := by
  obtain ⟨r, rfl, hr⟩ := encode_eq_cons (by decide) h
  rw [eq_nil_of_encode_eq_nil hr]

theorem isSingleDot_encode (s : List Char) : isSingleDot (encode inPath s) = isSingleDot s := by
  simp only [isSingleDot, undotted_encode, decide_eq_decide]
  constructor
  · exact encode_eq_singleton_dot
  · intro h
    rw [h]
    rfl

theorem isDoubleDot_encode (s : List Char) : isDoubleDot (encode inPath s) = isDoubleDot s := by
  simp only [isDoubleDot, undotted_encode, decide_eq_decide]
  constructor
  · intro h
    obtain ⟨r, hr, hrest⟩ := encode_eq_cons (by decide) h
    rw [hr, encode_eq_singleton_dot hrest]
  · intro h
    rw [h]
    rfl

/-- A segment that reading leaves as it is. -/
structure Settled (s : List Char) : Prop where
  noMark : ∀ c ∈ s, inPath c = false
  noSlash : ∀ c ∈ s, c ≠ '/' ∧ c ≠ '\\'
  notSingleDot : isSingleDot s = false
  notDoubleDot : isDoubleDot s = false

def isSettled (s : List Char) : Bool :=
  s.all (fun c => !inPath c && c ≠ '/' && c ≠ '\\') && !isSingleDot s && !isDoubleDot s

theorem isSettled_iff {s : List Char} : isSettled s = true ↔ Settled s := by
  simp only [isSettled, Bool.and_eq_true, List.all_eq_true, Bool.not_eq_true', decide_eq_true_eq]
  constructor
  · rintro ⟨⟨hchars, hsingle⟩, hdouble⟩
    exact ⟨fun c hc => (hchars c hc).1.1, fun c hc => ⟨(hchars c hc).1.2, (hchars c hc).2⟩,
      hsingle, hdouble⟩
  · intro h
    exact ⟨⟨fun c hc => ⟨⟨h.noMark c hc, (h.noSlash c hc).1⟩, (h.noSlash c hc).2⟩,
      h.notSingleDot⟩, h.notDoubleDot⟩

instance (s : List Char) : Decidable (Settled s) := decidable_of_iff _ isSettled_iff

theorem settled_nil : Settled [] := by decide

theorem Settled.withoutLayout_eq {s : List Char} (h : Settled s) : withoutLayout s = s := by
  refine List.filter_eq_self.mpr fun c hc => ?_
  have hmark := h.noMark c hc
  -- layout is a control, and controls are marks of a path
  have hlayout : ∀ d, isLayout d = true → inPath d = true := by
    intro d hd
    simp only [isLayout, Bool.or_eq_true, decide_eq_true_eq] at hd
    obtain (rfl | rfl) | rfl := hd <;> decide
  cases hc : isLayout c with
  | true => simp [hlayout c hc] at hmark
  | false => rfl

/-- Every segment that is no dot is settled once it is written. -/
theorem settled_encode {s : List Char} (hslash : ∀ c ∈ s, c ≠ '/' ∧ c ≠ '\\')
    (hsingle : isSingleDot s = false) (hdouble : isDoubleDot s = false) :
    Settled (encode inPath s) where
  noMark := forall_mem_encode (q := (inPath · = false)) (by decide) (by decide) fun _ _ h => h
  noSlash := forall_mem_encode (q := fun c => c ≠ '/' ∧ c ≠ '\\') (by decide) (by decide)
    fun c hc _ => hslash c hc
  notSingleDot := by rw [isSingleDot_encode, hsingle]
  notDoubleDot := by rw [isDoubleDot_encode, hdouble]

section Reading

variable {r : SchemeRules} (hfile : r.isFile = false)

theorem isSlash_of_special (hspecial : r.isSpecial = true) {c : Char} :
    r.isSlash c = false ↔ c ≠ '/' ∧ c ≠ '\\' := by
  simp [SchemeRules.isSlash, hspecial]

theorem trimFront_of_not_file (path : List (List Char)) (h : r.isFile = false) :
    trimFront r path = path := by
  unfold trimFront
  split
  · simp [h]
  · rfl

theorem Trail.readAll_cons {t : Trail} {s : List Char} {rest : List (List Char)} (h : rest ≠ []) :
    t.readAll r (s :: rest) = (t.read r s false).readAll r rest := by
  rw [Trail.readAll]
  exact h

include hfile

/-- A settled segment is added as it is. -/
theorem Trail.read_of_settled {s : List Char} (h : Settled s) (t : Trail) (isLast : Bool) :
    t.read r s isLast = { t with segments := s :: t.segments } := by
  simp only [Trail.read, hfile, Bool.false_and, Bool.false_eq_true, if_false, h.withoutLayout_eq,
    Trail.resolve, h.notDoubleDot, h.notSingleDot, Trail.push, Trail.add,
    encode_of_forall_not h.noMark]

theorem Trail.readAll_of_settled {pieces : List (List Char)} (h : ∀ s ∈ pieces, Settled s)
    (t : Trail) : t.readAll r pieces = { t with segments := pieces.reverse ++ t.segments } := by
  induction t, pieces using Trail.readAll.induct r with
  | case1 t => rfl
  | case2 t s =>
    rw [Trail.readAll, Trail.read_of_settled hfile (h s List.mem_cons_self)]
    rfl
  | case3 t s rest hrest ih =>
    rw [List.forall_mem_cons] at h
    rw [Trail.readAll_cons hrest, ih h.2, Trail.read_of_settled hfile h.1]
    simp

-- Whatever is read, the segments are settled, and after the last one there is one at least.

theorem Trail.read_of_not_file (t : Trail) (s : List Char) (isLast : Bool) :
    t.read r s isLast = t.resolve r (withoutLayout s) isLast := by
  simp only [Trail.read, hfile, Bool.false_and, Bool.false_eq_true, if_false]

theorem Trail.push_of_not_file (t : Trail) (s : List Char) : t.push r s = t.add s := by
  simp only [Trail.push, hfile, Bool.false_and, Bool.false_eq_true, if_false]

omit hfile in
theorem Trail.settled_up {t : Trail} (h : ∀ s ∈ t.segments, Settled s) :
    ∀ s ∈ t.up.segments, Settled s := by
  unfold Trail.up
  split
  next first rest hsegments =>
    split
    · exact h
    · rw [hsegments, List.forall_mem_cons] at h
      exact h.2
  next => exact h

omit hfile in
theorem Trail.settled_add {t : Trail} (h : ∀ s ∈ t.segments, Settled s) {s : List Char}
    (hs : Settled (encode inPath s)) : ∀ s' ∈ (t.add s).segments, Settled s' :=
  List.forall_mem_cons.mpr ⟨hs, h⟩

theorem Trail.settled_read {t : Trail} (h : ∀ s ∈ t.segments, Settled s) {s : List Char}
    (hslash : ∀ c ∈ s, c ≠ '/' ∧ c ≠ '\\') (isLast : Bool) :
    ∀ s' ∈ (t.read r s isLast).segments, Settled s' := by
  have hkept : ∀ c ∈ withoutLayout s, c ≠ '/' ∧ c ≠ '\\' :=
    fun c hc => hslash c (List.mem_filter.mp hc).1
  rw [Trail.read_of_not_file hfile, Trail.resolve]
  split
  · split
    · exact Trail.settled_add (Trail.settled_up h) settled_nil
    · exact Trail.settled_up h
  next hdouble =>
    split
    · split
      · exact Trail.settled_add h settled_nil
      · exact h
    next hsingle =>
      rw [Trail.push_of_not_file hfile]
      apply Trail.settled_add h
      exact settled_encode hkept (by simpa using hsingle) (by simpa using hdouble)

theorem Trail.segments_read_last_ne_nil (t : Trail) (s : List Char) :
    (t.read r s true).segments ≠ [] := by
  rw [Trail.read_of_not_file hfile, Trail.resolve]
  split
  · exact List.cons_ne_nil _ _
  · split
    · exact List.cons_ne_nil _ _
    · rw [Trail.push_of_not_file hfile]
      exact List.cons_ne_nil _ _

theorem Trail.settled_readAll {pieces : List (List Char)}
    (hslash : ∀ s ∈ pieces, ∀ c ∈ s, c ≠ '/' ∧ c ≠ '\\') {t : Trail}
    (h : ∀ s ∈ t.segments, Settled s) : ∀ s ∈ (t.readAll r pieces).segments, Settled s := by
  induction t, pieces using Trail.readAll.induct r with
  | case1 t => exact h
  | case2 t s => exact Trail.settled_read hfile h (hslash s List.mem_cons_self) true
  | case3 t s rest hrest ih =>
    rw [List.forall_mem_cons] at hslash
    rw [Trail.readAll_cons hrest]
    exact ih hslash.2 (Trail.settled_read hfile h hslash.1 false)

theorem Trail.segments_readAll_ne_nil {pieces : List (List Char)} (hne : pieces ≠ []) (t : Trail) :
    (t.readAll r pieces).segments ≠ [] := by
  induction t, pieces using Trail.readAll.induct r with
  | case1 t => exact absurd rfl hne
  | case2 t s => exact Trail.segments_read_last_ne_nil hfile t s
  | case3 t s rest hrest ih =>
    rw [Trail.readAll_cons hrest]
    exact ih hrest

end Reading

/-- The text of segments, each after a slash. -/
theorem toList_toText_segments (segments : List (List Char)) :
    (UrlPath.segments (segments.map String.ofList)).toText.toList =
      segments.flatMap ('/' :: ·) := by
  rw [toText, String.toList_join, List.map_map, List.flatMap_map]
  simp

theorem flatMap_slash_cons (s : List Char) (others : List (List Char)) :
    (s :: others).flatMap ('/' :: ·) = '/' :: ['/'].intercalate (s :: others) := by
  induction others generalizing s with
  | nil => simp
  | cons second rest ih =>
    rw [List.flatMap_cons, ih second, List.intercalate_cons_cons]
    simp

section Paths

variable {r : SchemeRules} (hspecial : r.isSpecial = true) (hfile : r.isFile = false)
include hspecial hfile

/-- Settled segments are read on as they are. -/
theorem extend_of_settled (segments : List (List Char)) {s : List Char} {others : List (List Char)}
    (h : ∀ s' ∈ s :: others, Settled s') :
    extend r segments (['/'].intercalate (s :: others)) =
      .segments ((segments.reverse ++ s :: others).map String.ofList) := by
  have hpieces : splitBy r.isSlash (['/'].intercalate (s :: others)) = s :: others := by
    refine splitBy_intercalate (by simp [SchemeRules.isSlash]) fun s' hs' c hc => ?_
    exact (isSlash_of_special hspecial).mpr ((h s' hs').noSlash c hc)
  rw [extend, trail, hpieces, Trail.readAll_of_settled hfile h, Trail.path,
    trimFront_of_not_file _ hfile]
  simp

/-- The text of a settled path is read back as that path. -/
theorem ofText_of_settled {segments : List (List Char)} (hne : segments ≠ [])
    (h : ∀ s ∈ segments, Settled s) :
    ofText r (segments.flatMap ('/' :: ·)) = .segments (segments.map String.ofList) := by
  have hafter (rest : List Char) : r.afterSlash? ('/' :: rest) = some rest := by
    simp [SchemeRules.afterSlash?, isLayout, SchemeRules.isSlash]
  obtain ⟨s, others, rfl⟩ := List.exists_cons_of_ne_nil hne
  have hextend := extend_of_settled hspecial hfile [] h
  rw [flatMap_slash_cons, ofText, if_neg (by simp [hspecial]), rootedTrail, hafter]
  simpa [extend] using hextend

/-- Every path that is read is settled, and has a segment. -/
theorem exists_settled_of_ofText (text : List Char) :
    ∃ segments, ofText r text = .segments (segments.map String.ofList) ∧ segments ≠ [] ∧
      ∀ s ∈ segments, Settled s := by
  have hslash : ∀ s ∈ splitBy r.isSlash ((r.afterSlash? text).getD text), ∀ c ∈ s,
      c ≠ '/' ∧ c ≠ '\\' :=
    fun s hs c hc => (isSlash_of_special hspecial).mp (not_of_mem_splitBy s hs c hc)
  refine ⟨(rootedTrail r text).segments.reverse, ?_, ?_, ?_⟩
  · rw [ofText, if_neg (by simp [hspecial]), Trail.path, trimFront_of_not_file _ hfile]
  · rw [ne_eq, List.reverse_eq_nil_iff]
    exact Trail.segments_readAll_ne_nil hfile (splitBy_ne_nil _) _
  · intro s hs
    exact Trail.settled_readAll hfile hslash (by simp) s (List.mem_reverse.mp hs)

end Paths

end UrlPath
end PlanQuota
