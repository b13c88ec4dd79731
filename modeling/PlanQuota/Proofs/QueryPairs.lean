import PlanQuota.Proofs.BelowBase

/-!
The query of a read. A name is written with escapes for all but a few characters, so the marks of a
query stand in it only where they were put, between the pairs and between a name and its value. What
is written is read back as the same pairs, whatever the names are, so two reads with different names
have different URLs.
-/
namespace PlanQuota

namespace Form

/-- The characters of an encoded text. -/
def isEncoded (c : Char) : Bool := isPlain c || c = '+' || c = '%'

/-- The characters of a query that is written from pairs. -/
def isWritten (c : Char) : Bool := isEncoded c || c = '&' || c = '='

theorem isEncoded_of_mem_encode {s : String} : ∀ d ∈ encode s, isEncoded d = true := by
  intro d hd
  obtain ⟨c, -, hd⟩ := List.mem_flatMap.mp hd
  unfold encodeChar at hd
  split at hd
  · rw [List.mem_singleton.mp hd]
    rfl
  · have hplain (h : (!isPlain c) = false) : isEncoded c = true := by
      simp_all [isEncoded]
    exact Percent.forall_mem_encodeChar (q := (isEncoded · = true)) (by decide) (by decide)
      hplain d hd

/-- A mark that no encoding writes is in no encoded text. -/
theorem ne_of_mem_encode {m : Char} (hm : isEncoded m ≠ true) {s : String} :
    ∀ c ∈ encode s, c ≠ m := fun c hc => ne_of_test (isEncoded_of_mem_encode c hc) hm

theorem isWritten_of_mem_pairText {p : String × String} :
    ∀ c ∈ pairText p, isWritten c = true := by
  have hencode (s : String) : ∀ c ∈ encode s, isWritten c = true := by
    intro c hc
    simp [isWritten, isEncoded_of_mem_encode c hc]
  simp only [pairText, List.forall_mem_append, List.forall_mem_cons]
  exact ⟨hencode p.1, by decide, hencode p.2⟩

theorem isAscii_of_isPlain {c : Char} (h : isPlain c = true) : c.toNat < 0x80 := by
  have hupper (hc : c.isUpper = true) : c.val ≤ 'Z'.val := (of_decide_eq_true hc).2
  have hlower (hc : c.isLower = true) : c.val ≤ 'z'.val :=
    of_decide_eq_true ((Bool.and_eq_true _ _).mp hc).2
  have hdigit (hc : c.isDigit = true) : c.val ≤ '9'.val :=
    of_decide_eq_true ((Bool.and_eq_true _ _).mp hc).2
  have hbound {d : Char} (hd : d.toNat < 0x80) (hc : c.val ≤ d.val) : c.toNat < 0x80 :=
    Nat.lt_of_le_of_lt (UInt32.le_iff_toNat_le.mp hc) hd
  rw [isPlain, Bool.or_eq_true] at h
  obtain h | h := h
  · obtain h | h := (Bool.or_eq_true _ _).mp h
    · obtain h | h := (Bool.or_eq_true _ _).mp h
      · exact hbound (by decide) (hupper h)
      · exact hbound (by decide) (hlower h)
    · exact hbound (by decide) (hdigit h)
  · simp only [List.contains_iff_mem, List.mem_cons, List.not_mem_nil, or_false] at h
    obtain rfl | rfl | rfl | rfl := h
    all_goals decide

theorem isAscii_of_isWritten {c : Char} (h : isWritten c = true) : c.toNat < 0x80 := by
  simp only [isWritten, isEncoded, Bool.or_eq_true, decide_eq_true_eq] at h
  obtain (((h | rfl) | rfl) | rfl) | rfl := h
  · exact isAscii_of_isPlain h
  all_goals decide

theorem isWritten_of_mem_write (pairs : List (String × String)) :
    ∀ c ∈ (write pairs).toList, isWritten c = true := by
  intro c hc
  simp only [write, String.toList_ofList] at hc
  induction pairs with
  | nil => simp at hc
  | cons p rest ih =>
    cases rest with
    | nil =>
      simp only [List.map_cons, List.map_nil, List.intercalate_singleton] at hc
      exact isWritten_of_mem_pairText c hc
    | cons q rest =>
      simp only [List.map_cons, List.intercalate_cons_cons, List.mem_append] at hc ih
      obtain (hc | hc) | hc := hc
      · exact isWritten_of_mem_pairText c hc
      · rw [List.mem_singleton.mp hc]
        decide
      · exact ih hc

/-- Plus signs as the spaces that they stand for. -/
def spaced (cs : List Char) : List Char := cs.map fun c => if c = '+' then ' ' else c

theorem spaced_append (cs r : List Char) : spaced (cs ++ r) = spaced cs ++ spaced r :=
  List.map_append

theorem spaced_of_forall_ne {cs : List Char} (h : ∀ c ∈ cs, c ≠ '+') : spaced cs = cs := by
  induction cs with
  | nil => rfl
  | cons c rest ih =>
    rw [List.forall_mem_cons] at h
    have hrest := ih h.2
    simp only [spaced, List.map_cons, if_neg h.1] at hrest ⊢
    rw [hrest]

/-- An encoded character is read as its bytes. -/
theorem decode_encodeChar (c : Char) (r : List Char) :
    Percent.decode (spaced (encodeChar c ++ r)) =
      Utf8.encodeChar c ++ Percent.decode (spaced r) := by
  rw [spaced_append]
  unfold encodeChar Percent.encodeChar
  split
  next hspace =>
    subst hspace
    exact Percent.decode_cons_of_ne (by decide) (spaced r)
  next =>
    split
    · have hescaped : ∀ d ∈ (Utf8.encodeChar c).flatMap Percent.escape, d ≠ '+' := by
        intro d hd
        obtain ⟨b, -, hb⟩ := List.mem_flatMap.mp hd
        exact Percent.forall_mem_escape (q := (· ≠ '+')) (by decide) (by decide) b d hb
      rw [spaced_of_forall_ne hescaped, Percent.decode_flatMap_escape]
    · next hplain =>
      have hc : isPlain c = true := by simpa using hplain
      have hplus : c ≠ '+' := ne_of_test hc (by decide)
      have hsign : c ≠ '%' := ne_of_test hc (by decide)
      rw [spaced_of_forall_ne (by simpa using hplus)]
      exact Percent.decode_cons_of_ne hsign (spaced r)

theorem decode_encode (s : String) : decode (encode s) = s := by
  have hbytes : Percent.decode (spaced (encode s)) = Utf8.ofString s := by
    rw [encode, Utf8.ofString, Utf8.encode]
    induction s.toList with
    | nil => rfl
    | cons c rest ih => rw [List.flatMap_cons, decode_encodeChar, ih, List.flatMap_cons]
  calc decode (encode s)
    _ = Utf8.toStringLossy (Percent.decode (spaced (encode s))) := rfl
    _ = Utf8.toStringLossy (Utf8.ofString s) := by rw [hbytes]
    _ = s := Utf8.toStringLossy_ofString s

theorem readPair_pairText (p : String × String) : readPair (pairText p) = p := by
  have hname : ∀ c ∈ encode p.1, (decide (c = '=')) = false :=
    fun c hc => decide_eq_false (ne_of_mem_encode (by decide) c hc)
  rw [readPair, pairText, cutAt_append_cons hname (by decide)]
  simp only [Option.getD_some, decode_encode]

theorem ne_and_of_mem_pairText {p : String × String} : ∀ c ∈ pairText p, c ≠ '&' := by
  simp only [pairText, List.forall_mem_append, List.forall_mem_cons]
  exact ⟨ne_of_mem_encode (by decide), by decide, ne_of_mem_encode (by decide)⟩

/-- Pairs that were written are read back as they were. -/
theorem read_write (pairs : List (String × String)) : read (write pairs) = pairs := by
  cases pairs with
  | nil => rfl
  | cons p rest =>
    have hpieces : ∀ piece ∈ (p :: rest).map pairText, ∀ c ∈ piece, (decide (c = '&')) = false := by
      intro piece hpiece c hc
      obtain ⟨q, -, rfl⟩ := List.mem_map.mp hpiece
      exact decide_eq_false (ne_and_of_mem_pairText c hc)
    have hcut : splitBy (· = '&') (write (p :: rest)).toList = (p :: rest).map pairText := by
      rw [write, String.toList_ofList, List.map_cons]
      exact splitBy_intercalate (by decide) hpieces
    have hkept : ((p :: rest).map pairText).filter (· ≠ []) = (p :: rest).map pairText := by
      rw [List.filter_eq_self]
      intro piece hpiece
      obtain ⟨q, -, rfl⟩ := List.mem_map.mp hpiece
      simp [pairText]
    have hread : readPair ∘ pairText = id := by
      funext q
      exact readPair_pairText q
    rw [read, hcut, hkept, List.map_map, hread, List.map_id]

end Form

namespace UrlPath

/-- The text of a path that is read holds no character that is a mark of a path. -/
theorem inPath_of_mem_toText_ofText {r : SchemeRules} (hspecial : r.isSpecial = true)
    (hfile : r.isFile = false) (text : List Char) :
    ∀ c ∈ (ofText r text).toText.toList, Percent.inPath c = false := by
  obtain ⟨segments, hread, -, hsettled⟩ := exists_settled_of_ofText hspecial hfile text
  rw [hread, toList_toText_segments]
  intro c hc
  obtain ⟨s, hs, hc⟩ := List.mem_flatMap.mp hc
  obtain rfl | hc := List.mem_cons.mp hc
  · decide
  · exact (hsettled s hs).noMark c hc

end UrlPath

namespace Http.Client

variable (c : Client)

/-- The pairs that a read asks with. -/
def readPairs (entity service : String) : List (String × String) :=
  [("subaccountGUID", entity), ("assignedServiceName", service)]

theorem readUrl_eq_ok_iff {entity service : String} {u : Url} :
    c.readUrl entity service = .ok u ↔ ∃ v, c.settings.endpoint assignmentsPath = .ok v ∧
      { v with query := some (Form.write (readPairs entity service)) } = u := by
  rw [readUrl, bind_eq_ok_iff]
  simp only [pure, Except.pure, Except.ok.injEq, readPairs]

/-- The same URL is asked for the same names only. -/
theorem readPairs_inj_of_toText {entity service entity' service' : String} {u u' : Url}
    (h : c.readUrl entity service = .ok u) (h' : c.readUrl entity' service' = .ok u')
    (htext : u'.toText = u.toText) : entity' = entity ∧ service' = service := by
  obtain ⟨v, hv, rfl⟩ := c.readUrl_eq_ok_iff.mp h
  obtain ⟨v', hv', rfl⟩ := c.readUrl_eq_ok_iff.mp h'
  obtain rfl : v = v' := Except.ok.inj (hv.symm.trans hv')
  have hwritten : Form.write (readPairs entity' service') =
      Form.write (readPairs entity service) := by
    simpa [Url.toText, Url.authority, Url.credentials, Url.marked] using htext
  have hpairs : readPairs entity' service' = readPairs entity service := by
    rw [← Form.read_write (readPairs entity' service'), hwritten, Form.read_write]
  simpa [readPairs] using hpairs

/-- The target of a URL whose path is read holds a question mark where the query begins, and no
number sign if the query was written. -/
theorem marks_of_target {u : Url} {q : String} (hquery : u.query = some q)
    (hpath : ∀ ch ∈ u.path.toText.toList, Percent.inPath ch = false)
    (hwritten : ∀ ch ∈ q.toList, Form.isWritten ch = true) :
    cutAt (· = '?') u.target.toList = (u.path.toText.toList, some q.toList) ∧
      ∀ ch ∈ u.target.toList, ch ≠ '#' := by
  have hmarks (m : Char) (hm : Percent.inPath m ≠ false) : ∀ ch ∈ u.path.toText.toList, ch ≠ m :=
    fun ch hch => ne_of_test (hpath ch hch) hm
  have htarget : u.target.toList = u.path.toText.toList ++ '?' :: q.toList := by
    simp [Url.target, hquery, Url.marked]
  rw [htarget]
  constructor
  · have hquestion : ∀ ch ∈ u.path.toText.toList, (decide (ch = '?')) = false :=
      fun ch hch => decide_eq_false (hmarks '?' (by decide) ch hch)
    exact cutAt_append_cons hquestion (by decide) q.toList
  · simp only [List.forall_mem_append, List.forall_mem_cons]
    refine ⟨hmarks '#' (by decide), by decide, fun ch hch => ?_⟩
    exact ne_of_test (hwritten ch hch) (by decide)

/-- The query of a read is of ASCII and is read as the two pairs that are asked with, whatever the
names and the base are. It stands after the first question mark of the target, which has no number
sign, and another pair of names has another URL. -/
theorem read_url_carries_two_pairs {map : Host.Mapping} {text : String}
    (hread : Url.parse map text = .ok c.settings.base)
    (hs : c.settings.base.scheme = "http" ∨ c.settings.base.scheme = "https")
    (entity service : String) :
    ∃ u q, c.readUrl entity service = .ok u ∧ u.query = some q ∧ u.fragment = none ∧
      (∀ ch ∈ q.toList, ch.toNat < 0x80) ∧
      Form.read q = [("subaccountGUID", entity), ("assignedServiceName", service)] ∧
      cutAt (· = '?') u.target.toList = (u.path.toText.toList, some q.toList) ∧
      (∀ ch ∈ u.target.toList, ch ≠ '#') ∧
      ∀ entity' service' u', c.readUrl entity' service' = .ok u' → u'.toText = u.toText →
        entity' = entity ∧ service' = service := by
  obtain ⟨hspecial, hfile⟩ := Url.rules_of_web hs
  obtain ⟨first, others, hbelow⟩ := exists_isBelow assignmentsPath (by simp)
  obtain ⟨p, hendpoint, -, hp⟩ := Settings.endpoint_of_isBelow hread hs hbelow
  obtain ⟨u, hurl, hquery, hfragment, hsame⟩ : ∃ u, c.readUrl entity service = .ok u ∧
      u.query = some (Form.write (readPairs entity service)) ∧ u.fragment = none ∧ u.path = p :=
    ⟨_, c.readUrl_eq_ok_iff.mpr ⟨_, hendpoint, rfl⟩, rfl, rfl, rfl⟩
  have hpath : ∀ ch ∈ u.path.toText.toList, Percent.inPath ch = false := by
    rw [hsame, hp]
    exact UrlPath.inPath_of_mem_toText_ofText hspecial hfile _
  have hwritten := Form.isWritten_of_mem_write (readPairs entity service)
  obtain ⟨hcut, hsign⟩ := marks_of_target hquery hpath hwritten
  refine ⟨u, _, hurl, hquery, hfragment, ?_, Form.read_write _, hcut, hsign, ?_⟩
  · exact fun ch hch => Form.isAscii_of_isWritten (hwritten ch hch)
  · exact fun entity' service' u' hurl' => c.readPairs_inj_of_toText hurl hurl'

/-- A base with a query and a fragment of its own, and names that hold the marks of a query. -/
theorem two_pairs_with_marks :
    let c : Client := ⟨.new ⟨"https", "", "", some (.name "gateway.example"), none,
      .segments ["eu", ""], some "subaccountGUID=other", some "top"⟩ "secret", by decide +kernel,
      .plain⟩
    Url.parse (fun _ => none) "https://gateway.example/eu/?subaccountGUID=other#top" =
        .ok c.settings.base ∧
      ∃ u q, c.readUrl "a&b=c#1" "+ %41 é?" = .ok u ∧ u.query = some q ∧ u.fragment = none ∧
        (∀ ch ∈ q.toList, ch.toNat < 0x80) ∧
        Form.read q = [("subaccountGUID", "a&b=c#1"), ("assignedServiceName", "+ %41 é?")] := by
  intro c
  have hbase : Url.parse (fun _ => none)
      "https://gateway.example/eu/?subaccountGUID=other#top" = .ok c.settings.base :=
    eq_ok_of_toOption (by decide +kernel)
  obtain ⟨u, q, hurl, hquery, hfragment, hascii, hpairs, -⟩ :=
    c.read_url_carries_two_pairs hbase (.inr rfl) "a&b=c#1" "+ %41 é?"
  exact ⟨hbase, u, q, hurl, hquery, hfragment, hascii, hpairs⟩

end Http.Client
end PlanQuota
