import PlanQuota.Settings
import PlanQuota.Url.Form
import PlanQuota.Url.Login

/-!
URLs of the web: a host that is not empty, and a path in segments. A text that is read as a URL of
a web scheme gives one, and so do the paths of a service below it. A query is written without
losing a character, so the URL is at least as long as what is asked for.
-/
namespace PlanQuota

theorem bind_eq_ok_iff {ε α β : Type} {x : Except ε α} {f : α → Except ε β} {b : β} :
    x >>= f = .ok b ↔ ∃ a, x = .ok a ∧ f a = .ok b := by
  cases x with
  | error e => simp [bind, Except.bind]
  | ok a => simp [bind, Except.bind]

theorem eq_ok_of_toOption {ε α : Type} {x : Except ε α} {a : α} (h : x.toOption = some a) :
    x = .ok a := by
  cases x with
  | error e => cases h
  | ok b => exact congrArg Except.ok (Option.some.inj h)

namespace Host

theorem ne_empty_of_bracketed? {s : List Char} {h : Host} (hs : bracketed? s = some (.ok h)) :
    h ≠ .name "" := by
  unfold bracketed? at hs
  split at hs
  · split at hs
    · cases hs
      simp
    · cases hs
  · cases hs

/-- The host of a special scheme is never empty. -/
theorem ne_empty_of_ofDomain {map : Mapping} {s : List Char} {h : Host}
    (hs : ofDomain map s = .ok h) : h ≠ .name "" := by
  unfold ofDomain at hs
  cases hb : bracketed? s with
  | some result =>
    rw [hb] at hs
    obtain rfl : result = .ok h := hs
    exact ne_empty_of_bracketed? hb
  | none =>
    rw [hb] at hs
    cases hd : (Utf8.decode? (Percent.decode s)).bind (inAscii? map) with
    | none => simp [hd] at hs
    | some cs =>
      simp only [hd] at hs
      split at hs
      · cases hs
      · split at hs
        · cases hs
        · next hempty =>
          split at hs
          · split at hs
            · cases hs
              simp
            · cases hs
          · cases hs
            simpa using hempty

end Host

/-- After the authority of a special scheme there is always a path. -/
theorem UrlPath.ofText_of_special {r : SchemeRules} (hr : r.isSpecial = true) (text : List Char) :
    ∃ list, ofText r text = .segments list := by
  simp [ofText, hr, Trail.path]

namespace Url

variable {map : Host.Mapping}

theorem host_of_readAuthority {r : SchemeRules} (hr : r.isSpecial = true) {cs path : List Char}
    {more : Bool} {a : Authority} (h : readAuthority map r cs more = .ok (a, path)) :
    a.host ≠ .name "" := by
  unfold readAuthority at h
  simp only [hr, if_true] at h
  split at h
  · cases h
  · obtain ⟨host, hhost, h⟩ := bind_eq_ok_iff.mp h
    obtain ⟨port, -, h⟩ := bind_eq_ok_iff.mp h
    obtain ⟨rfl, -⟩ := Prod.mk.inj (Except.ok.inj h)
    exact Host.ne_empty_of_ofDomain hhost

theorem scheme_of_readSpecial {scheme : String} {r : SchemeRules} {cs : List Char} {u : Url}
    (h : readSpecial map scheme r cs = .ok u) : u.scheme = scheme := by
  obtain ⟨⟨a, path⟩, -, h⟩ := bind_eq_ok_iff.mp h
  obtain rfl := Except.ok.inj h
  rfl

theorem scheme_of_readFile {scheme : String} {r : SchemeRules} {cs : List Char} {u : Url}
    (h : readFile map scheme r cs = .ok u) : u.scheme = scheme := by
  unfold readFile at h
  split at h
  · obtain rfl := Except.ok.inj h
    rfl
  · simp only at h
    split at h
    · obtain rfl := Except.ok.inj h
      rfl
    · split at h
      · cases h
      · split at h
        · obtain rfl := Except.ok.inj h
          rfl
        · obtain rfl := Except.ok.inj h
          rfl

theorem scheme_of_readPlain {scheme : String} {r : SchemeRules} {cs : List Char} {more : Bool}
    {u : Url} (h : readPlain map scheme r cs more = .ok u) : u.scheme = scheme := by
  unfold readPlain at h
  split at h
  · obtain ⟨⟨a, path⟩, -, h⟩ := bind_eq_ok_iff.mp h
    obtain rfl := Except.ok.inj h
    rfl
  · obtain rfl := Except.ok.inj h
    rfl
  · obtain rfl := Except.ok.inj h
    rfl

/-- A URL to which requests can be sent, and below which others can be found. -/
structure IsWeb (u : Url) : Prop where
  scheme : u.scheme = "http" ∨ u.scheme = "https"
  hasHost : u.hasHost = true
  path : ∃ list, u.path = .segments list

theorem rules_of_web {scheme : String} (h : scheme = "http" ∨ scheme = "https") :
    (SchemeRules.ofScheme scheme).isSpecial = true ∧
      (SchemeRules.ofScheme scheme).isFile = false := by
  cases h with
  | inl h =>
    subst h
    decide
  | inr h =>
    subst h
    decide

theorem IsWeb.withQuery {u : Url} (h : u.IsWeb) (query fragment : Option String) :
    IsWeb { u with query, fragment } := ⟨h.scheme, h.hasHost, h.path⟩

theorem IsWeb.bare {u : Url} (h : u.IsWeb) : u.bare.IsWeb :=
  ⟨u.scheme_bare ▸ h.scheme, u.hasHost_bare ▸ h.hasHost, u.path_bare ▸ h.path⟩

theorem isWeb_of_readSpecial {scheme : String} {r : SchemeRules} (hr : r.isSpecial = true)
    (hs : scheme = "http" ∨ scheme = "https") {cs : List Char} {u : Url}
    (h : readSpecial map scheme r cs = .ok u) : u.IsWeb := by
  obtain ⟨⟨a, path⟩, ha, h⟩ := bind_eq_ok_iff.mp h
  obtain rfl := Except.ok.inj h
  refine ⟨hs, ?_, ?_⟩
  · simpa [hasHost, withAuthority] using host_of_readAuthority hr ha
  · exact UrlPath.ofText_of_special hr path

/-- A URL of a web scheme is read in one way only. -/
theorem readSpecial_of_parse {text : String} {u : Url} (h : parse map text = .ok u)
    (hs : u.scheme = "http" ∨ u.scheme = "https") :
    ∃ cs v, readSpecial map u.scheme (.ofScheme u.scheme) cs = .ok v ∧
      u = { v with query := u.query, fragment := u.fragment } := by
  unfold parse at h
  split at h
  · cases h
  · next scheme rest hscheme =>
    simp only at h
    split at h
    · next hfile =>
      obtain ⟨v, hv, h⟩ := bind_eq_ok_iff.mp h
      obtain rfl := Except.ok.inj h
      rw [scheme_of_readFile hv] at hs
      rw [(rules_of_web hs).2] at hfile
      cases hfile
    · split at h
      · obtain ⟨v, hv, h⟩ := bind_eq_ok_iff.mp h
        obtain rfl := Except.ok.inj h
        obtain rfl := scheme_of_readSpecial hv
        exact ⟨_, v, hv, rfl⟩
      · next hspecial =>
        obtain ⟨v, hv, h⟩ := bind_eq_ok_iff.mp h
        obtain rfl := Except.ok.inj h
        rw [scheme_of_readPlain hv] at hs
        exact absurd (rules_of_web hs).1 hspecial

theorem isWeb_of_parse {text : String} {u : Url} (h : parse map text = .ok u)
    (hs : u.scheme = "http" ∨ u.scheme = "https") : u.IsWeb := by
  obtain ⟨cs, v, hv, hu⟩ := readSpecial_of_parse h hs
  rw [hu]
  exact (isWeb_of_readSpecial (rules_of_web hs).1 hs hv).withQuery _ _

theorem IsWeb.setPath {u : Url} (h : u.IsWeb) (text : String) : (u.setPath text).IsWeb := by
  obtain ⟨list, hlist⟩ := h.path
  simp only [Url.setPath, hlist]
  exact ⟨h.scheme, h.hasHost, UrlPath.ofText_of_special (rules_of_web h.scheme).1 text.toList⟩

theorem IsWeb.join {u : Url} (h : u.IsWeb) (text : String) :
    ∃ v, u.join text = .ok v ∧ v.IsWeb := by
  obtain ⟨list, hlist⟩ := h.path
  simp only [Url.join, hlist]
  exact ⟨_, rfl, h.scheme, h.hasHost, _, rfl⟩

theorem login?_setPath (u : Url) (text : String) : (u.setPath text).login? = u.login? := by
  unfold setPath
  split <;> rfl

theorem login?_of_join {u v : Url} {text : String} (h : u.join text = .ok v) :
    v.login? = u.login? := by
  unfold join at h
  split at h
  · cases h
  · obtain rfl := Except.ok.inj h
    rfl

end Url

/-- Below a URL of the web every path of a service can be found. -/
theorem Settings.endpoint_of_isWeb {s : Settings} (h : s.base.IsWeb) (path : String) :
    ∃ u, s.endpoint path = .ok u ∧ u.IsWeb := by
  have hbase : (if s.base.path.toText.toList.getLast? = some '/' then s.base
      else s.base.setPath (s.base.path.toText ++ "/")).IsWeb := by
    split
    · exact h
    · exact h.setPath _
  obtain ⟨u, hu, hweb⟩ := hbase.join (String.ofList (path.toList.dropWhile (· = '/')))
  refine ⟨u, ?_, hweb⟩
  unfold endpoint
  simp only [hu]

/-- An endpoint has the name and the password of the base. -/
theorem Settings.login?_of_endpoint {s : Settings} {path : String} {u : Url}
    (h : s.endpoint path = .ok u) : u.login? = s.base.login? := by
  unfold endpoint at h
  dsimp only at h
  split at h
  · next hjoin =>
    obtain rfl := Except.ok.inj h
    rw [Url.login?_of_join hjoin]
    split
    · rfl
    · exact s.base.login?_setPath _
  · cases h

theorem length_le_utf8ByteSize (cs : List Char) : cs.length ≤ (String.ofList cs).utf8ByteSize := by
  induction cs with
  | nil => simp
  | cons c rest ih =>
    have hsplit : String.ofList (c :: rest) = String.singleton c ++ String.ofList rest := by
      rw [← String.toList_inj]
      simp
    have hc := c.utf8Size_pos
    rw [hsplit, String.utf8ByteSize_append, String.utf8ByteSize_singleton, List.length_cons]
    omega

theorem Utf8.length_encodeChar_pos (c : Char) : 0 < (Utf8.encodeChar c).length := by
  unfold Utf8.encodeChar
  simp only
  split
  · simp
  · split
    · simp
    · split <;> simp

namespace Form

theorem length_encodeChar_pos (c : Char) : 0 < (encodeChar c).length := by
  unfold encodeChar Percent.encodeChar
  split
  · simp
  · split
    · have hc := Utf8.length_encodeChar_pos c
      cases he : Utf8.encodeChar c with
      | nil => simp [he] at hc
      | cons byte rest => simp [Percent.escape]
    · simp

theorem length_le_encode (s : String) : s.length ≤ (encode s).length := by
  rw [← String.length_toList, encode]
  induction s.toList with
  | nil => simp
  | cons c rest ih =>
    have hc := length_encodeChar_pos c
    rw [List.flatMap_cons, List.length_append, List.length_cons]
    omega

theorem length_le_write (name value : String) (last : String × String) :
    value.length ≤ (write [(name, value), last]).utf8ByteSize := by
  have hvalue := length_le_encode value
  have hwrite := length_le_utf8ByteSize (['&'].intercalate [pairText (name, value), pairText last])
  simp only [List.intercalate_cons_cons, pairText, List.length_append, List.length_cons] at hwrite
  rw [write]
  simp only [List.map_cons, List.map_nil, List.intercalate_cons_cons, pairText]
  omega

end Form

theorem Url.query_le_utf8ByteSize {u : Url} {query : String} (h : u.query = some query) :
    query.utf8ByteSize ≤ u.toText.utf8ByteSize := by
  simp only [Url.toText, h, Url.marked, String.utf8ByteSize_append]
  omega

end PlanQuota
