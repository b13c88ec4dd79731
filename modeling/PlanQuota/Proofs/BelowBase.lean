import PlanQuota.Http.Client
import PlanQuota.Proofs.SettledPath

/-!
The URLs of a service below its base. The base is closed by a slash if it does not end in one, so
that the path of the service is put after all of it; the segments of the base have been read once
and are settled, so nothing in them changes when they are read again.
-/
namespace PlanQuota

/-- The text with a slash at its end, one that is there or else a new one. -/
def closedBySlash (text : String) : String :=
  if text.toList.getLast? = some '/' then text else text ++ "/"

namespace UrlPath

/-- The segments below which a path is put: an empty last one gives its place to the path. -/
def front (segments : List (List Char)) : List (List Char) :=
  if segments.getLast? = some [] then segments.dropLast else segments

theorem settled_front {segments : List (List Char)} (h : ∀ s ∈ segments, Settled s) :
    ∀ s ∈ front segments, Settled s := by
  unfold front
  split
  · exact fun s hs => h s (List.dropLast_subset segments hs)
  · exact h

/-- A settled path ends in a slash if its last segment is empty, and else it is its own front. -/
theorem front_cases {segments : List (List Char)} (hne : segments ≠ [])
    (h : ∀ s ∈ segments, Settled s) :
    ((segments.flatMap ('/' :: ·)).getLast? = some '/' ∧ front segments ++ [[]] = segments) ∨
      ((segments.flatMap ('/' :: ·)).getLast? ≠ some '/' ∧ front segments = segments) := by
  obtain ⟨init, last, rfl⟩ : ∃ init last, segments = init ++ [last] :=
    ⟨_, _, (List.dropLast_concat_getLast hne).symm⟩
  have hlast : Settled last := h last (by simp)
  cases last with
  | nil => exact .inl (by simp [front])
  | cons c rest =>
    have hslash := (hlast.noSlash _ (List.getLast_mem (List.cons_ne_nil c rest))).1
    refine .inr ⟨?_, by simp [front]⟩
    simpa [List.getLast?_eq_some_getLast] using hslash

/-- Closing the text of a settled path adds an empty segment to its front. -/
theorem toList_closedBySlash {segments : List (List Char)} (hne : segments ≠ [])
    (h : ∀ s ∈ segments, Settled s) :
    (closedBySlash (UrlPath.segments (segments.map String.ofList)).toText).toList =
      (front segments ++ [[]]).flatMap ('/' :: ·) := by
  rw [closedBySlash, toList_toText_segments]
  obtain ⟨hclosed, hfront⟩ | ⟨hopen, hfront⟩ := front_cases hne h
  · rw [if_pos hclosed, toList_toText_segments, hfront]
  · rw [if_neg hopen, String.toList_append, toList_toText_segments, hfront, List.flatMap_append]
    rfl

/-- A path that can be put below another one: its pieces are settled, and the first is not empty. -/
structure IsBelow (path : String) (first : List Char) (others : List (List Char)) : Prop where
  text : path.toList = ['/'].intercalate (first :: others)
  settled : ∀ s ∈ first :: others, Settled s
  first_ne_nil : first ≠ []

theorem IsBelow.dropWhile_slash {path : String} {first : List Char} {others : List (List Char)}
    (h : IsBelow path first others) : path.toList.dropWhile (· = '/') = path.toList := by
  cases first with
  | nil => exact absurd rfl h.first_ne_nil
  | cons c rest =>
    have hc := ((h.settled _ List.mem_cons_self).noSlash c List.mem_cons_self).1
    rw [h.text]
    cases others <;> simp [hc, List.intercalate_cons_cons]

theorem parents_append {r : SchemeRules} (hfile : r.isFile = false) (init : List (List Char))
    (last : List Char) : parents r ((init ++ [last]).map String.ofList) = init.reverse := by
  unfold parents
  split
  next c rest h =>
    have hreversed : last :: init.reverse = [c, ':'] :: rest := by simpa using h
    rw [if_neg (by simp [hfile])]
    exact (List.cons.inj hreversed).2.symm
  next => simp

end UrlPath

open UrlPath

/-- What is read as a URL of the web has a settled path. -/
theorem Url.exists_settled_of_parse {map : Host.Mapping} {text : String} {u : Url}
    (h : parse map text = .ok u)
    (hs : u.scheme = "http" ∨ u.scheme = "https") :
    ∃ segments, u.path = .segments (segments.map String.ofList) ∧ segments ≠ [] ∧
      ∀ s ∈ segments, Settled s := by
  obtain ⟨hspecial, hfile⟩ := rules_of_web hs
  obtain ⟨cs, v, hv, hu⟩ := readSpecial_of_parse h hs
  obtain ⟨⟨a, path⟩, -, hv⟩ := bind_eq_ok_iff.mp hv
  obtain rfl := Except.ok.inj hv
  rw [hu]
  exact exists_settled_of_ofText hspecial hfile path

section Joining

variable {u : Url} (hs : u.scheme = "http" ∨ u.scheme = "https")
include hs

/-- Closing a settled path adds an empty segment to its front. -/
theorem Url.closed_eq {segments : List (List Char)}
    (hpath : u.path = .segments (segments.map String.ofList)) (hne : segments ≠ [])
    (hsettled : ∀ s ∈ segments, Settled s) :
    (if u.path.toText.toList.getLast? = some '/' then u else u.setPath (u.path.toText ++ "/")) =
      { u with path := .segments ((front segments ++ [[]]).map String.ofList) } := by
  obtain ⟨hspecial, hfile⟩ := rules_of_web hs
  rw [hpath, toList_toText_segments]
  obtain ⟨hclosed, hfront⟩ | ⟨hopen, hfront⟩ := front_cases hne hsettled
  · rw [if_pos hclosed, hfront, ← hpath]
  · have hread : ofText (.ofScheme u.scheme) ((segments ++ [[]]).flatMap ('/' :: ·)) =
        .segments ((segments ++ [[]]).map String.ofList) := by
      refine ofText_of_settled hspecial hfile (by simp) fun s hs => ?_
      obtain hs | hs := List.mem_append.mp hs
      · exact hsettled s hs
      · exact List.mem_singleton.mp hs ▸ settled_nil
    simp only [if_neg hopen, Url.setPath, hpath, String.toList_append, toList_toText_segments,
      hfront]
    rw [← hread, List.flatMap_append]
    rfl

/-- The path takes the place of the empty segment at the end of a base. -/
theorem Url.join_of_isBelow {path : String} {first : List Char} {others : List (List Char)}
    (hbelow : IsBelow path first others) (init : List (List Char)) :
    Url.join { u with path := .segments ((init ++ [[]]).map String.ofList) } path =
      .ok { u with
        path := .segments ((init ++ first :: others).map String.ofList)
        query := none, fragment := none } := by
  obtain ⟨hspecial, hfile⟩ := rules_of_web hs
  simp only [Url.join, parents_append hfile, hbelow.text,
    extend_of_settled hspecial hfile _ hbelow.settled, List.reverse_reverse]

end Joining

namespace Settings

/-- The path below a base, as a text and as what is read from it. -/
theorem endpoint_of_isBelow {map : Host.Mapping} {s : Settings} {text : String}
    (hread : Url.parse map text = .ok s.base)
    (hs : s.base.scheme = "http" ∨ s.base.scheme = "https") {path : String} {first : List Char}
    {others : List (List Char)} (hbelow : IsBelow path first others) :
    ∃ p : UrlPath,
      s.endpoint path = .ok { s.base with path := p, query := none, fragment := none } ∧
      p.toText = closedBySlash s.base.path.toText ++ path ∧
      p = .ofText (.ofScheme s.base.scheme) p.toText.toList := by
  obtain ⟨hspecial, hfile⟩ := Url.rules_of_web hs
  obtain ⟨segments, hpath, hne, hsettled⟩ := Url.exists_settled_of_parse hread hs
  refine ⟨.segments ((front segments ++ first :: others).map String.ofList), ?_, ?_, ?_⟩
  · simp only [endpoint, Url.closed_eq hs hpath hne hsettled, hbelow.dropWhile_slash,
      String.ofList_toList, Url.join_of_isBelow hs hbelow]
  · rw [← String.toList_inj, toList_toText_segments, String.toList_append, hpath,
      toList_closedBySlash hne hsettled, hbelow.text, List.flatMap_append, List.flatMap_append,
      flatMap_slash_cons]
    simp
  · have hall : ∀ s ∈ front segments ++ first :: others, Settled s := by
      intro s hs
      obtain hs | hs := List.mem_append.mp hs
      · exact settled_front hsettled s hs
      · exact hbelow.settled s hs
    rw [toList_toText_segments, ofText_of_settled hspecial hfile (by simp) hall]

end Settings

open Http.Client (assignmentsPath plansPath)

theorem exists_isBelow : ∀ path ∈ [assignmentsPath, plansPath],
    ∃ first others, IsBelow path first others := by
  simp only [List.forall_mem_cons]
  refine ⟨?_, ?_, nofun⟩
  · exact ⟨"entitlements".toList, ["v1".toList, "assignments".toList],
      by decide +kernel, by decide +kernel, by decide +kernel⟩
  · exact ⟨"entitlements".toList, ["v1".toList, "subaccountServicePlans".toList],
      by decide +kernel, by decide +kernel, by decide +kernel⟩

namespace Settings

/-- The endpoints of a service have the scheme, the host and the port of the base and neither its
query nor its fragment, and the path of the service stands after the path of the base, which is
closed by a slash and else kept as it is written. So two bases at one place have the same endpoints
if and only if their paths differ in no more than a slash at the end. -/
theorem endpoints_below_base {map : Host.Mapping} {s : Settings} {text : String}
    (hread : Url.parse map text = .ok s.base)
    (hs : s.base.scheme = "http" ∨ s.base.scheme = "https") :
    ∀ path ∈ [assignmentsPath, plansPath],
      (∃ u, s.endpoint path = .ok u ∧
        u = { s.base with path := u.path, query := none, fragment := none } ∧
        u.path.toText = closedBySlash s.base.path.toText ++ path) ∧
      ∀ (t : Settings) (other : String), Url.parse map other = .ok t.base →
        t.base = { s.base with
          path := t.base.path, query := t.base.query, fragment := t.base.fragment } →
        (t.endpoint path = s.endpoint path ↔
          closedBySlash t.base.path.toText = closedBySlash s.base.path.toText) := by
  intro path hpath
  obtain ⟨first, others, hbelow⟩ := exists_isBelow path hpath
  obtain ⟨p, hendpoint, htext, hp⟩ := endpoint_of_isBelow hread hs hbelow
  refine ⟨⟨_, hendpoint, rfl, htext⟩, ?_⟩
  intro t other hother hplace
  have hscheme : t.base.scheme = s.base.scheme := by rw [hplace]
  obtain ⟨p', hendpoint', htext', hp'⟩ := endpoint_of_isBelow hother (hscheme ▸ hs) hbelow
  have hmoved : { t.base with path := p', query := none, fragment := none } =
      { s.base with path := p', query := none, fragment := none } := by
    rw [hplace]
  rw [hendpoint, hendpoint', hmoved]
  constructor
  · intro hsame
    have hpaths : p' = p := congrArg Url.path (Except.ok.inj hsame)
    rw [hpaths, htext] at htext'
    exact (String.append_left_inj path).mp htext'.symm
  · intro hclosed
    have hpaths : p' = p := by rw [hp', hp, htext', htext, hclosed, hscheme]
    rw [hpaths]

/-- A base with an escape, an empty segment, a query and a fragment, and the same base closed. -/
theorem endpoints_below_encoded_base :
    let place (segments : List String) (query fragment : Option String) : Settings :=
      .new ⟨"https", "", "", some (.name "gateway.example"), some 8443, .segments segments, query,
        fragment⟩ "secret"
    let s := place ["a%20b", "", "c"] (some "x=1") (some "top")
    let t := place ["a%20b", "", "c", ""] none none
    let map : Host.Mapping := fun _ => none
    Url.parse map "https://gateway.example:8443/a%20b//c?x=1#top" = .ok s.base ∧
      Url.parse map "https://gateway.example:8443/a%20b//c/" = .ok t.base ∧
      (∃ u, s.endpoint assignmentsPath = .ok u ∧
        u = { s.base with path := u.path, query := none, fragment := none } ∧
        u.path.toText = "/a%20b//c/entitlements/v1/assignments") ∧
      t.endpoint assignmentsPath = s.endpoint assignmentsPath := by
  intro place s t map
  have hs : Url.parse map "https://gateway.example:8443/a%20b//c?x=1#top" = .ok s.base :=
    eq_ok_of_toOption (by decide +kernel)
  have ht : Url.parse map "https://gateway.example:8443/a%20b//c/" = .ok t.base :=
    eq_ok_of_toOption (by decide +kernel)
  obtain ⟨⟨u, hendpoint, hplace, htext⟩, hsame⟩ :=
    endpoints_below_base hs (.inr rfl) assignmentsPath (by simp)
  refine ⟨hs, ht, ⟨u, hendpoint, hplace, ?_⟩, ?_⟩
  · rw [htext]
    decide +kernel
  · exact (hsame t _ ht rfl).mpr (by decide +kernel)

end Settings
end PlanQuota
