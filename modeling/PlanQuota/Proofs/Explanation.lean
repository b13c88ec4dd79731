import PlanQuota.Memory
import PlanQuota.Proofs.Listing
import PlanQuota.Proofs.Operations

/-!
What a caller is told about a call that was refused. The body of the answer decides: a structured
refusal is told by its message and its code, any other body as the text that it is, and where there
is no body the failed operation is named around the fault. A refusal is looked for in every body, as
an object or as an array, among members nobody asks for, so here it is said apart from the reader
which documents hold one.
-/
namespace PlanQuota

namespace Json

/-- What stands for a field that may be absent: no member, null, or the value that is written. -/
inductive Gives {α : Type} (write : α → Json) : Option Json → Option α → Prop
  | missing : Gives write none none
  | null : Gives write (some .null) none
  | value (a : α) : Gives write (some (write a)) (some a)

theorem string?_eq_some_iff {j : Json} {s : String} : string? j = some s ↔ j = text s := by
  cases j <;> simp [string?, text]

theorem int64?_eq_some_iff {j : Json} {n : Int64} : int64? j = some n ↔ j = ofInt64 n := by
  constructor
  · intro h
    unfold int64? at h
    split at h
    next k =>
      split at h
      next hrange =>
        obtain rfl := Option.some.inj h
        rw [ofInt64, ofInt, Int64.toInt_ofInt_of_le hrange.1 hrange.2]
      next => cases h
    next => cases h
  · rintro rfl
    exact int64?_ofInt64 n

namespace Slot

variable {α : Type} {read : Json → Option α} {write : α → Json}

theorem ofOption_injective {x y : Option Json} (h : ofOption x = ofOption y) : x = y := by
  cases x with
  | none =>
    cases y with
    | none => rfl
    | some k => cases h
  | some j =>
    cases y with
    | none => cases h
    | some k => exact congrArg some (given.inj h)

/-- A value that may be absent is read from what an object or a complete array gives for it. -/
theorem optional_eq_some_iff (hnull : ∀ a, write a ≠ .null)
    (h : ∀ j a, read j = some a ↔ j = write a) {slot : Slot} {o : Option α} :
    optional read slot = some o ↔ ∃ x, slot = ofOption x ∧ Gives write x o := by
  constructor
  · intro hread
    unfold optional at hread
    split at hread
    next =>
      obtain rfl := Option.some.inj hread
      exact ⟨some .null, rfl, .null⟩
    next j hj =>
      obtain ⟨a, ha, rfl⟩ := Option.map_eq_some_iff.mp hread
      obtain rfl := (h j a).mp ha
      exact ⟨some (write a), rfl, .value a⟩
    next =>
      obtain rfl := Option.some.inj hread
      exact ⟨none, rfl, .missing⟩
    next => cases hread
  · rintro ⟨x, rfl, hx⟩
    cases hx with
    | missing => rfl
    | null => rfl
    | value a => exact optional_given (hnull a) ((h _ a).mpr rfl)

end Slot

theorem optional_string?_eq_some_iff {slot : Slot} {o : Option String} :
    slot.optional string? = some o ↔ ∃ x, slot = .ofOption x ∧ Gives text x o :=
  Slot.optional_eq_some_iff text_ne_null fun _ _ => string?_eq_some_iff

theorem optional_int64?_eq_some_iff {slot : Slot} {o : Option Int64} :
    slot.optional int64? = some o ↔ ∃ x, slot = .ofOption x ∧ Gives ofInt64 x o :=
  Slot.optional_eq_some_iff ofInt64_ne_null fun _ _ => int64?_eq_some_iff

/-- A document is a record with the given fields, and `field` says what stands in it for each: an
object with decodable names in which no field occurs twice, or an array of one element for each. -/
inductive Record (keys : List String) : Json → (String → Option Json) → Prop
  | object {members : List (Option String × Json)} (hnames : ∀ m ∈ members, m.1 ≠ none)
    (honce : ∀ key ∈ keys, members.countP (·.1 = some key) ≤ 1) :
    Record keys (.object members) fun key => (members.find? (·.1 = some key)).map (·.2)
  | array {elements : List Json} (h : elements.length = keys.length) :
    Record keys (.array elements) fun key => elements[keys.idxOf key]?

theorem wellNamed_iff {keys : List String} {members : List (Option String × Json)} :
    wellNamed keys members = true ↔
      (∀ m ∈ members, m.1 ≠ none) ∧ ∀ key ∈ keys, members.countP (·.1 = some key) ≤ 1 := by
  simp only [wellNamed, Bool.and_eq_true, List.all_eq_true, decide_eq_true_eq,
    Option.isSome_iff_ne_none]

theorem member_eq_ofOption (members : List (Option String × Json)) (key : String) :
    member members key = .ofOption ((members.find? (·.1 = some key)).map (·.2)) := by
  unfold member
  cases members.find? (·.1 = some key) with
  | none => rfl
  | some m => rfl

theorem place_eq_ofOption_iff {keys : List String} {elements : List Json} {key : String}
    {x : Option Json} : place keys elements key = .ofOption x ↔
      elements[keys.idxOf key]? = x ∧ keys.idxOf key < elements.length := by
  unfold place
  cases hget : elements[keys.idxOf key]? with
  | none =>
    have hout := List.getElem?_eq_none_iff.mp hget
    constructor
    · intro h
      cases x <;> cases h
    · rintro ⟨-, hin⟩
      omega
  | some j =>
    obtain ⟨hin, -⟩ := List.getElem?_eq_some_iff.mp hget
    constructor
    · intro h
      cases x with
      | none => cases h
      | some k => exact ⟨congrArg some (Slot.given.inj h), hin⟩
    · rintro ⟨rfl, -⟩
      rfl

/-- A record that gives its last field gives every one. -/
theorem record_of_fields? {keys : List String} {last : String}
    (hlast : keys.length ≤ keys.idxOf last + 1) {j : Json} {f : String → Slot}
    (hf : j.fields? keys = some f) {x : Option Json} (hx : f last = .ofOption x) :
    ∃ field, Record keys j field ∧ ∀ key ∈ keys, f key = .ofOption (field key) := by
  unfold fields? at hf
  split at hf
  next members =>
    split at hf
    next hnamed =>
      obtain rfl := Option.some.inj hf
      obtain ⟨hnames, honce⟩ := wellNamed_iff.mp hnamed
      exact ⟨_, .object hnames honce, fun key _ => member_eq_ofOption members key⟩
    next => cases hf
  next elements =>
    split at hf
    next hlength =>
      obtain rfl := Option.some.inj hf
      obtain ⟨-, hin⟩ := place_eq_ofOption_iff.mp hx
      refine ⟨_, .array (by omega), fun key hkey => place_eq_ofOption_iff.mpr ⟨rfl, ?_⟩⟩
      have hkey := List.idxOf_lt_length_of_mem hkey
      omega
    next => cases hf
  next => cases hf

theorem Record.fields?_eq {keys : List String} {j : Json} {field : String → Option Json}
    (h : Record keys j field) :
    ∃ f, j.fields? keys = some f ∧ ∀ key ∈ keys, f key = .ofOption (field key) := by
  cases h with
  | @object members hnames honce =>
    have hnamed := wellNamed_iff.mpr ⟨hnames, honce⟩
    refine ⟨member members, ?_, fun key _ => member_eq_ofOption members key⟩
    simp only [fields?, hnamed, if_true]
  | @array elements hlength =>
    refine ⟨place keys elements, ?_, fun key hkey => place_eq_ofOption_iff.mpr ⟨rfl, ?_⟩⟩
    · simp only [fields?, hlength, Nat.le_refl, if_true]
    · have hkey := List.idxOf_lt_length_of_mem hkey
      omega

end Json

namespace Refusal

/-- What the fields of the details say. -/
structure SaidBy (r : Refusal) (field : String → Option Json) : Prop where
  code : Json.Gives .ofInt64 (field "code") r.code
  message : Json.Gives .text (field "message") r.message
  target : Json.Gives .text (field "target") r.target
  correlation : Json.Gives .text (field "correlationID") r.correlation

theorem detailOfJson?_eq_some_iff {j : Json} {r : Refusal} :
    detailOfJson? j = some r ↔ ∃ field, Json.Record keys j field ∧ r.SaidBy field := by
  simp only [detailOfJson?, Option.bind_eq_bind, Option.bind_eq_some_iff, Option.pure_def,
    Option.some.injEq, Json.optional_string?_eq_some_iff, Json.optional_int64?_eq_some_iff]
  constructor
  · rintro ⟨f, hf, code, ⟨a, ha, hcode⟩, message, ⟨b, hb, hmessage⟩, target, ⟨c, hc, htarget⟩,
      correlation, ⟨d, hd, hcorrelation⟩, rfl⟩
    obtain ⟨field, hrecord, hfield⟩ := Json.record_of_fields? (by decide) hf hd
    have hgives : ∀ key ∈ keys, ∀ x, f key = .ofOption x → field key = x := by
      intro key hkey x hx
      exact Json.Slot.ofOption_injective ((hfield key hkey).symm.trans hx)
    refine ⟨field, hrecord, ?_, ?_, ?_, ?_⟩
    · rwa [hgives "code" (by decide) a ha]
    · rwa [hgives "message" (by decide) b hb]
    · rwa [hgives "target" (by decide) c hc]
    · rwa [hgives "correlationID" (by decide) d hd]
  · rintro ⟨field, hrecord, hsaid⟩
    obtain ⟨f, hf, hfield⟩ := hrecord.fields?_eq
    exact ⟨f, hf, r.code, ⟨_, hfield _ (by decide), hsaid.code⟩,
      r.message, ⟨_, hfield _ (by decide), hsaid.message⟩,
      r.target, ⟨_, hfield _ (by decide), hsaid.target⟩,
      r.correlation, ⟨_, hfield _ (by decide), hsaid.correlation⟩, rfl⟩

/-- A document holds a refusal: its one field are the details. -/
def IsIn (r : Refusal) (j : Json) : Prop :=
  ∃ outer detail field, Json.Record ["error"] j outer ∧ outer "error" = some detail ∧
    Json.Record keys detail field ∧ r.SaidBy field

theorem ofJson?_eq_some_iff {j : Json} {r : Refusal} : ofJson? j = some r ↔ r.IsIn j := by
  simp only [ofJson?, Option.bind_eq_bind, Option.bind_eq_some_iff]
  constructor
  · rintro ⟨f, hf, hdetail⟩
    cases hslot : f "error" with
    | given detail =>
      rw [hslot, Json.Slot.required_given] at hdetail
      have hlast : ["error"].length ≤ ["error"].idxOf "error" + 1 := by decide
      have hgiven : f "error" = .ofOption (some detail) := hslot
      obtain ⟨outer, houter, hfield⟩ := Json.record_of_fields? hlast hf hgiven
      obtain ⟨field, hrecord, hsaid⟩ := detailOfJson?_eq_some_iff.mp hdetail
      have houtside : outer "error" = some detail :=
        Json.Slot.ofOption_injective ((hfield "error" (by decide)).symm.trans hgiven)
      exact ⟨outer, detail, field, houter, houtside, hrecord, hsaid⟩
    | missing =>
      rw [hslot] at hdetail
      cases hdetail
    | beyond =>
      rw [hslot] at hdetail
      cases hdetail
  · rintro ⟨outer, detail, field, houter, hgiven, hrecord, hsaid⟩
    obtain ⟨f, hf, hfield⟩ := houter.fields?_eq
    refine ⟨f, hf, ?_⟩
    rw [hfield "error" (by decide), hgiven]
    exact detailOfJson?_eq_some_iff.mpr ⟨field, hrecord, hsaid⟩

/-- The bytes are a document that holds the refusal. -/
def IsToldBy (r : Refusal) (body : List UInt8) : Prop := ∃ j, Json.ofBytes? body = some j ∧ r.IsIn j

theorem ofBytes?_eq_some_iff {body : List UInt8} {r : Refusal} :
    ofBytes? body = some r ↔ r.IsToldBy body := by
  rw [ofBytes?, Option.bind_eq_some_iff]
  simp only [ofJson?_eq_some_iff]
  rfl

/-- No refusal is told by nothing. -/
theorem not_isToldBy_nil (r : Refusal) : ¬r.IsToldBy [] := by
  rw [← ofBytes?_eq_some_iff]
  intro h
  cases h

end Refusal

namespace RemoteFault

theorem refusal_answered_eq_some_iff (status : Nat) {body : List UInt8} {r : Refusal} :
    (answered status body).refusal = some r ↔ r.IsToldBy body := Refusal.ofBytes?_eq_some_iff

theorem refusal_answered_eq_none_iff (status : Nat) {body : List UInt8} :
    (answered status body).refusal = none ↔ ∀ r : Refusal, ¬r.IsToldBy body := by
  simp only [Option.eq_none_iff_forall_ne_some, ne_eq, refusal_answered_eq_some_iff]

theorem body_answered (status : Nat) {body : List UInt8} (h : body ≠ []) :
    (answered status body).body = some body := by
  simp only [answered, if_neg h]

theorem body_answered_eq_none_iff (status : Nat) {body : List UInt8} :
    (answered status body).body = none ↔ body = [] := by
  constructor
  · intro h
    by_cases hbody : body = []
    · exact hbody
    · rw [body_answered status hbody] at h
      cases h
  · rintro rfl
    rfl

/-- A refusal comes with the body that tells it. -/
theorem body_of_refusal {status : Nat} {body : List UInt8} {r : Refusal}
    (h : (answered status body).refusal = some r) : (answered status body).body = some body := by
  apply body_answered
  rintro rfl
  exact r.not_isToldBy_nil ((refusal_answered_eq_some_iff status).mp h)

end RemoteFault

namespace Failure

/-- How a failure tells of a call that was answered with a status other than success. `wrap` puts
the failed operation around the fault. -/
structure Tells (failure : Failure) (status : Nat) (body : List UInt8)
    (wrap : Failure → Failure) : Prop where
  /-- A refusal in the body is told by its message and its code. -/
  refusal : ∀ r : Refusal, r.IsToldBy body →
    failure = .refused (r.message.getD "" ++ ", Code " ++ toString (r.code.getD 0).toInt)
  /-- Without one the body is told as a text, if there is a body. -/
  text : (∀ r : Refusal, ¬r.IsToldBy body) →
    (failure = .refused (Utf8.toStringLossy body) ↔ body ≠ [])
  verbatim : (∀ r : Refusal, ¬r.IsToldBy body) →
    ∀ s, body = Utf8.ofString s → s ≠ "" → failure = .refused s
  operation : failure = wrap (.remote
    ⟨some status, none, none, "unexpected status " ++ toString status⟩) ↔ body = []

section Explain

variable {wrap : Failure → Failure} {fault : RemoteFault}

theorem explain_of_refusal {r : Refusal} (h : fault.refusal = some r) :
    explain wrap (.remote fault) = .refused (reason r) := by
  simp only [explain, givenReason?, h]

theorem explain_of_body {body : List UInt8} (hr : fault.refusal = none)
    (hb : fault.body = some body) :
    explain wrap (.remote fault) = .refused (Utf8.toStringLossy body) := by
  simp only [explain, givenReason?, hr, hb, Option.map_some]

theorem explain_of_nothing (hr : fault.refusal = none) (hb : fault.body = none) :
    explain wrap (.remote fault) = wrap (.remote fault) := by
  simp only [explain, givenReason?, hr, hb, Option.map_none]

end Explain

section Answered

variable {wrap : Failure → Failure} (status : Nat) {body : List UInt8}

theorem explain_answered_of_text (h : ∀ r : Refusal, ¬r.IsToldBy body) (hbody : body ≠ []) :
    explain wrap (.remote (.answered status body)) = .refused (Utf8.toStringLossy body) :=
  explain_of_body ((RemoteFault.refusal_answered_eq_none_iff status).mpr h)
    (RemoteFault.body_answered status hbody)

theorem explain_answered_nil : explain wrap (.remote (.answered status [])) =
    wrap (.remote ⟨some status, none, none, "unexpected status " ++ toString status⟩) :=
  explain_of_nothing rfl rfl

/-- Where there is a body, a reason is told. -/
theorem exists_explain_answered (hbody : body ≠ []) :
    ∃ s, explain wrap (.remote (.answered status body)) = .refused s := by
  cases hr : (RemoteFault.answered status body).refusal with
  | some r => exact ⟨_, explain_of_refusal hr⟩
  | none => exact ⟨_, explain_of_body hr (RemoteFault.body_answered status hbody)⟩

/-- An explained fault tells of the answer, if no operation is taken for a reason. -/
theorem tells_explain_answered (hwrap : ∀ f s, wrap f ≠ .refused s) :
    (explain wrap (.remote (.answered status body))).Tells status body wrap where
  refusal r h := explain_of_refusal ((RemoteFault.refusal_answered_eq_some_iff status).mpr h)
  text h := by
    constructor
    · rintro htext rfl
      rw [explain_answered_nil] at htext
      exact hwrap _ _ htext
    · exact explain_answered_of_text status h
  verbatim h s hs hne := by
    have hbody : body ≠ [] := by
      rintro rfl
      have hempty := congrArg Utf8.toStringLossy hs
      rw [Utf8.toStringLossy_ofString] at hempty
      exact hne hempty.symm
    rw [explain_answered_of_text status h hbody, hs, Utf8.toStringLossy_ofString]
  operation := by
    constructor
    · intro hwrapped
      by_cases hbody : body = []
      · exact hbody
      · obtain ⟨s, hs⟩ := exists_explain_answered status hbody
        exact absurd (hwrapped.symm.trans hs) (hwrap _ _)
    · rintro rfl
      exact explain_answered_nil status

end Answered

end Failure

namespace Engine

/-- For every status and every body of a refused call: an observation and an update fail, and their
failure tells of the answer by its body, around which the operation is named if there is nothing in
it. In the fault itself a refusal stands only beside the body that tells it, and the body is absent
only if it is empty. -/
theorem refused_call_told_by_its_body (status : Nat) (body : List UInt8) :
    let fault := RemoteFault.answered status body
    (∀ r, fault.refusal = some r ↔ r.IsToldBy body) ∧
    (∀ r, fault.refusal = some r → fault.body = some body) ∧
    (fault.body = none ↔ body = []) ∧
    ∀ {σ : Type} (remote : Remote σ) (d : Desired) (st : σ),
      (∀ established, (remote.read d.entity d.service st).result = .error (.remote fault) →
        ∃ failure, (observe remote d established st).result = .error failure ∧
          failure.Tells status body (.readingFailed d.service)) ∧
      ∀ q, (remote.set (.ofQuota d q) st).result = .error (.remote fault) →
        ∃ failure, (update remote d q st).result = .error failure ∧
          failure.Tells status body (.settingFailed d.service d.plan) := by
  intro fault
  refine ⟨fun r => RemoteFault.refusal_answered_eq_some_iff status,
    fun r => RemoteFault.body_of_refusal, RemoteFault.body_answered_eq_none_iff status,
    fun remote d st => ⟨fun established h => ?_, fun q h => ?_⟩⟩
  · refine ⟨readFailure d (.remote fault), ?_, Failure.tells_explain_answered status nofun⟩
    rw [observe_result, h]
    rfl
  · refine ⟨setFailure d (.remote fault), ?_, Failure.tells_explain_answered status nofun⟩
    simp only [update, h, mapError_error]

/-- A refusal in an array, and a body that is no document. -/
theorem quota_exceeded_and_bad_gateway_told :
    let refusal : Refusal := ⟨some 11006, some "Quota exceeded", none, none⟩
    let exceeded := Utf8.ofString "[[11006,\"Quota exceeded\",null,null]]"
    let gateway := Utf8.ofString "bad gateway"
    let m : Memory := ⟨.empty, some (.remote (.answered 400 exceeded)),
      some (.remote (.answered 502 gateway))⟩
    let d := Desired.new "hana" "cloud" "sub-1"
    refusal.IsToldBy exceeded ∧ (∀ r : Refusal, ¬r.IsToldBy gateway) ∧
    (observe Memory.remote d none m).result = .error (.refused "Quota exceeded, Code 11006") ∧
    (update Memory.remote d (.numeric 3) m).result = .error (.refused "bad gateway") := by
  intro refusal exceeded gateway m d
  have htold : refusal.IsToldBy exceeded := Refusal.ofBytes?_eq_some_iff.mp (by decide +kernel)
  have hnone : ∀ r : Refusal, ¬r.IsToldBy gateway :=
    (RemoteFault.refusal_answered_eq_none_iff 502).mp (by decide +kernel)
  obtain ⟨-, -, -, hread⟩ := refused_call_told_by_its_body 400 exceeded
  obtain ⟨-, -, -, hset⟩ := refused_call_told_by_its_body 502 gateway
  obtain ⟨f, hobserve, hf⟩ := (hread Memory.remote d m).1 none rfl
  obtain ⟨g, hupdate, hg⟩ := (hset Memory.remote d m).2 (.numeric 3) rfl
  have hreason : Failure.reason refusal = "Quota exceeded, Code 11006" := by decide +kernel
  refine ⟨htold, hnone, ?_, ?_⟩
  · rw [hobserve, hf.refusal refusal htold]
    exact congrArg (Except.error ∘ Failure.refused) hreason
  · rw [hupdate, hg.verbatim hnone "bad gateway" rfl (by decide)]

end Engine
end PlanQuota
