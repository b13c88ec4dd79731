import PlanQuota.Proofs.Comparison
import PlanQuota.Proofs.Operations
import PlanQuota.Proofs.Spelling

/-!
An amount on its way to the service and back. It is written as a decimal literal, and a record that
comes back with the same literal is read with the number nearest to it. That is the number the
required amount is compared with, so the record counts as up to date, however large the amount is.
-/
namespace PlanQuota

namespace Json

/-- An integer is written in decimal digits, after a minus sign if it is negative. -/
theorem toText_ofInt64 (n : Int64) : (ofInt64 n).toText = toString n.toInt := by
  unfold toText ofInt64 ofInt write writeNumber writeInt
  cases n.toInt with
  | ofNat m =>
    have hnot : ¬(m : Int) < 0 := by omega
    simp [toString, Int.repr, Nat.repr, hnot]
  | negSucc m => simp [toString, Int.repr, Nat.repr]

theorem writeMembers_suffix (ms : List (Option String × Json)) (key : Option String) (v : Json) :
    writeString key ++ ':' :: write v ++ ['\x7d'] <:+ writeMembers (ms ++ [(key, v)]) := by
  induction ms with
  | nil => exact ⟨[','], by simp [writeMembers]⟩
  | cons m ms ih =>
    obtain ⟨name, value⟩ := m
    simp only [List.cons_append, writeMembers]
    exact (ih.trans (List.suffix_append _ _)).trans (List.suffix_cons _ _)

/-- The last member of an object stands before the closing brace. -/
theorem write_record_suffix (ms : List (String × Json)) (key : String) (v : Json) :
    writeString (some key) ++ ':' :: write v ++ ['\x7d'] <:+ write (record (ms ++ [(key, v)])) := by
  cases ms with
  | nil => exact ⟨['\x7b'], by simp [record, write, writeMembers]⟩
  | cons m ms =>
    have h := writeMembers_suffix (ms.map fun m => (some m.1, m.2)) (some key) v
    simp only [record, List.cons_append, List.map_cons, List.map_append, List.map_nil, write]
    exact (h.trans (List.suffix_append _ _)).trans (List.suffix_cons _ _)

/-- So does the only element of a list that is the last member. -/
theorem write_record_element_suffix (ms : List (String × Json)) (key : String) (v : Json) :
    write v ++ [']', '\x7d'] <:+ write (record (ms ++ [(key, .array [v])])) := by
  have h := write_record_suffix ms key (.array [v])
  refine List.IsSuffix.trans ⟨writeString (some key) ++ [':', '['], ?_⟩ h
  simp [write, writeElements]

end Json

/-- A request for an amount ends in it. -/
theorem SetRequest.toText_ofQuota_numeric (d : Desired) (n : Int64) :
    ∃ front, (SetRequest.ofQuota d (.numeric n)).toJson.toText =
      front ++ "\"amount\":" ++ toString n.toInt ++ "\x7d]\x7d]\x7d" := by
  let grant : EntityGrant := ⟨d.entity, some n, none⟩
  let plan : PlanGrant := ⟨d.service, d.plan, d.planIdentifier, [grant]⟩
  obtain ⟨inGrant, hgrant⟩ : Json.writeString (some "amount") ++ ':' :: Json.write (.ofInt64 n) ++
      ['\x7d'] <:+ grant.toJson.write :=
    Json.write_record_suffix [("subaccountGUID", .text d.entity)] "amount" (.ofInt64 n)
  obtain ⟨inPlan, hplan⟩ : grant.toJson.write ++ [']', '\x7d'] <:+ plan.toJson.write :=
    Json.write_record_element_suffix _ "assignmentInfo" grant.toJson
  obtain ⟨inRequest, hrequest⟩ : plan.toJson.write ++ [']', '\x7d'] <:+
      (SetRequest.ofQuota d (.numeric n)).toJson.write :=
    Json.write_record_element_suffix [] "subaccountServicePlans" plan.toJson
  have hliteral := congrArg String.toList (Json.toText_ofInt64 n)
  rw [Json.toText, String.toList_ofList] at hliteral
  have hkey : Json.writeString (some "amount") = "\"amount\"".toList := by decide
  refine ⟨String.ofList (inRequest ++ inPlan ++ inGrant), ?_⟩
  apply String.toList_inj.mp
  rw [Json.toText, String.toList_ofList, ← hrequest, ← hplan, ← hgrant, hliteral, hkey]
  simp

namespace Json

/-- The literal of an integer of 64 bits is read as the number the integer is converted to. -/
theorem binary64?_ofInt64 (n : Int64) :
    binary64? (ofInt64 n) = some (Binary64.ofInt n.toInt) := by
  have hlow := n.le_toInt
  have hhigh := n.toInt_lt
  have hrank := Binary64.rankNear_lt_rankLimit (m := n.toInt.natAbs) (by omega)
  have hmin : min (Binary64.rankNear n.toInt.natAbs 1) (Binary64.rankLimit - 1) =
      Binary64.rankNear n.toInt.natAbs 1 := by omega
  have hdigits := significand_toDigits (n := n.toInt.natAbs) (by simp only [UInt64.size]; omega)
  simp only [binary64?, ofInt64, ofInt, hdigits, List.length_nil, Int.natCast_zero,
    Binary64.ofDecimal?_zero, Binary64.ofRank?, hrank, dif_pos, Binary64.ofInt, hmin]

end Json

namespace Assignment

/-- The amount of a record is read by itself: a record is none with or without it, and whatever
number stands there is its amount. -/
theorem ofJson?_cons_amount {j : Json} {x : Binary64} (hnull : j ≠ .null)
    (hx : Json.binary64? j = some x) (ms : List (Option String × Json)) :
    ofJson? (.object ((some "amount", j) :: ms)) =
      (ofJson? (.object ((some "amount", .null) :: ms))).map fun a =>
        { a with amount := some x } := by
  have hfields (v : Json) : (Json.object ((some "amount", v) :: ms)).fields? keys =
      if Json.wellNamed keys ((some "amount", .null) :: ms) = true then
        some (Json.member ((some "amount", v) :: ms)) else none := by
    have hnamed : Json.wellNamed keys ((some "amount", v) :: ms) =
        Json.wellNamed keys ((some "amount", .null) :: ms) := by
      simp [Json.wellNamed, List.countP_cons]
    rw [← hnamed]
    rfl
  have hgiven : Json.Slot.optional Json.binary64? (.given j) = some (some x) := by
    unfold Json.Slot.optional
    cases j <;> simp_all
  have hblank : Json.Slot.optional Json.binary64? (.given .null) = some none := rfl
  unfold ofJson?
  rw [hfields, hfields]
  by_cases h : Json.wellNamed keys ((some "amount", .null) :: ms) = true
  · simp only [h, if_true, Json.member_cons, Option.some.injEq, String.reduceEq, if_false, hgiven,
      hblank, Option.bind_eq_bind, Option.bind_some, Option.map_bind, Function.comp_def]
    rfl
  · simp [h]

theorem ofJson?_amount {j : Json} {x : Binary64} (hnull : j ≠ .null)
    (hx : Json.binary64? j = some x) (front back : List (Option String × Json)) :
    ofJson? (.object (front ++ (some "amount", j) :: back)) =
      (ofJson? (.object (front ++ (some "amount", .null) :: back))).map fun a =>
        { a with amount := some x } := by
  have hmiddle (v : Json) : ofJson? (.object (front ++ (some "amount", v) :: back)) =
      ofJson? (.object ((some "amount", v) :: (front ++ back))) :=
    Wire.Kind.read_middle (k := .assignment) (some "amount", v) front back
  rw [hmiddle, hmiddle, ofJson?_cons_amount hnull hx]

end Assignment

/-- The literal that an update writes for an amount. It ends the request. An assignment that has it
for its amount, whatever else is said there, is read if it is one without an amount, and needs no
change. -/
theorem written_amount_comes_back (d : Desired) (n : Int64) :
    (∀ {σ : Type} (remote : Remote σ) (s : σ), ∃ request front,
      (Engine.update remote d (.numeric n) s).calls = [.set request] ∧
      request.toJson.toText =
        front ++ "\"amount\":" ++ toString n.toInt ++ "\x7d]\x7d]\x7d") ∧
    ∃ literal, Json.ofString? (toString n.toInt) = some literal ∧
      ∀ front back : List (Option String × Json),
        Assignment.ofJson? (.object (front ++ (some "amount", literal) :: back)) =
          (Assignment.ofJson? (.object (front ++ (some "amount", .null) :: back))).map
            (fun a => { a with amount := some (Binary64.ofInt n.toInt) }) ∧
        ∀ a, Assignment.ofJson? (.object (front ++ (some "amount", literal) :: back)) = some a →
          ∀ s : PlanState, s.assignment = some a → s.mutation (.numeric n) = .none := by
  refine ⟨fun remote s => ?_, .ofInt64 n, ?_, fun front back => ?_⟩
  · obtain ⟨front, htext⟩ := SetRequest.toText_ofQuota_numeric d n
    exact ⟨_, front, Engine.update_calls remote d s (.numeric n), htext⟩
  · rw [← Json.toText_ofInt64, Json.ofString?_toText]
  · have hread := Assignment.ofJson?_amount (Json.ofInt64_ne_null n) (Json.binary64?_ofInt64 n)
      front back
    refine ⟨hread, fun a ha s hs => ?_⟩
    rw [hread, Option.map_eq_some_iff] at ha
    obtain ⟨b, -, rfl⟩ := ha
    rw [PlanState.mutation_eq_none_iff, PlanState.isUpToDate_numeric_iff]
    exact ⟨Binary64.ofInt n.toInt, by rw [PlanState.amount?, hs]; rfl, rfl⟩

/-- The largest amount is not a number, and the number that comes back is one more. -/
theorem largest_amount_comes_back :
    let n : Int64 := 9223372036854775807
    let literal := Json.ofInt 9223372036854775807
    let a : Assignment :=
      ⟨"sub-1", none, none, none, some (Binary64.ofInt 9223372036854775808), none, none, none⟩
    let s : PlanState := ⟨⟨"application", none, none, none, false, none⟩, some a⟩
    Json.ofString? "9223372036854775807" = some literal ∧
    Assignment.ofJson? (.record [("entityId", .text "sub-1"), ("amount", literal)]) = some a ∧
    s.mutation (.numeric n) = .none := by
  intro n literal a s
  obtain ⟨-, j, hj, hrecord⟩ :=
    written_amount_comes_back ⟨"xsuaa", "application", none, "sub-1", some n⟩ n
  have htext : toString n.toInt = "9223372036854775807" := by decide +kernel
  have hliteral : Json.ofString? (toString n.toInt) = some literal :=
    Json.toText_ofInt64 n ▸ Json.ofString?_toText literal
  obtain rfl := Option.some.inj (hj.symm.trans hliteral)
  rw [htext] at hliteral
  obtain ⟨hread, hnone⟩ := hrecord [(some "entityId", .text "sub-1")] []
  have ha : Assignment.ofJson? (.record [("entityId", .text "sub-1"), ("amount", literal)]) =
      some a := hread.trans (by decide +kernel)
  exact ⟨hliteral, ha, hnone a ha s rfl⟩

end PlanQuota
