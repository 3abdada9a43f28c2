import Refuge.Foundation.Merge
import Refuge.ClientRequest

/-!
# Merging two JSON texts

`merge_json_strings` copies the first object and puts the members of the second
into the copy one by one.  It looks a name up exactly and deletes it ignoring
case, so where the first object has a name in two spellings the merge may
delete the wrong one.
-/

namespace Refuge

open Foundation

namespace Json

/-- The named children of a value; the items of an array have no names. -/
def namedChildren : Json → List (Text × Json)
  | .object members => members
  | _ => []

/-- One turn of the loop of `merge_json_strings`. -/
def mergeItem (mergedObject : Json) (currentItem : Text × Json) : Json :=
  if isKeyInJsonObject mergedObject currentItem.1 then
    (mergedObject.deleteItemFromObject currentItem.1).addItemToObject
      currentItem.1 currentItem.2
  else mergedObject.addItemToObject currentItem.1 currentItem.2

/-- The loop merges the members. -/
theorem foldl_mergeItem (first second : List (Text × Json)) :
    second.foldl mergeItem (.object first) =
      .object (Members.merge lowercase first second) := by
  induction second generalizing first with
  | nil => rfl
  | cons member second inductionHypothesis =>
      have step : mergeItem (.object first) member =
          .object (Members.replace lowercase first member.1 member.2) :=
        overrideItem_object first member.1 member.2
      rw [List.foldl_cons, step, inductionHypothesis, Members.merge_cons]

end Json

section

variable (cJSON : CJson)

/-- `merge_json_strings`; the result is `merged_json`. -/
def mergeJsonStrings (jsonString1 jsonString2 : Text) : Except Int Text :=
  match cJSON.parse jsonString1, cJSON.parse jsonString2 with
  | some jsonObject1, some jsonObject2 =>
      .ok (cJSON.print (jsonObject2.namedChildren.foldl Json.mergeItem jsonObject1))
  | _, _ => .error 1

/-- The merged text is an object with the right-biased union of the members. -/
def MergesRight
    (jsonString1 jsonString2 : Text) (first second : List (Text × Json)) : Prop :=
  ∃ mergedJson merged, mergeJsonStrings cJSON jsonString1 jsonString2 = .ok mergedJson ∧
    cJSON.parse mergedJson = some (.object merged) ∧ Members.RightUnion first second merged

end

/-- No spelling of a name of the second list shadows it in the first, and the
values of the union come back from printing. -/
def Mergeable (first second : List (Text × Json)) : Prop :=
  Members.Unshadowed lowercase (Members.names first) (Members.names second) ∧
    (∀ member ∈ second, member.2.Finite) ∧
      ∀ member ∈ first, member.1 ∉ Members.names second → member.2.Finite

/-- Two texts of mergeable objects with distinct names. -/
def MergeableTexts (cJSON : CJson) (jsonString1 jsonString2 : Text) : Prop :=
  ∃ first second, cJSON.parse jsonString1 = some (.object first) ∧
    cJSON.parse jsonString2 = some (.object second) ∧ (Members.names first).Nodup ∧
      (Members.names second).Nodup ∧ Mergeable first second

section

variable {cJSON : CJson} {jsonString1 jsonString2 : Text} {first second : List (Text × Json)}

/-- The merged text parses to the merge of the members, as printing leaves it. -/
theorem mergeJsonStrings_object
    (lawful : cJSON.Lawful)
    (firstParsed : cJSON.parse jsonString1 = some (.object first))
    (secondParsed : cJSON.parse jsonString2 = some (.object second)) :
    ∃ mergedJson, mergeJsonStrings cJSON jsonString1 jsonString2 = .ok mergedJson ∧
      cJSON.parse mergedJson =
        some (.object (Json.reprintMembers (Members.merge lowercase first second))) := by
  refine ⟨cJSON.print (.object (Members.merge lowercase first second)), ?_, ?_⟩
  · simp only [mergeJsonStrings, firstParsed, secondParsed, Json.namedChildren,
      Json.foldl_mergeItem]
  · rw [lawful.parse_print, Json.reprint_object]

/-- The union of two lists comes back from printing exactly when each value in
it does. -/
theorem map_reprint_union_eq_iff
    (firstDistinct : (Members.names first).Nodup)
    (secondDistinct : (Members.names second).Nodup) :
    (∀ name, ((Members.lookup second name).or (Members.lookup first name)).map Json.reprint =
      (Members.lookup second name).or (Members.lookup first name)) ↔
      (∀ member ∈ second, member.2.Finite) ∧
        ∀ member ∈ first, member.1 ∉ Members.names second → member.2.Finite := by
  constructor
  · intro same
    refine ⟨fun member present => ?_, fun member present absent => ?_⟩
    · have found : Members.lookup second member.1 = some member.2 :=
        (Members.lookup_eq_some_iff_mem secondDistinct).mpr present
      have kept := same member.1
      rw [found, Option.some_or, Option.map_some] at kept
      exact (Json.reprint_eq_self_iff _).mp (Option.some.inj kept)
    · have found : Members.lookup first member.1 = some member.2 :=
        (Members.lookup_eq_some_iff_mem firstDistinct).mpr present
      have kept := same member.1
      rw [(Members.lookup_eq_none_iff _ _).mpr absent, Option.none_or, found,
        Option.map_some] at kept
      exact (Json.reprint_eq_self_iff _).mp (Option.some.inj kept)
  · rintro ⟨secondFinite, firstFinite⟩ name
    cases inSecond : Members.lookup second name with
    | some value =>
        rw [Option.some_or, Option.map_some,
          (secondFinite _ (Members.mem_of_lookup inSecond)).reprint_eq]
    | none =>
        rw [Option.none_or]
        cases inFirst : Members.lookup first name with
        | none => rfl
        | some value =>
            rw [Option.map_some, (firstFinite _ (Members.mem_of_lookup inFirst)
              ((Members.lookup_eq_none_iff _ _).mp inSecond)).reprint_eq]

/-- The merged text is the right-biased union exactly when the objects are
mergeable. -/
theorem mergesRight_iff
    (lawful : cJSON.Lawful)
    (firstParsed : cJSON.parse jsonString1 = some (.object first))
    (secondParsed : cJSON.parse jsonString2 = some (.object second))
    (firstDistinct : (Members.names first).Nodup)
    (secondDistinct : (Members.names second).Nodup) :
    MergesRight cJSON jsonString1 jsonString2 first second ↔ Mergeable first second := by
  obtain ⟨mergedJson, merges, mergedParsed⟩ :=
    mergeJsonStrings_object lawful firstParsed secondParsed
  constructor
  · rintro ⟨other, merged, same, parsed, union⟩
    obtain rfl := Except.ok.inj (merges.symm.trans same)
    obtain rfl := Json.object.inj (Option.some.inj (mergedParsed.symm.trans parsed))
    have distinct := union.distinct
    rw [Json.names_reprintMembers] at distinct
    have unshadowed := Members.unshadowed_of_names_merge firstDistinct secondDistinct distinct
      fun name present => by
        rw [← Members.lookup_isSome_iff_mem_names, ← Option.isSome_map (f := Json.reprint),
          ← Json.lookup_reprintMembers, union.shows, Option.isSome_or, Bool.or_eq_true,
          Members.lookup_isSome_iff_mem_names, Members.lookup_isSome_iff_mem_names]
        exact (List.mem_append.mp present).symm
    refine ⟨unshadowed, (map_reprint_union_eq_iff firstDistinct secondDistinct).mp fun name => ?_⟩
    have exact := Members.rightUnion_merge firstDistinct secondDistinct unshadowed
    have shown := union.shows name
    rwa [Json.lookup_reprintMembers, exact.shows] at shown
  · rintro ⟨unshadowed, finite⟩
    have exact := Members.rightUnion_merge firstDistinct secondDistinct unshadowed
    refine ⟨mergedJson, _, merges, mergedParsed, ?_, fun name => ?_⟩
    · rw [Json.names_reprintMembers]
      exact exact.distinct
    · rw [Json.lookup_reprintMembers, exact.shows]
      exact (map_reprint_union_eq_iff firstDistinct secondDistinct).mpr finite name

/-- The maps of both sides of mergeable texts. -/
theorem MergeableTexts.rightUnion
    (lawful : cJSON.Lawful) {mergedJson : Text}
    (mergeable : MergeableTexts cJSON jsonString1 jsonString2)
    (merges : mergeJsonStrings cJSON jsonString1 jsonString2 = .ok mergedJson) :
    ∃ first second merged, cJSON.parse jsonString1 = some (.object first) ∧
      cJSON.parse jsonString2 = some (.object second) ∧
        cJSON.parse mergedJson = some (.object merged) ∧
          Members.RightUnion first second merged := by
  obtain ⟨first, second, firstParsed, secondParsed, firstDistinct, secondDistinct, each⟩ :=
    mergeable
  obtain ⟨other, merged, same, parsed, union⟩ := (mergesRight_iff lawful firstParsed secondParsed
    firstDistinct secondDistinct).mpr each
  obtain rfl := Except.ok.inj (merges.symm.trans same)
  exact ⟨first, second, merged, firstParsed, secondParsed, parsed, union⟩

/-- Merges of mergeable texts associate as maps. -/
theorem mergeJsonStrings_assoc
    (lawful : cJSON.Lawful) {jsonString3 text12 text23 left right : Text}
    (merges12 : mergeJsonStrings cJSON jsonString1 jsonString2 = .ok text12)
    (merges23 : mergeJsonStrings cJSON jsonString2 jsonString3 = .ok text23)
    (mergesLeft : mergeJsonStrings cJSON text12 jsonString3 = .ok left)
    (mergesRight : mergeJsonStrings cJSON jsonString1 text23 = .ok right)
    (mergeable12 : MergeableTexts cJSON jsonString1 jsonString2)
    (mergeable23 : MergeableTexts cJSON jsonString2 jsonString3)
    (mergeableLeft : MergeableTexts cJSON text12 jsonString3)
    (mergeableRight : MergeableTexts cJSON jsonString1 text23) (name : Text) :
    memberOf cJSON left name = memberOf cJSON right name := by
  obtain ⟨first, second, both, firstParsed, secondParsed, bothParsed, bothUnion⟩ :=
    mergeable12.rightUnion lawful merges12
  obtain ⟨_, third, others, secondAgain, thirdParsed, othersParsed, othersUnion⟩ :=
    mergeable23.rightUnion lawful merges23
  obtain ⟨_, _, leftMembers, bothAgain, thirdAgain, leftParsed, leftUnion⟩ :=
    mergeableLeft.rightUnion lawful mergesLeft
  obtain ⟨_, _, rightMembers, firstAgain, othersAgain, rightParsed, rightUnion⟩ :=
    mergeableRight.rightUnion lawful mergesRight
  -- Each text parses to one list of members.
  obtain rfl := Json.object.inj (Option.some.inj (secondParsed.symm.trans secondAgain))
  obtain rfl := Json.object.inj (Option.some.inj (bothParsed.symm.trans bothAgain))
  obtain rfl := Json.object.inj (Option.some.inj (thirdParsed.symm.trans thirdAgain))
  obtain rfl := Json.object.inj (Option.some.inj (firstParsed.symm.trans firstAgain))
  obtain rfl := Json.object.inj (Option.some.inj (othersParsed.symm.trans othersAgain))
  rw [memberOf, memberOf, leftParsed, rightParsed]
  exact Members.RightUnion.assoc bothUnion leftUnion othersUnion rightUnion name

/-- A merge is the right-biased union exactly when its objects are mergeable;
merging a text with itself gives the same map exactly when its numbers are
finite; and merges of mergeable texts associate as maps. -/
theorem merge_is_right_union_iff
    (lawful : cJSON.Lawful)
    (firstParsed : cJSON.parse jsonString1 = some (.object first))
    (secondParsed : cJSON.parse jsonString2 = some (.object second))
    (firstDistinct : (Members.names first).Nodup)
    (secondDistinct : (Members.names second).Nodup) :
    (MergesRight cJSON jsonString1 jsonString2 first second ↔ Mergeable first second) ∧
      (MergesRight cJSON jsonString1 jsonString1 first first ↔
        ∀ member ∈ first, member.2.Finite) ∧
        ∀ jsonString3 text12 text23 left right,
          mergeJsonStrings cJSON jsonString1 jsonString2 = .ok text12 →
            mergeJsonStrings cJSON jsonString2 jsonString3 = .ok text23 →
              mergeJsonStrings cJSON text12 jsonString3 = .ok left →
                mergeJsonStrings cJSON jsonString1 text23 = .ok right →
                  MergeableTexts cJSON jsonString1 jsonString2 →
                    MergeableTexts cJSON jsonString2 jsonString3 →
                      MergeableTexts cJSON text12 jsonString3 →
                        MergeableTexts cJSON jsonString1 text23 →
                          ∀ name, memberOf cJSON left name = memberOf cJSON right name := by
  refine ⟨mergesRight_iff lawful firstParsed secondParsed firstDistinct secondDistinct, ?_, ?_⟩
  · rw [mergesRight_iff lawful firstParsed firstParsed firstDistinct firstDistinct]
    refine ⟨fun mergeable => mergeable.2.1, fun finite => ?_⟩
    exact ⟨Members.unshadowed_self _ _, finite, fun member present _ => finite member present⟩
  · intro jsonString3 text12 text23 left right merges12 merges23 mergesLeft mergesRight
      mergeable12 mergeable23 mergeableLeft mergeableRight name
    exact mergeJsonStrings_assoc lawful merges12 merges23 mergesLeft mergesRight mergeable12
      mergeable23 mergeableLeft mergeableRight name

end

/-! ## Two spellings -/

/-- Amounts under two names. -/
def waterAndRice : List (Text × Text) :=
  [("water".toList, "1".toList), ("rice".toList, "2".toList)]

/-- An amount under a new name and one under an old name. -/
def breadAndWater : List (Text × Text) :=
  [("bread".toList, "3".toList), ("water".toList, "4".toList)]

/-- Amounts under two spellings of a name. -/
def waterTwice : List (Text × Text) :=
  [("Water".toList, "1".toList), ("water".toList, "2".toList)]

private theorem parse_textObject (fields : List (Text × Text)) :
    CJson.reference.parse (CJson.reference.print (textObject fields)) =
      some (textObject fields) := by
  rw [CJson.reference_lawful.parse_print, reprint_textObject]

private theorem finite_textMember {fields : List (Text × Text)} {member : Text × Json}
    (present : member ∈ fields.map fun field => (field.1, Json.string field.2)) :
    member.2.Finite := by
  obtain ⟨field, _, rfl⟩ := List.mem_map.mp present
  exact Json.finite_string _

/-- The merge of two objects whose names have one spelling. -/
theorem merge_is_right_union_iff_water :
    MergesRight .reference (CJson.reference.print (textObject waterAndRice))
      (CJson.reference.print (textObject breadAndWater))
      (waterAndRice.map fun field => (field.1, .string field.2))
      (breadAndWater.map fun field => (field.1, .string field.2)) :=
  (merge_is_right_union_iff CJson.reference_lawful (parse_textObject _) (parse_textObject _)
    (by decide) (by decide)).1.mpr
      ⟨by decide, fun _ present => finite_textMember present,
        fun _ present _ => finite_textMember present⟩

/-- The merge into an object with two spellings loses one of them. -/
theorem not_mergesRight_waterTwice :
    ¬MergesRight .reference (CJson.reference.print (textObject waterTwice))
      (CJson.reference.print (textObject breadAndWater))
      (waterTwice.map fun field => (field.1, .string field.2))
      (breadAndWater.map fun field => (field.1, .string field.2)) := by
  rw [mergesRight_iff CJson.reference_lawful (parse_textObject _) (parse_textObject _)
    (by decide) (by decide)]
  rintro ⟨unshadowed, _⟩
  exact absurd unshadowed (by decide)

end Refuge
