import Refuge.Updates
import Refuge.Json.Reference

/-!
# Overriding a key of a text

What `cjson_add_key_value_to_json_string` with `OVERRIDE` does to each kind of
buffer.  A buffer that does not parse starts a new object; one that parses to
an object gets the key.  The kind of any other tree is not looked at: the value
becomes a nameless item of an array, or is dropped, and the call returns 0.
-/

namespace Refuge

open Foundation

section

variable (cJSON : CJson)

/-- The members a buffer starts from, if it is rewritten as an object. -/
def startingMembers (cjsonBuffer : Text) : Option (List (Text × Json)) :=
  match cJSON.parse cjsonBuffer with
  | none => some []
  | some (.object members) => some members
  | some _ => none

/-- The code of a call, and its buffer afterwards. -/
def addKeyValue (cjsonBuffer key buffer : Text) (flags : Nat) : Int × Text :=
  match cjsonAddKeyValueToJsonString cJSON cjsonBuffer key buffer flags with
  | .error code => (code, cjsonBuffer)
  | .ok text => (0, text)

/-- A call that returns 0 leaves an object in which the key has the encoded
value and every other name what it had; any other call leaves the buffer. -/
def VisibleAndLocal (cjsonBuffer key buffer : Text) (flags : Nat) : Prop :=
  let (code, after) := addKeyValue cJSON cjsonBuffer key buffer flags
  (code = 0 → ∃ members value, cJSON.parse after = some (.object members) ∧
    encodeValue cJSON buffer flags = some value ∧ Members.lookup members key = some value ∧
      isKeyInJsonBuffer cJSON after key = true ∧
        ∀ name, name ≠ key → Members.lookup members name = memberOf cJSON cjsonBuffer name) ∧
    (code ≠ 0 → after = cjsonBuffer)

/-- The buffer is rewritten as an object, and its members but the key come back
from printing. -/
def Overridable (cjsonBuffer key : Text) : Prop :=
  ∃ members, startingMembers cJSON cjsonBuffer = some members ∧
    ∀ member ∈ members, member.1 ≠ key → member.2.Finite

end

section

variable {cJSON : CJson} {cjsonBuffer key buffer : Text} {flags : Nat} {value : Json}
  {members : List (Text × Json)}

theorem addKeyValue_of_ok {text : Text}
    (added : cjsonAddKeyValueToJsonString cJSON cjsonBuffer key buffer flags = .ok text) :
    addKeyValue cJSON cjsonBuffer key buffer flags = (0, text) := by
  rw [addKeyValue, added]

/-- The members a buffer starts from are those of the object it parses to. -/
theorem lookup_startingMembers
    (starts : startingMembers cJSON cjsonBuffer = some members) (name : Text) :
    memberOf cJSON cjsonBuffer name = Members.lookup members name := by
  unfold startingMembers at starts
  unfold memberOf
  cases parsed : cJSON.parse cjsonBuffer with
  | none =>
      obtain rfl : [] = members := by simpa [parsed] using starts
      rfl
  | some tree =>
      cases tree with
      | object inner =>
          obtain rfl : inner = members := by simpa [parsed] using starts
          rfl
      | _ => simp [parsed] at starts

/-- Where the buffer starts as an object, overriding replaces the member. -/
theorem cjsonAddKeyValueToJsonString_starting
    (override : flags &&& OVERRIDE ≠ 0)
    (encoded : encodeValue cJSON buffer flags = some value)
    (starts : startingMembers cJSON cjsonBuffer = some members) :
    cjsonAddKeyValueToJsonString cJSON cjsonBuffer key buffer flags =
      .ok (cJSON.print (.object (Members.replace lowercase members key value))) := by
  unfold startingMembers at starts
  cases parsed : cJSON.parse cjsonBuffer with
  | none =>
      obtain rfl : [] = members := by simpa [parsed] using starts
      rw [cjsonAddKeyValueToJsonString_unparsable parsed, encoded]
      rfl
  | some tree =>
      cases tree with
      | object inner =>
          obtain rfl : inner = members := by simpa [parsed] using starts
          rw [cjsonAddKeyValueToJsonString_object parsed override, encoded]
      | _ => simp [parsed] at starts

/-- Where it does not, the call returns 0 and leaves something else than an
object. -/
theorem cjsonAddKeyValueToJsonString_notStarting
    (encoded : encodeValue cJSON buffer flags = some value)
    (other : startingMembers cJSON cjsonBuffer = none) :
    ∃ tree, tree.isObject = false ∧
      cjsonAddKeyValueToJsonString cJSON cjsonBuffer key buffer flags =
        .ok (cJSON.print tree) := by
  unfold startingMembers at other
  cases parsed : cJSON.parse cjsonBuffer with
  | none => simp [parsed] at other
  | some tree =>
      refine ⟨tree.addItemToObject key value, ?_, ?_⟩
      · cases tree with
        | object inner => simp [parsed] at other
        | _ => rfl
      · cases tree with
        | object inner => simp [parsed] at other
        | _ =>
            simp [cjsonAddKeyValueToJsonString, encoded, parsed, isKeyInJsonObject,
              Json.getObjectItemCaseSensitive]

/-- The names a buffer starts from are as distinct as those of its object. -/
theorem foldDistinct_of_startingMembers
    (distinct : ∀ members, cJSON.parse cjsonBuffer = some (.object members) →
      Members.FoldDistinct lowercase members)
    (starts : startingMembers cJSON cjsonBuffer = some members) :
    Members.FoldDistinct lowercase members := by
  unfold startingMembers at starts
  split at starts
  · obtain rfl := Option.some.inj starts
    exact List.nodup_nil
  · rename_i inner parsed
    obtain rfl := Option.some.inj starts
    exact distinct inner parsed
  · simp at starts

/-- The text of something else than an object does not parse to one. -/
theorem parse_print_ne_object
    (lawful : cJSON.Lawful) {tree : Json} (other : tree.isObject = false) :
    cJSON.parse (cJSON.print tree) ≠ some (.object members) := by
  rw [lawful.parse_print]
  intro same
  have kind := congrArg Json.isObject (Option.some.inj same)
  rw [Json.isObject_reprint, other] at kind
  exact Bool.noConfusion kind

/-- A call on a buffer that does not start as an object returns 0 and shows
nothing. -/
theorem not_visibleAndLocal_notStarting
    (lawful : cJSON.Lawful) (encoded : encodeValue cJSON buffer flags = some value)
    (starts : startingMembers cJSON cjsonBuffer = none) :
    ¬VisibleAndLocal cJSON cjsonBuffer key buffer flags := by
  obtain ⟨tree, other, printed⟩ :=
    @cjsonAddKeyValueToJsonString_notStarting cJSON cjsonBuffer key buffer flags value
      encoded starts
  intro holds
  rw [VisibleAndLocal, addKeyValue_of_ok printed] at holds
  obtain ⟨members, _, parsed, _⟩ := holds.1 rfl
  exact absurd parsed (parse_print_ne_object lawful other)

/-- One on a buffer that does is visible and local exactly when the value and the
other members come back from printing. -/
theorem visibleAndLocal_starting
    (lawful : cJSON.Lawful) (override : flags &&& OVERRIDE ≠ 0)
    (distinct : Members.FoldDistinct lowercase members)
    (encoded : encodeValue cJSON buffer flags = some value)
    (starts : startingMembers cJSON cjsonBuffer = some members) :
    VisibleAndLocal cJSON cjsonBuffer key buffer flags ↔
      value.Finite ∧ ∀ member ∈ members, member.1 ≠ key → member.2.Finite := by
  have printed := @cjsonAddKeyValueToJsonString_starting cJSON cjsonBuffer key buffer flags
    value members override encoded starts
  have parsed : cJSON.parse
      (cJSON.print (.object (Members.replace lowercase members key value))) =
      some (.object (Json.reprintMembers (Members.replace lowercase members key value))) := by
    rw [lawful.parse_print, Json.reprint_object]
  have shown := Json.lookup_reprintMembers_replace distinct key value
  rw [VisibleAndLocal, addKeyValue_of_ok printed]
  constructor
  · rintro ⟨holds, _⟩
    obtain ⟨after, stored, afterParsed, same, found, _, others⟩ := holds rfl
    obtain rfl := Option.some.inj (encoded.symm.trans same)
    obtain rfl := Json.object.inj (Option.some.inj (parsed.symm.trans afterParsed))
    refine ⟨?_, fun member present different => ?_⟩
    · rw [shown, if_pos rfl] at found
      exact (Json.reprint_eq_self_iff value).mp (Option.some.inj found)
    · have held : Members.lookup members member.1 = some member.2 :=
        (Members.lookup_eq_some_iff_mem distinct.nodup_names).mpr present
      have kept := others member.1 different
      rw [shown, if_neg different, lookup_startingMembers starts, held] at kept
      exact (Json.reprint_eq_self_iff member.2).mp (Option.some.inj kept)
  · rintro ⟨finite, others⟩
    refine ⟨fun _ => ⟨_, value, parsed, encoded, ?_, ?_, fun name different => ?_⟩,
      fun failed => absurd rfl failed⟩
    · rw [shown, if_pos rfl, finite.reprint_eq]
    · rw [isKeyInJsonBuffer, parsed]
      simp only [isKeyInJsonObject, Json.getObjectItemCaseSensitive_object]
      rw [shown, if_pos rfl]
      rfl
    · rw [shown, if_neg different, lookup_startingMembers starts]
      cases held : Members.lookup members name with
      | none => rfl
      | some item =>
          rw [Option.map_some, (others _ (Members.mem_of_lookup held) different).reprint_eq]

/-- When its value can be encoded, a call is visible and local exactly when the
value and the other members come back from printing. -/
theorem visibleAndLocal_of_encoded
    (lawful : cJSON.Lawful) (override : flags &&& OVERRIDE ≠ 0)
    (distinct : ∀ members, cJSON.parse cjsonBuffer = some (.object members) →
      Members.FoldDistinct lowercase members)
    (encoded : encodeValue cJSON buffer flags = some value) :
    VisibleAndLocal cJSON cjsonBuffer key buffer flags ↔
      value.Finite ∧ Overridable cJSON cjsonBuffer key := by
  cases starts : startingMembers cJSON cjsonBuffer with
  | none =>
      refine iff_of_false (not_visibleAndLocal_notStarting lawful encoded starts) ?_
      rintro ⟨_, members, same, _⟩
      rw [starts] at same
      exact absurd same.symm (Option.some_ne_none members)
  | some members =>
      have startsDistinct := foldDistinct_of_startingMembers distinct starts
      rw [visibleAndLocal_starting lawful override startsDistinct encoded starts, Overridable,
        starts]
      simp only [Option.some.injEq, exists_eq_left']

/-- A call is visible and local if and only if its value cannot be encoded, or
the value comes back from printing, the buffer starts as an object, and its
other members come back from printing. -/
theorem visibleAndLocal_iff
    (lawful : cJSON.Lawful) (override : flags &&& OVERRIDE ≠ 0)
    (distinct : ∀ members, cJSON.parse cjsonBuffer = some (.object members) →
      Members.FoldDistinct lowercase members) :
    VisibleAndLocal cJSON cjsonBuffer key buffer flags ↔
      ∀ value ∈ encodeValue cJSON buffer flags,
        value.Finite ∧ Overridable cJSON cjsonBuffer key := by
  cases encoded : encodeValue cJSON buffer flags with
  | none => simp [VisibleAndLocal, addKeyValue, cjsonAddKeyValueToJsonString, encoded]
  | some value =>
      rw [visibleAndLocal_of_encoded lawful override distinct encoded]
      simp

end

/-! ## An object and an array -/

/-- A key and its value, and a member beside it. -/
def keyObject : Json :=
  .object [("key".toList, .string "old".toList), ("other".toList, .string "kept".toList)]

/-- The key of an object is overridden, and its other member stays. -/
theorem visibleAndLocal_keyObject :
    VisibleAndLocal .reference (CJson.reference.print keyObject) "key".toList "new".toList
      OVERRIDE := by
  have parsed : CJson.reference.parse (CJson.reference.print keyObject) = some keyObject :=
    CJson.reference_lawful.parse_print_of_finite
      ((Json.finite_object_iff _).mpr ⟨Json.finite_string _, Json.finite_string _, trivial⟩)
  refine (visibleAndLocal_iff CJson.reference_lawful (by decide) fun members same => ?_).mpr
    fun value encoded => ?_
  · rw [parsed] at same
    obtain rfl := Json.object.inj (Option.some.inj same)
    decide
  · rw [encodeValue_override] at encoded
    obtain rfl := Option.some.inj encoded
    refine ⟨Json.finite_string _, _, by rw [startingMembers, parsed, keyObject], ?_⟩
    intro member present _
    rcases List.mem_pair.mp present with rfl | rfl
    · exact Json.finite_string _
    · exact Json.finite_string _

/-- An array gets a nameless item, and the call returns 0. -/
theorem not_visibleAndLocal_array :
    ¬VisibleAndLocal .reference (CJson.reference.print (.array [])) "key".toList "new".toList
      OVERRIDE := by
  have parsed : CJson.reference.parse (CJson.reference.print (.array [])) = some (.array []) :=
    CJson.reference_lawful.parse_print_of_finite trivial
  have starts : startingMembers .reference (CJson.reference.print (.array [])) = none := by
    rw [startingMembers, parsed]
  exact not_visibleAndLocal_notStarting CJson.reference_lawful (encodeValue_override _) starts

end Refuge
