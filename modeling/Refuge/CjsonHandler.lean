import Refuge.Json.Library

/-!
# Reading and rewriting JSON texts

The functions of `cjson_handler.c` that the server and the client share.  Each
takes texts, parses what it needs, and prints what it changed; a failure is
the code it returns, and leaves its output argument as it was.  Memory
allocation succeeds and no pointer argument is null, as at every call site.
-/

namespace Refuge

open Foundation

/-- Try to store a number. -/
def INTPARSE : Nat := 4

/-- Store the value as JSON text. -/
def OBJPARSE : Nat := 8

/-- Replace a key that is already present. -/
def OVERRIDE : Nat := 1

section

variable (cJSON : CJson)

/-- The text of a value: that of a string, the `%f` text of a number, the
printed text of an object; nothing else has one. -/
def textOfValue : Json → Except Int Text
  | .string valuestring => .ok valuestring
  | .number valuedouble => .ok (sprintfF valuedouble)
  | .object members => .ok (cJSON.print (.object members))
  | _ => .error 1

/-- `get_value_of_key_from_json_object`. -/
def getValueOfKeyFromJsonObject (cjsonObject : Json) (key : Text) : Except Int Text :=
  match cjsonObject.getObjectItemCaseSensitive key with
  | none => .error 1
  | some jsonValue => textOfValue cJSON jsonValue

/-- `get_value_of_key_from_json_string`. -/
def getValueOfKeyFromJsonString (cjsonBuffer key : Text) : Except Int Text :=
  match cJSON.parse cjsonBuffer with
  | none => .error (-1)
  | some cjsonObject =>
      match getValueOfKeyFromJsonObject cJSON cjsonObject key with
      | .error _ => .error 1
      | .ok buffer => .ok buffer

/-- `is_key_in_json_object`. -/
def isKeyInJsonObject (cjsonObject : Json) (key : Text) : Bool :=
  (cjsonObject.getObjectItemCaseSensitive key).isSome

/-- `is_key_in_json_buffer`. -/
def isKeyInJsonBuffer (cjsonBuffer key : Text) : Bool :=
  match cJSON.parse cjsonBuffer with
  | none => false
  | some cjsonObject => isKeyInJsonObject cjsonObject key

/-- The value `cjson_add_key_value_to_json_string` makes of a text: a number
if that is asked for and the text does not convert to zero, the parsed text if
that is asked for, and a string otherwise. -/
def encodeValue (buffer : Text) (flags : Nat) : Option Json :=
  if flags &&& INTPARSE ≠ 0 ∧ (atof buffer).isZero = false then
    some (.number (atof buffer))
  else if flags &&& OBJPARSE ≠ 0 then
    cJSON.parse buffer
  else
    some (.string buffer)

/-- The value `OVERRIDE | INTPARSE` makes of a text. -/
def storedValue (buffer : Text) : Json :=
  if (atof buffer).isZero then .string buffer else .number (atof buffer)

/-- `cjson_add_key_value_to_json_string`: the new content of the buffer.  A
buffer that does not parse starts a new object.  A key that is present without
`OVERRIDE` leaves the buffer as it is and still returns 0. -/
def cjsonAddKeyValueToJsonString
    (cjsonBuffer key buffer : Text) (flags : Nat) : Except Int Text :=
  let cjsonObject := (cJSON.parse cjsonBuffer).getD (.object [])
  match encodeValue cJSON buffer flags with
  | none => .error 1
  | some value =>
      if isKeyInJsonObject cjsonObject key then
        if flags &&& OVERRIDE ≠ 0 then
          .ok (cJSON.print
            ((cjsonObject.deleteItemFromObject key).addItemToObject key value))
        else
          .ok cjsonBuffer
      else
        .ok (cJSON.print (cjsonObject.addItemToObject key value))

end

/-- What the function makes of a tree with `OVERRIDE`. -/
def Json.overrideItem (tree : Json) (key : Text) (value : Json) : Json :=
  if isKeyInJsonObject tree key then (tree.deleteItemFromObject key).addItemToObject key value
  else tree.addItemToObject key value

@[simp] theorem Json.overrideItem_object
    (members : List (Text × Json)) (key : Text) (value : Json) :
    (Json.object members).overrideItem key value =
      .object (Members.replace lowercase members key value) := by
  have present : isKeyInJsonObject (.object members) key =
      (Members.lookup members key).isSome := rfl
  rw [Json.overrideItem, present, Members.replace]
  cases (Members.lookup members key).isSome with
  | true => rfl
  | false => rfl

section

variable {cJSON : CJson}

/-- Asking for a key that holds an object yields the printed object. -/
theorem getValueOfKeyFromJsonString_object
    {cjsonBuffer key : Text} {members inner : List (Text × Json)}
    (parsed : cJSON.parse cjsonBuffer = some (.object members))
    (found : Members.lookup members key = some (.object inner)) :
    getValueOfKeyFromJsonString cJSON cjsonBuffer key =
      .ok (cJSON.print (.object inner)) := by
  simp [getValueOfKeyFromJsonString, getValueOfKeyFromJsonObject, textOfValue,
    parsed, found]

/-- A text that yields the value of a key parses to an object with that key. -/
theorem parse_of_getValueOfKeyFromJsonString
    {cjsonBuffer key value : Text}
    (got : getValueOfKeyFromJsonString cJSON cjsonBuffer key = .ok value) :
    ∃ members item, cJSON.parse cjsonBuffer = some (.object members) ∧
      Members.lookup members key = some item := by
  unfold getValueOfKeyFromJsonString getValueOfKeyFromJsonObject at got
  cases parsed : cJSON.parse cjsonBuffer with
  | none => simp [parsed] at got
  | some cjsonObject =>
      cases found : cjsonObject.getObjectItemCaseSensitive key with
      | none => simp [parsed, found] at got
      | some item =>
          obtain ⟨members, rfl, inMembers⟩ := Json.isObject_of_getObjectItem found
          exact ⟨members, item, rfl, inMembers⟩

/-- Overriding a key prints the tree of the buffer with the value under the key. -/
theorem cjsonAddKeyValueToJsonString_override
    (cjsonBuffer key : Text) {buffer : Text} {flags : Nat} {value : Json}
    (override : flags &&& OVERRIDE ≠ 0)
    (encoded : encodeValue cJSON buffer flags = some value) :
    cjsonAddKeyValueToJsonString cJSON cjsonBuffer key buffer flags =
      .ok (cJSON.print
        (((cJSON.parse cjsonBuffer).getD (.object [])).overrideItem key value)) := by
  unfold cjsonAddKeyValueToJsonString Json.overrideItem
  rw [encoded]
  dsimp only
  rw [if_pos override]
  split
  · rfl
  · rfl

/-- Overriding a key of an object replaces the member. -/
theorem cjsonAddKeyValueToJsonString_object
    {cjsonBuffer key buffer : Text} {flags : Nat} {members : List (Text × Json)}
    (parsed : cJSON.parse cjsonBuffer = some (.object members))
    (override : flags &&& OVERRIDE ≠ 0) :
    cjsonAddKeyValueToJsonString cJSON cjsonBuffer key buffer flags =
      match encodeValue cJSON buffer flags with
      | none => .error 1
      | some value =>
          .ok (cJSON.print (.object (Members.replace lowercase members key value))) := by
  cases encoded : encodeValue cJSON buffer flags with
  | none => simp [cjsonAddKeyValueToJsonString, encoded]
  | some value =>
      rw [cjsonAddKeyValueToJsonString_override _ _ override encoded, parsed,
        Option.getD_some, Json.overrideItem_object]

/-- A buffer that does not parse is rewritten to hold the key alone. -/
theorem cjsonAddKeyValueToJsonString_unparsable
    {cjsonBuffer key buffer : Text} {flags : Nat}
    (unparsable : cJSON.parse cjsonBuffer = none) :
    cjsonAddKeyValueToJsonString cJSON cjsonBuffer key buffer flags =
      match encodeValue cJSON buffer flags with
      | none => .error 1
      | some value => .ok (cJSON.print (.object [(key, value)])) := by
  cases encoded : encodeValue cJSON buffer flags <;>
    simp [cjsonAddKeyValueToJsonString, encoded, unparsable, isKeyInJsonObject,
      Json.addItemToObject]

/-- Without the two parsing flags a text is stored as a string. -/
theorem encodeValue_override (buffer : Text) :
    encodeValue cJSON buffer OVERRIDE = some (.string buffer) := by
  simp [encodeValue, OVERRIDE, INTPARSE, OBJPARSE]

/-- With `INTPARSE` a text is a number or a string, never a failure. -/
theorem encodeValue_intparse (buffer : Text) :
    encodeValue cJSON buffer (OVERRIDE ||| INTPARSE) =
      some (storedValue buffer) := by
  cases zero : (atof buffer).isZero <;>
    simp [encodeValue, storedValue, OVERRIDE, INTPARSE, OBJPARSE, zero]

/-- With `OBJPARSE` a text is stored as the value it parses to. -/
theorem encodeValue_objparse (buffer : Text) :
    encodeValue cJSON buffer (OVERRIDE ||| OBJPARSE) = cJSON.parse buffer := by
  simp [encodeValue, OVERRIDE, INTPARSE, OBJPARSE]

end

/-! ## Storing integers -/

/-- The digits of a positive integer are stored as that number. -/
theorem storedValue_decimal {value : Nat} (positive : 0 < value) (small : value ≤ 2 ^ 53) :
    storedValue (decimal value) = .number (.ofInt value) := by
  have nonzero : (Binary64.ofInt value).isZero = false := by
    rw [Bool.eq_false_iff]
    intro zero
    have := (Binary64.isZero_ofInt_iff (by simpa using small)).mp zero
    omega
  rw [storedValue, atof_decimal, nonzero]
  rfl

/-- A small integer is printed and read back unchanged. -/
@[simp] theorem reprint_number_ofInt {value : Int} (small : value.natAbs ≤ 2 ^ 53) :
    (Json.number (.ofInt value)).reprint = .number (.ofInt value) := by
  rw [Json.reprint_number, Binary64.isFinite_ofInt small, if_pos rfl]

end Refuge
