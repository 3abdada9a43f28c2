import Refuge.Authorisation
import Refuge.Override

/-!
# Texts built in memory that was not cleared

`send_deneid_message`, `send_deneid_udp_message` and `send_end_conn_message`
put a key into memory they have just allocated, and `run_emergency_handler`
appends its event to an array it has not initialised.  What the memory held is
parsed, or comes before the event; the texts are what they should be exactly
when it held nothing that counts.  The timestamp is a given text; the one that
`strftime` makes has no room in `SIZE_TIME`, which leaves an array without a
terminator.
-/

namespace Refuge

open Foundation

def LAST_EVENT : Text := "last_event".toList

/-- The message of `run_emergency_handler`. -/
def emergencyMessage : Text :=
  "Server failure. Emergency notification sent to all connected clients.".toList

/-- The text that `run_emergency_handler` appends in its array. -/
def emergencyEvent (timestamp : Text) : Text :=
  timestamp ++ ", ".toList ++ emergencyMessage

/-- The file after `run_emergency_handler` has stored its event; `leftover` is
what its array held up to the first NUL. -/
def storeEmergencyEvent (cJSON : CJson) (leftover timestamp file : Text) : Text :=
  (addEventToJson cJSON .none LAST_EVENT (leftover ++ emergencyEvent timestamp) file).file

/-- The document with the event under its key, as printing leaves it. -/
def withEmergencyEvent (timestamp : Text) (document : Json) : Json :=
  (Json.writeAt [K_EMERGENCY, LAST_EVENT] (.string (emergencyEvent timestamp)) document).reprint

section

variable (cJSON : CJson)

/-- A message with the key as its only member. -/
def HoldsOnly (key : Text) (message : Text) : Prop :=
  ∃ value, cJSON.parse message = some (.object [(key, value)])

/-- Memory that holds no JSON value other than an object. -/
def Plain (leftover : Text) : Prop :=
  ∃ members, startingMembers cJSON leftover = some members

/-- Memory in which nothing is found but the key. -/
def Blank (key leftover : Text) : Prop :=
  ∃ members, startingMembers cJSON leftover = some members ∧
    (Members.names members = [] ∨ Members.names members = [key])

end

/-- Two notices built in different memory are the same message, with the key
alone. -/
def NoticesAgree (cJSON : CJson) (first second key value : Text) : Prop :=
  ∃ message, noticeMessage cJSON first key value = .ok message ∧
    noticeMessage cJSON second key value = .ok message ∧ HoldsOnly cJSON key message

/-- Two events appended in different arrays are stored as the same text, which
is the timestamp, a comma and the message. -/
def EventsAgree
    (cJSON : CJson) (first second timestamp file : Text) (document : Json) : Prop :=
  cJSON.parse (storeEmergencyEvent cJSON first timestamp file) =
      some (withEmergencyEvent timestamp document) ∧
    cJSON.parse (storeEmergencyEvent cJSON second timestamp file) =
      some (withEmergencyEvent timestamp document)

section

variable {cJSON : CJson} {key leftover : Text}

/-- A notice has the key alone exactly when it was built in blank memory, and
then it does not depend on the memory. -/
theorem holdsOnly_noticeMessage_iff
    (lawful : cJSON.Lawful) {value message : Text}
    (made : noticeMessage cJSON leftover key value = .ok message) :
    HoldsOnly cJSON key message ↔ Blank cJSON key leftover := by
  unfold HoldsOnly Blank
  cases starts : startingMembers cJSON leftover with
  | none =>
      obtain ⟨tree, other, printed⟩ := @cjsonAddKeyValueToJsonString_notStarting cJSON leftover
        key value OVERRIDE _ (encodeValue_override value) starts
      obtain rfl := Except.ok.inj (printed.symm.trans made)
      simp [parse_print_ne_object lawful other]
  | some members =>
      have printed := @cjsonAddKeyValueToJsonString_starting cJSON leftover key value OVERRIDE
        _ members (by decide) (encodeValue_override value) starts
      obtain rfl := Except.ok.inj (printed.symm.trans made)
      rw [lawful.parse_print, Json.reprint_object]
      simp only [Option.some.injEq, Json.object.injEq, exists_eq_left']
      rw [← Members.names_replace_eq_singleton_iff lowercase members key (.string value),
        ← Json.names_reprintMembers]
      constructor
      · rintro ⟨item, alone⟩
        rw [alone]
        rfl
      · intro alone
        obtain ⟨member, same, rfl⟩ := List.map_eq_singleton_iff.mp alone
        exact ⟨member.2, same⟩

/-- A notice has its key exactly when it was built in plain memory. -/
theorem isKeyInJsonBuffer_noticeMessage_iff
    (lawful : cJSON.Lawful) {value message : Text}
    (made : noticeMessage cJSON leftover key value = .ok message) :
    isKeyInJsonBuffer cJSON message key = true ↔ Plain cJSON leftover := by
  unfold Plain
  cases starts : startingMembers cJSON leftover with
  | none =>
      obtain ⟨tree, other, printed⟩ := @cjsonAddKeyValueToJsonString_notStarting cJSON leftover
        key value OVERRIDE _ (encodeValue_override value) starts
      obtain rfl := Except.ok.inj (printed.symm.trans made)
      refine iff_of_false (fun holds => ?_) (by simp)
      simp only [isKeyInJsonBuffer, lawful.parse_print, isKeyInJsonObject] at holds
      obtain ⟨item, found⟩ := Option.isSome_iff_exists.mp holds
      obtain ⟨members, same, _⟩ := Json.isObject_of_getObjectItem found
      have kind := congrArg Json.isObject same
      rw [Json.isObject_reprint, other] at kind
      exact Bool.noConfusion kind
  | some members =>
      have printed := @cjsonAddKeyValueToJsonString_starting cJSON leftover key value OVERRIDE
        _ members (by decide) (encodeValue_override value) starts
      obtain rfl := Except.ok.inj (printed.symm.trans made)
      refine iff_of_true ?_ ⟨members, rfl⟩
      have present : key ∈ Members.names (Members.replace lowercase members key
          (.string value)) := by
        simp [Members.names, Members.replace]
      simp only [isKeyInJsonBuffer, lawful.parse_print, Json.reprint_object, isKeyInJsonObject,
        Json.getObjectItemCaseSensitive_object, Members.lookup_isSome_iff_mem_names,
        Json.names_reprintMembers]
      exact present

/-- In blank memory a notice is the key and its text. -/
theorem noticeMessage_of_blank (blank : Blank cJSON key leftover) (value : Text) :
    noticeMessage cJSON leftover key value =
      .ok (cJSON.print (.object [(key, .string value)])) := by
  obtain ⟨members, starts, few⟩ := blank
  have alone := (Members.names_replace_eq_singleton_iff lowercase members key
    (Json.string value)).mpr few
  have lengths := congrArg List.length alone
  rw [Members.replace] at alone lengths
  simp only [Members.names, List.map_append, List.length_append, List.length_map,
    List.map_singleton, List.length_singleton] at lengths
  have nothing : (if (Members.lookup members key).isSome then
      Members.eraseFolded lowercase members key else members) = [] :=
    List.length_eq_zero_iff.mp (by omega)
  have printed := @cjsonAddKeyValueToJsonString_starting cJSON leftover key value OVERRIDE
    _ members (by decide) (encodeValue_override value) starts
  rw [noticeMessage, printed, Members.replace, nothing, List.nil_append]

/-- Notices agree, whatever their text, exactly when both are built in blank
memory. -/
theorem noticesAgree_iff (lawful : cJSON.Lawful) {first second : Text} (key value : Text) :
    NoticesAgree cJSON first second key value ↔
      Blank cJSON key first ∧ Blank cJSON key second := by
  constructor
  · rintro ⟨message, firstMade, secondMade, alone⟩
    exact ⟨(holdsOnly_noticeMessage_iff lawful firstMade).mp alone,
      (holdsOnly_noticeMessage_iff lawful secondMade).mp alone⟩
  · rintro ⟨firstBlank, secondBlank⟩
    have firstMade := noticeMessage_of_blank firstBlank value
    exact ⟨_, firstMade, noticeMessage_of_blank secondBlank value,
      (holdsOnly_noticeMessage_iff lawful firstMade).mpr firstBlank⟩

/-- The event is stored as it should be exactly when nothing comes before it
and its text is no numeral other than zero. -/
theorem parse_storeEmergencyEvent_iff
    (lawful : cJSON.Lawful) {timestamp file : Text} {document : Json}
    (parsed : cJSON.parse file = some document)
    (reaches : Json.Reaches [K_EMERGENCY, LAST_EVENT] document) :
    cJSON.parse (storeEmergencyEvent cJSON leftover timestamp file) =
        some (withEmergencyEvent timestamp document) ↔
      leftover = [] ∧ (atof (emergencyEvent timestamp)).isZero = true := by
  let text := leftover ++ emergencyEvent timestamp
  obtain ⟨after, applied, afterParsed⟩ := Update.apply_none_of_reaches lawful
    (.addEvent LAST_EVENT text) parsed reaches rfl
  have stored : storeEmergencyEvent cJSON leftover timestamp file = after :=
    congrArg Updated.file applied
  rw [stored, afterParsed, Option.some.injEq]
  constructor
  · intro same
    rw [withEmergencyEvent, Json.reprint_writeAt, Json.reprint_writeAt] at same
    have value := ((Json.reaches_reprint_iff _ _).mpr reaches).eq_of_writeAt_eq same
    rw [Json.reprint_string, storedValue] at value
    split at value
    · rename_i zero
      rw [Json.reprint_string, Json.string.injEq] at value
      have nothing : leftover = [] := List.append_left_eq_self.mp value
      exact ⟨nothing, by rwa [← value]⟩
    · rw [Json.reprint_number] at value
      split at value <;> exact Json.noConfusion value
  · rintro ⟨rfl, zero⟩
    have value : storedValue text = .string (emergencyEvent timestamp) := if_pos zero
    rw [value]
    rfl

/-- Notices agree exactly when both are built in blank memory; events agree
exactly when both are appended in empty arrays, and have a text that is no
numeral other than zero. -/
theorem leftovers_do_not_matter_iff
    (lawful : cJSON.Lawful) {timestamp file : Text} {document : Json}
    (parsed : cJSON.parse file = some document)
    (reaches : Json.Reaches [K_EMERGENCY, LAST_EVENT] document)
    (first second firstArray secondArray : Text) :
    (∀ key value, NoticesAgree cJSON first second key value ↔
      Blank cJSON key first ∧ Blank cJSON key second) ∧
      (EventsAgree cJSON firstArray secondArray timestamp file document ↔
        firstArray = [] ∧ secondArray = [] ∧
          (atof (emergencyEvent timestamp)).isZero = true) := by
  refine ⟨fun key value => noticesAgree_iff lawful key value, ?_⟩
  rw [EventsAgree, parse_storeEmergencyEvent_iff lawful parsed reaches,
    parse_storeEmergencyEvent_iff lawful parsed reaches]
  tauto

end

/-! ## Clean and used memory -/

/-- In memory that holds an empty object or the old notice, and in clear arrays,
the texts are what they should be. -/
theorem leftovers_do_not_matter_iff_clean :
    NoticesAgree .reference (CJson.reference.print (.object []))
        (CJson.reference.print (.object [(K_END, .string TRUE_)])) K_END TRUE_ ∧
      EventsAgree .reference [] [] "Wed Jul 03 15:13:05".toList overflowFile
        (.object overflowMembers) := by
  have holds (members : List (Text × Json)) (finite : Json.FiniteMembers members) :
      startingMembers .reference (CJson.reference.print (.object members)) = some members := by
    rw [startingMembers, CJson.reference_lawful.parse_print_of_finite
      ((Json.finite_object_iff members).mpr finite)]
  have reaches : Json.Reaches [K_EMERGENCY, LAST_EVENT] (.object overflowMembers) :=
    fun _ => ⟨_, rfl, fun deeper => absurd rfl deeper⟩
  have settled := @leftovers_do_not_matter_iff _ CJson.reference_lawful
    "Wed Jul 03 15:13:05".toList _ _ parse_overflowFile reaches
    (CJson.reference.print (.object []))
    (CJson.reference.print (.object [(K_END, .string TRUE_)])) [] []
  refine ⟨(settled.1 K_END TRUE_).mpr ⟨⟨[], holds [] trivial, Or.inl rfl⟩, ?_⟩,
    settled.2.mpr ⟨rfl, rfl, by decide +kernel⟩⟩
  exact ⟨_, holds _ ⟨Json.finite_string _, trivial⟩, Or.inr rfl⟩

/-- In memory that holds an old reply the notice is a member of it. -/
theorem not_noticesAgree_oldReply :
    ¬NoticesAgree .reference [] (CJson.reference.print (.object [(SUPPLIES, .object [])]))
      K_END TRUE_ := by
  have finite : (Json.object [(SUPPLIES, .object [])]).Finite :=
    (Json.finite_object_iff _).mpr ⟨trivial, trivial⟩
  intro agree
  obtain ⟨members, starts, few⟩ := ((noticesAgree_iff CJson.reference_lawful _ _).mp agree).2
  rw [startingMembers, CJson.reference_lawful.parse_print_of_finite finite] at starts
  obtain rfl := Option.some.inj starts
  exact absurd few (by decide)

end Refuge
