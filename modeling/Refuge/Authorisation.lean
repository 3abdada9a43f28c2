import Refuge.Server
import Refuge.State
import Refuge.Foundation.Run
import Refuge.Json.Reference

/-!
# Who changes the supplies

The server's steps on the state file: requests on both transports, and the two
writers that run beside them.  Each writer prints the whole document again, so
the question is what a step does to a section that is not its own.  It may
only turn a number that is not finite into null, as every printing does.
-/

namespace Refuge

open Foundation

/-- A step of the server, run to its end. -/
inductive ServerStep
  /-- A buffer received on a TCP connection. -/
  | tcp (connection : Nat) (surroundings : Surroundings) (recvSocketBuffer : Text)
  /-- A datagram. -/
  | udp (surroundings : Surroundings) (recvSocketBuffer : Text)
  /-- `add_entry_to_json`. -/
  | alert (entry : Text)
  /-- `add_event_to_json`. -/
  | emergency (key value : Text)

/-- The file after a step whose file operations succeed. -/
def ServerStep.apply (cJSON : CJson) (file : Text) : ServerStep → Text
  | .tcp _ surroundings recvSocketBuffer =>
      (runAdminServer cJSON { surroundings with faults := .none } recvSocketBuffer file).file
  | .udp surroundings recvSocketBuffer =>
      (runNormalUserServer cJSON { surroundings with faults := .none } recvSocketBuffer file).file
  | .alert entry => (addEntryToJson cJSON .none entry file).file
  | .emergency key value => (addEventToJson cJSON .none key value file).file

/-- The step is an administrator's request, and what it does to the file is
what `set_supply_status` does with the category, key and value of the request. -/
def ServerStep.SetsSupply (cJSON : CJson) (file : Text) (step : ServerStep) : Prop :=
  ∃ connection surroundings recvSocketBuffer category key value,
    step = .tcp connection surroundings recvSocketBuffer ∧
      Authorised cJSON recvSocketBuffer ∧
        supplyArguments cJSON recvSocketBuffer = .ok (category, key, value) ∧
          step.apply cJSON file = (setSupplyStatus cJSON .none category key value file).file

section

variable {cJSON : CJson}

/-- A text edit of one member leaves the others as printing leaves them. -/
theorem memberOf_updateMember
    (lawful : cJSON.Lawful)
    {name other text edited : Text} {edit : Text → Except Int Text}
    (edits : updateMember cJSON name edit text = .ok edited)
    (different : lowercase other ≠ lowercase name) :
    memberOf cJSON edited other = (memberOf cJSON text other).map Json.reprint := by
  obtain ⟨members, _, _, content, parsed, _, _, _, rfl⟩ := exists_of_updateMember_eq_ok edits
  rw [memberOf, memberOf, lawful.parse_print, parsed]
  simp [Members.lookup_replace_of_fold_ne _ _ _ different]

/-- With every file operation succeeding, an update leaves the file alone or
puts its edit of it there. -/
theorem updateFile_none_cases (edit : Text → Except Int Text) (file : Text) :
    (updateFile edit .none file).file = file ∨
      edit file = .ok (updateFile edit .none file).file := by
  unfold updateFile
  cases read : readFile .none file with
  | error code => exact .inl rfl
  | ok buffer =>
      obtain ⟨rfl, _⟩ := readFile_eq_ok read
      cases edited : edit buffer with
      | error code => exact .inl (by simp [edited])
      | ok text =>
          by_cases empty : text = []
          · exact .inl (by simp [edited, empty, writeFile])
          · exact .inr (by simp [edited, writeFile_none buffer empty])

/-- An update leaves the other sections as printing leaves them. -/
theorem memberOf_apply
    (lawful : cJSON.Lawful) (update : Update) (file : Text)
    {other : Text} (different : lowercase other ≠ lowercase update.sectionName) :
    (memberOf cJSON (update.apply cJSON .none file).file other).map Json.reprint =
      (memberOf cJSON file other).map Json.reprint := by
  rw [Update.apply_eq]
  rcases updateFile_none_cases (update.edit cJSON) file with unchanged | edits
  · rw [unchanged]
  · rw [Update.edit_eq_updateMember] at edits ⊢
    rw [memberOf_updateMember lawful edits different]
    simp [Function.comp_def]

/-- The step lemma: a step that does not set a supply leaves the supplies as
printing leaves them. -/
theorem ServerStep.setsSupply_of_changes
    (lawful : cJSON.Lawful) (file : Text) (step : ServerStep)
    (changes : (memberOf cJSON (step.apply cJSON file) SUPPLIES).map Json.reprint ≠
      (memberOf cJSON file SUPPLIES).map Json.reprint) :
    step.SetsSupply cJSON file := by
  cases step with
  | tcp connection surroundings recvSocketBuffer =>
      rcases @runAdminServer_file_cases cJSON { surroundings with faults := .none }
        recvSocketBuffer file with
        unchanged | ⟨authorised, category, key, value, arguments, sets⟩
      · exact absurd (by rw [ServerStep.apply, unchanged]) changes
      · exact ⟨connection, surroundings, recvSocketBuffer, category, key, value, rfl,
          authorised, arguments, sets⟩
  | udp surroundings recvSocketBuffer =>
      exact absurd (by rw [ServerStep.apply, runNormalUserServer_file]) changes
  | alert entry =>
      exact absurd (memberOf_apply lawful (.addEntry entry) file
        (@Part.lowercase_name_ne .supplies .alerts (by decide))) changes
  | emergency key value =>
      exact absurd (memberOf_apply lawful (.addEvent key value) file
        (@Part.lowercase_name_ne .supplies .emergency (by decide))) changes

/-- In every run of server steps from every file, a step that changes the
supplies, other than by numbers that are not finite becoming null, is an
administrator's request, and it does what `set_supply_status` does for it. -/
theorem supplies_changed_only_by_admin
    (lawful : cJSON.Lawful) (file : Text) (steps : List ServerStep) :
    Along (fun file step => some (ServerStep.apply cJSON file step))
      (fun file step =>
        (memberOf cJSON (step.apply cJSON file) SUPPLIES).map Json.reprint ≠
          (memberOf cJSON file SUPPLIES).map Json.reprint →
            step.SetsSupply cJSON file)
      file steps :=
  Along.of_forall (ServerStep.setsSupply_of_changes lawful) file steps

end

/-! ## A number that is not finite -/

def LIMIT : Text := "limit".toList

def FIRST_EVENT : Text :=
  "Wed Jul 03 15:13:05, Server failure. Emergency notification sent ".toList ++
    "to all connected clients.".toList

/-- A file with a numeral beyond the range of binary64 among its supplies. -/
def overflowFile : Text :=
  "\x7b\n\t\"supplies\":\t\x7b\n\t\t\"food\":\t\x7b\n\t\t\t\"water\":\t1000\n\t\t\x7d,\n".toList ++
    "\t\t\"limit\":\t1e999\n\t\x7d,\n\t\"alerts\":\t\x7b\n\t\t\"NORTH\":\t1\n\t\x7d,\n".toList ++
    "\t\"emergency\":\t\x7b\n\t\t\"last_event\":\t\"".toList ++ FIRST_EVENT ++
    "\"\n\t\x7d\n\x7d".toList

/-- Those supplies, with a value for the limit. -/
def limitedSupplies (limit : Json) : Json :=
  .object [("food".toList, .object [("water".toList, .number (.ofInt 1000))]), (LIMIT, limit)]

/-- The members of a root that holds them. -/
def limitedMembers (limit : Json) : List (Text × Json) :=
  [(SUPPLIES, limitedSupplies limit), (K_ALERTS, .object [("NORTH".toList, .number (.ofInt 1))]),
    (K_EMERGENCY, .object [("last_event".toList, .string FIRST_EVENT)])]

/-- The members of the root of that file. -/
def overflowMembers : List (Text × Json) :=
  limitedMembers (.number (.infinity false))

/-- Printing turns the limit into null. -/
theorem reprintMembers_overflowMembers :
    Json.reprintMembers overflowMembers = limitedMembers .null := by
  have amount : (Json.number (.ofInt 1000)).reprint = .number (.ofInt 1000) :=
    reprint_number_ofInt (by decide)
  have count : (Json.number (.ofInt 1)).reprint = .number (.ofInt 1) :=
    reprint_number_ofInt (by decide)
  have limit : (Json.number (.infinity false)).reprint = .null := rfl
  simp [overflowMembers, limitedMembers, limitedSupplies, Json.reprintMembers_eq_map, amount,
    count, limit]

/-- Whether a parsed text is that object. -/
private def isOverflowDocument : Option Json → Bool
  | some (.object
      [(supplies, .object
          [(food, .object [(water, .number amount)]), (limit, .number (.infinity false))]),
        (alerts, .object [(north, .number count)]),
        (emergency, .object [(event, .string text)])]) =>
      supplies = SUPPLIES && food = "food".toList && water = "water".toList &&
        amount = .ofInt 1000 && limit = LIMIT && alerts = K_ALERTS && north = "NORTH".toList &&
          count = .ofInt 1 && emergency = K_EMERGENCY && event = "last_event".toList &&
            text = FIRST_EVENT
  | _ => false

theorem parse_overflowFile :
    CJson.reference.parse overflowFile = some (.object overflowMembers) := by
  have checked : isOverflowDocument (CJson.reference.parse overflowFile) = true := by
    decide +kernel
  unfold isOverflowDocument at checked
  split at checked
  · rename_i parsed
    simp only [Bool.and_eq_true, decide_eq_true_eq] at checked
    obtain ⟨⟨⟨⟨⟨⟨⟨⟨⟨⟨suppliesEq, foodEq⟩, waterEq⟩, amountEq⟩, limitEq⟩, alertsEq⟩,
      northEq⟩, countEq⟩, emergencyEq⟩, eventEq⟩, textEq⟩ := checked
    rw [parsed, suppliesEq, foodEq, waterEq, amountEq, limitEq, alertsEq, northEq, countEq,
      emergencyEq, eventEq, textEq, overflowMembers, limitedMembers, limitedSupplies]
  · exact absurd checked (by decide)

/-- Counting an alert turns the limit into null. -/
theorem supplies_changed_by_alert :
    memberOf .reference overflowFile SUPPLIES =
        some (limitedSupplies (.number (.infinity false))) ∧
      memberOf .reference ((ServerStep.alert "NORTH".toList).apply .reference overflowFile)
          SUPPLIES = some (limitedSupplies .null) := by
  have entry : Json.path [K_ALERTS, "NORTH".toList] (.object overflowMembers) =
      some (.number (.ofInt (1 : Nat))) := rfl
  obtain ⟨text, applied, parsed⟩ := Update.apply_none_of_reaches CJson.reference_lawful
    (.addEntry "NORTH".toList) parse_overflowFile
    (fun _ => ⟨_, rfl, fun proper => absurd rfl proper⟩)
    (Update.newValue_addEntry entry (by decide))
  have file : (ServerStep.alert "NORTH".toList).apply .reference overflowFile = text :=
    congrArg Updated.file applied
  constructor
  · rw [memberOf, parse_overflowFile]
    rfl
  · rw [file, memberOf, parsed, Json.reprint_writeAt, Json.reprint_object,
      reprintMembers_overflowMembers]
    rfl

/-- An administrator's request for an amount of water. -/
def waterRequest : Text :=
  ("\x7b\"hostname\":\"ubuntu\",\"password\":\"ubuntu\",\"command\":2," ++
    "\"suply_type_equivalent\":\"food\",\"key\":\"water\",\"value\":\"3\"\x7d").toList

/-- Whether the supplies of a file have three of water. -/
private def hasThree (supplies : Option Json) : Bool :=
  match supplies.bind (Json.path ["food".toList, "water".toList]) with
  | some (.number amount) => amount = .ofInt 3
  | _ => false

/-- The steps of a run from that file, the first of which changes the supplies. -/
theorem supplies_changed_only_by_admin_overflow :
    let ordered := (ServerStep.tcp 0 calm waterRequest).apply .reference overflowFile
    Along (fun file step => some (ServerStep.apply .reference file step))
        (fun file step =>
          (memberOf .reference (step.apply .reference file) SUPPLIES).map Json.reprint ≠
            (memberOf .reference file SUPPLIES).map Json.reprint →
              step.SetsSupply .reference file)
        overflowFile [.tcp 0 calm waterRequest, .alert "NORTH".toList] ∧
      (memberOf .reference ordered SUPPLIES).map Json.reprint ≠
        (memberOf .reference overflowFile SUPPLIES).map Json.reprint := by
  intro ordered
  refine ⟨supplies_changed_only_by_admin CJson.reference_lawful overflowFile _, fun same => ?_⟩
  have before :
      hasThree ((memberOf .reference overflowFile SUPPLIES).map Json.reprint) = false := by
    rw [memberOf, parse_overflowFile]
    decide +kernel
  have three : hasThree ((memberOf .reference ordered SUPPLIES).map Json.reprint) = true := by
    decide +kernel
  rw [same, before] at three
  exact absurd three (by decide)

end Refuge
