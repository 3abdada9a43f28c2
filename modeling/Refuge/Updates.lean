import Refuge.CjsonHandler
import Refuge.StateFile

/-!
# The three writers of the state document

`set_supply_status`, `add_entry_to_json` and `add_event_to_json` read the state
file, rewrite one section of the document as text, and write the document
back.  A section is lifted out as printed text, edited, and put back under its
name; the supplies nest this once more for the category.  On a document whose
containers are objects each of them is a write at a path.
-/

namespace Refuge

open Foundation

def SUPPLIES : Text := "supplies".toList
def K_ALERTS : Text := "alerts".toList
def K_EMERGENCY : Text := "emergency".toList

section

variable (cJSON : CJson)

/-- What `set_supply_status` does to the document text between reading and
writing the file. -/
def setSupplyText (category key value suppliesBuffer : Text) : Except Int Text := do
  let valueOfSupplyKey ← getValueOfKeyFromJsonString cJSON suppliesBuffer SUPPLIES
  let valueOfCategory ← getValueOfKeyFromJsonString cJSON valueOfSupplyKey category
  let valueOfCategory ← cjsonAddKeyValueToJsonString cJSON valueOfCategory key value
    (OVERRIDE ||| INTPARSE)
  let valueOfSupplyKey ← cjsonAddKeyValueToJsonString cJSON valueOfSupplyKey category
    valueOfCategory (OVERRIDE ||| OBJPARSE)
  cjsonAddKeyValueToJsonString cJSON suppliesBuffer SUPPLIES valueOfSupplyKey
    (OVERRIDE ||| OBJPARSE)

/-- What `add_entry_to_json` does to the document text. -/
def addEntryText (entry jsonBuffer : Text) : Except Int Text := do
  let objOfJsonBuffer ← getValueOfKeyFromJsonString cJSON jsonBuffer K_ALERTS
  let valueChar ← getValueOfKeyFromJsonString cJSON objOfJsonBuffer entry
  let value := toInt32 (atoi valueChar + 1)
  let objOfJsonBuffer ← cjsonAddKeyValueToJsonString cJSON objOfJsonBuffer entry
    (sprintfD value) (OVERRIDE ||| INTPARSE)
  cjsonAddKeyValueToJsonString cJSON jsonBuffer K_ALERTS objOfJsonBuffer
    (OVERRIDE ||| OBJPARSE)

/-- What `add_event_to_json` does to the document text. -/
def addEventText (key value jsonBuffer : Text) : Except Int Text := do
  let objOfJsonBuffer ← getValueOfKeyFromJsonString cJSON jsonBuffer K_EMERGENCY
  let objOfJsonBuffer ← cjsonAddKeyValueToJsonString cJSON objOfJsonBuffer key value
    (OVERRIDE ||| INTPARSE)
  cjsonAddKeyValueToJsonString cJSON jsonBuffer K_EMERGENCY objOfJsonBuffer
    (OVERRIDE ||| OBJPARSE)

end

/-- What an update leaves behind: its code, the text in its buffer and the
content of the file. -/
structure Updated where
  code : Int
  buffer : Text
  file : Text

/-- The frame all three writers share: every failure is reported as 1. -/
def updateFile
    (edit : Text → Except Int Text) (faults : FileFaults) (file : Text) : Updated :=
  match readFile faults file with
  | .error _ => { code := 1, buffer := [], file }
  | .ok buffer =>
      match edit buffer with
      | .error _ => { code := 1, buffer, file }
      | .ok text =>
          let (code, written) := writeFile faults file text
          { code, buffer := text, file := written }

section

variable (cJSON : CJson) (faults : FileFaults)

/-- `set_supply_status`; the buffer is its output argument. -/
def setSupplyStatus (category key value file : Text) : Updated :=
  updateFile (setSupplyText cJSON category key value) faults file

/-- `add_entry_to_json`. -/
def addEntryToJson (entry file : Text) : Updated :=
  updateFile (addEntryText cJSON entry) faults file

/-- `add_event_to_json`. -/
def addEventToJson (key value file : Text) : Updated :=
  updateFile (addEventText cJSON key value) faults file

end

/-- The sections of the state document. -/
inductive Part
  | supplies
  | alerts
  | emergency
  deriving DecidableEq

/-- The member of the root that holds a section. -/
def Part.name : Part → Text
  | .supplies => SUPPLIES
  | .alerts => K_ALERTS
  | .emergency => K_EMERGENCY

/-- Sections have names of their own, also when case is ignored. -/
theorem Part.lowercase_name_ne {part other : Part} (different : part ≠ other) :
    lowercase part.name ≠ lowercase other.name := by
  cases part <;> cases other <;> first | exact absurd rfl different | decide

/-- A call of one of the three writers. -/
inductive Update
  | setSupply (category key value : Text)
  | addEntry (entry : Text)
  | addEvent (key value : Text)
  deriving DecidableEq

namespace Update

/-- The text edit of an update. -/
def edit (cJSON : CJson) : Update → Text → Except Int Text
  | .setSupply category key value => setSupplyText cJSON category key value
  | .addEntry entry => addEntryText cJSON entry
  | .addEvent key value => addEventText cJSON key value

/-- Run an update on the state file. -/
def apply (cJSON : CJson) (faults : FileFaults) : Update → Text → Updated
  | .setSupply category key value => setSupplyStatus cJSON faults category key value
  | .addEntry entry => addEntryToJson cJSON faults entry
  | .addEvent key value => addEventToJson cJSON faults key value

theorem apply_eq (cJSON : CJson) (faults : FileFaults) (update : Update) (file : Text) :
    update.apply cJSON faults file = updateFile (update.edit cJSON) faults file := by
  cases update <;> rfl

/-- The section of the document an update belongs to. -/
def part : Update → Part
  | .setSupply .. => .supplies
  | .addEntry _ => .alerts
  | .addEvent .. => .emergency

/-- Only counts belong to the alerts. -/
theorem part_eq_alerts_iff (update : Update) :
    update.part = .alerts ↔ ∃ entry, update = .addEntry entry := by
  cases update <;> simp [part]

/-- The name of that section. -/
def sectionName (update : Update) : Text :=
  update.part.name

/-- The path an update writes. -/
def target : Update → List Text
  | .setSupply category key _ => [SUPPLIES, category, key]
  | .addEntry entry => [K_ALERTS, entry]
  | .addEvent key _ => [K_EMERGENCY, key]

end Update

/-- A member of the root of a parsed text. -/
def memberOf (cJSON : CJson) (text name : Text) : Option Json :=
  (cJSON.parse text).bind fun root => root.getObjectItemCaseSensitive name

/-! ## Editing one member through its text -/

section

variable (cJSON : CJson)

/-- Lift a member out as text, edit the text, and put it back. -/
def updateMember
    (name : Text) (edit : Text → Except Int Text) (buffer : Text) : Except Int Text := do
  let value ← getValueOfKeyFromJsonString cJSON buffer name
  let edited ← edit value
  cjsonAddKeyValueToJsonString cJSON buffer name edited (OVERRIDE ||| OBJPARSE)

/-- What `add_entry_to_json` does to the text of the alerts. -/
def countEntry (entry objOfJsonBuffer : Text) : Except Int Text := do
  let valueChar ← getValueOfKeyFromJsonString cJSON objOfJsonBuffer entry
  cjsonAddKeyValueToJsonString cJSON objOfJsonBuffer entry
    (sprintfD (toInt32 (atoi valueChar + 1))) (OVERRIDE ||| INTPARSE)

/-- What an update does to the text of its section. -/
def Update.sectionEdit : Update → Text → Except Int Text
  | .setSupply category key value =>
      updateMember cJSON category fun valueOfCategory =>
        cjsonAddKeyValueToJsonString cJSON valueOfCategory key value
          (OVERRIDE ||| INTPARSE)
  | .addEntry entry => countEntry cJSON entry
  | .addEvent key value => fun objOfJsonBuffer =>
      cjsonAddKeyValueToJsonString cJSON objOfJsonBuffer key value
        (OVERRIDE ||| INTPARSE)

/-- Every update edits its section through the section's text. -/
theorem Update.edit_eq_updateMember (update : Update) :
    update.edit cJSON = updateMember cJSON update.sectionName (update.sectionEdit cJSON) := by
  funext buffer
  cases update <;>
    simp [Update.edit, Update.sectionName, Update.part, Part.name, Update.sectionEdit,
      setSupplyText, addEntryText, addEventText, updateMember, countEntry]

end

section

variable {cJSON : CJson}

/-- Editing a member that is an object replaces it by what its edited text
parses to. -/
theorem updateMember_object
    {name buffer : Text} {members inner : List (Text × Json)} {edit : Text → Except Int Text}
    (parsed : cJSON.parse buffer = some (.object members))
    (found : Members.lookup members name = some (.object inner)) :
    updateMember cJSON name edit buffer =
      (edit (cJSON.print (.object inner))).bind fun edited =>
        match cJSON.parse edited with
        | none => .error 1
        | some content =>
            .ok (cJSON.print (.object (Members.replace lowercase members name content))) := by
  have override : (OVERRIDE ||| OBJPARSE) &&& OVERRIDE ≠ 0 := by decide
  have got := getValueOfKeyFromJsonString_object parsed found
  cases edited : edit (cJSON.print (.object inner)) with
  | error code => simp only [updateMember, bind, Except.bind, got, edited]
  | ok text =>
      cases content : cJSON.parse text <;>
        simp only [updateMember, bind, Except.bind, got, edited, content,
          cjsonAddKeyValueToJsonString_object parsed override, encodeValue_objparse]

/-- An edited member is one of an object, and is replaced by what its edited
text parses to. -/
theorem exists_of_updateMember_eq_ok
    {name buffer text : Text} {edit : Text → Except Int Text}
    (edits : updateMember cJSON name edit buffer = .ok text) :
    ∃ members value edited content, cJSON.parse buffer = some (.object members) ∧
      getValueOfKeyFromJsonString cJSON buffer name = .ok value ∧
        edit value = .ok edited ∧ cJSON.parse edited = some content ∧
          text = cJSON.print (.object (Members.replace lowercase members name content)) := by
  simp only [updateMember, bind, Except.bind] at edits
  cases got : getValueOfKeyFromJsonString cJSON buffer name with
  | error code => simp [got] at edits
  | ok value =>
      obtain ⟨members, item, parsed, _⟩ := parse_of_getValueOfKeyFromJsonString got
      cases changed : edit value with
      | error code => simp [got, changed] at edits
      | ok edited =>
          have override : (OVERRIDE ||| OBJPARSE) &&& OVERRIDE ≠ 0 := by decide
          simp only [got, changed, cjsonAddKeyValueToJsonString_object parsed override,
            encodeValue_objparse] at edits
          cases content : cJSON.parse edited with
          | none => simp [content] at edits
          | some item =>
              simp only [content, Except.ok.injEq] at edits
              exact ⟨members, value, edited, item, parsed, rfl, changed, content, edits.symm⟩

/-- A counted entry has a text, and the next number is stored under it. -/
theorem exists_of_countEntry_eq_ok
    {entry buffer text : Text} (counts : countEntry cJSON entry buffer = .ok text) :
    ∃ valueChar, getValueOfKeyFromJsonString cJSON buffer entry = .ok valueChar ∧
      cjsonAddKeyValueToJsonString cJSON buffer entry
        (sprintfD (toInt32 (atoi valueChar + 1))) (OVERRIDE ||| INTPARSE) = .ok text := by
  cases got : getValueOfKeyFromJsonString cJSON buffer entry with
  | error code => simp [countEntry, got, bind, Except.bind] at counts
  | ok valueChar =>
      simp only [countEntry, got, bind, Except.bind] at counts
      exact ⟨valueChar, rfl, counts⟩

end

end Refuge
