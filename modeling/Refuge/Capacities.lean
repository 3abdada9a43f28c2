import Refuge.State
import Refuge.Json.Layout
import Refuge.Foundation.Buffer

/-!
# The capacities of the buffers

`get_value_of_key_from_json_object` allocates a buffer for what it finds: as
long as a string or a printed object is, and 20 bytes for a number.  The writers
of the state file put longer or shorter texts back into the same buffers, and the
document into the buffer `read_file` made for the file.
-/

namespace Refuge

open Foundation

/-- A buffer of bytes. -/
abbrev TextBuffer := Buffer Char

namespace Bounded

section

variable (cJSON : CJson)

/-- The buffer `get_value_of_key_from_json_object` makes of a value. -/
def bufferOfValue : Json → Except (Stop Int) TextBuffer
  | .string valuestring => Buffer.alloc (valuestring.length + 1) valuestring
  | .number valuedouble => Buffer.alloc 20 (sprintfF valuedouble)
  | .object members =>
      let text := cJSON.print (.object members)
      Buffer.alloc (text.length + 1) text
  | _ => .error (.returns 1)

/-- `get_value_of_key_from_json_object`. -/
def getValueOfKeyFromJsonObject (cjsonObject : Json) (key : Text) :
    Except (Stop Int) TextBuffer :=
  match cjsonObject.getObjectItemCaseSensitive key with
  | none => .error (.returns 1)
  | some jsonValue => bufferOfValue cJSON jsonValue

/-- `get_value_of_key_from_json_string`; the call it makes returns no code but 1. -/
def getValueOfKeyFromJsonString (cjsonBuffer key : Text) : Except (Stop Int) TextBuffer :=
  match cJSON.parse cjsonBuffer with
  | none => .error (.returns (-1))
  | some cjsonObject => getValueOfKeyFromJsonObject cJSON cjsonObject key

/-- `json_object_to_json_string`. -/
def jsonObjectToJsonString (cjsonObject : Json) (buffer : TextBuffer) :
    Except (Stop Int) TextBuffer :=
  buffer.copy (cJSON.print cjsonObject)

/-- `cjson_add_key_value_to_json_string`. -/
def cjsonAddKeyValueToJsonString
    (cjsonBuffer : TextBuffer) (key buffer : Text) (flags : Nat) :
    Except (Stop Int) TextBuffer :=
  let cjsonObject := (cJSON.parse cjsonBuffer.content).getD (.object [])
  match encodeValue cJSON buffer flags with
  | none => .error (.returns 1)
  | some value =>
      if isKeyInJsonObject cjsonObject key then
        if flags &&& OVERRIDE ≠ 0 then
          jsonObjectToJsonString cJSON
            ((cjsonObject.deleteItemFromObject key).addItemToObject key value) cjsonBuffer
        else .ok cjsonBuffer
      else jsonObjectToJsonString cJSON (cjsonObject.addItemToObject key value) cjsonBuffer

/-- `set_supply_status` between reading and writing the file. -/
def setSupplyStatus (category key value : Text) (suppliesBuffer : TextBuffer) :
    Except (Stop Int) TextBuffer := do
  let valueOfSupplyKey ← getValueOfKeyFromJsonString cJSON suppliesBuffer.content SUPPLIES
  let valueOfCategory ← getValueOfKeyFromJsonString cJSON valueOfSupplyKey.content category
  let valueOfCategory ← cjsonAddKeyValueToJsonString cJSON valueOfCategory key value
    (OVERRIDE ||| INTPARSE)
  let valueOfSupplyKey ← cjsonAddKeyValueToJsonString cJSON valueOfSupplyKey category
    valueOfCategory.content (OVERRIDE ||| OBJPARSE)
  cjsonAddKeyValueToJsonString cJSON suppliesBuffer SUPPLIES valueOfSupplyKey.content
    (OVERRIDE ||| OBJPARSE)

/-- `add_entry_to_json`; the next number is printed over the old one. -/
def addEntryToJson (entry : Text) (jsonBuffer : TextBuffer) :
    Except (Stop Int) TextBuffer := do
  let objOfJsonBuffer ← getValueOfKeyFromJsonString cJSON jsonBuffer.content K_ALERTS
  let valueChar ← getValueOfKeyFromJsonString cJSON objOfJsonBuffer.content entry
  let valueChar ← valueChar.copy (sprintfD (toInt32 (atoi valueChar.content + 1)))
  let objOfJsonBuffer ← cjsonAddKeyValueToJsonString cJSON objOfJsonBuffer entry
    valueChar.content (OVERRIDE ||| INTPARSE)
  cjsonAddKeyValueToJsonString cJSON jsonBuffer K_ALERTS objOfJsonBuffer.content
    (OVERRIDE ||| OBJPARSE)

/-- `add_event_to_json`. -/
def addEventToJson (key value : Text) (jsonBuffer : TextBuffer) :
    Except (Stop Int) TextBuffer := do
  let objOfJsonBuffer ← getValueOfKeyFromJsonString cJSON jsonBuffer.content K_EMERGENCY
  let objOfJsonBuffer ← cjsonAddKeyValueToJsonString cJSON objOfJsonBuffer key value
    (OVERRIDE ||| INTPARSE)
  cjsonAddKeyValueToJsonString cJSON jsonBuffer K_EMERGENCY objOfJsonBuffer.content
    (OVERRIDE ||| OBJPARSE)

end

end Bounded

/-- The edit of an update, in the buffers it is made in. -/
def Update.editBuffer (cJSON : CJson) : Update → TextBuffer → Except (Stop Int) TextBuffer
  | .setSupply category key value => Bounded.setSupplyStatus cJSON category key value
  | .addEntry entry => Bounded.addEntryToJson cJSON entry
  | .addEvent key value => Bounded.addEventToJson cJSON key value

/-- No copy overflows when the update is made on a file; `read_file` has made the
smallest buffer for its text. -/
def CopiesFit (cJSON : CJson) (update : Update) (file : Text) : Prop :=
  update.editBuffer cJSON (.exactly file) ≠ .error .overflows

/-! ## The functions on texts -/

section

variable {cJSON : CJson}

/-- A value's buffer holds its text. -/
theorem agrees_bufferOfValue (item : Json) :
    Agrees Buffer.content (Bounded.bufferOfValue cJSON item) (textOfValue cJSON item) := by
  cases item with
  | string value => exact agrees_alloc _ _
  | number value => exact agrees_alloc _ _
  | object members => exact agrees_alloc _ _
  | _ => rfl

theorem agrees_getValueOfKeyFromJsonString (cjsonBuffer key : Text) :
    Agrees Buffer.content (Bounded.getValueOfKeyFromJsonString cJSON cjsonBuffer key)
      (getValueOfKeyFromJsonString cJSON cjsonBuffer key) := by
  unfold Bounded.getValueOfKeyFromJsonString getValueOfKeyFromJsonString
    Bounded.getValueOfKeyFromJsonObject getValueOfKeyFromJsonObject
  cases cJSON.parse cjsonBuffer with
  | none => rfl
  | some cjsonObject =>
      cases found : cjsonObject.getObjectItemCaseSensitive key with
      | none => simp [found, Agrees]
      | some item =>
          have agrees := @agrees_bufferOfValue cJSON item
          cases item <;> simpa [found, textOfValue] using agrees

theorem agrees_cjsonAddKeyValueToJsonString
    (cjsonBuffer : TextBuffer) (key buffer : Text) (flags : Nat) :
    Agrees Buffer.content
      (Bounded.cjsonAddKeyValueToJsonString cJSON cjsonBuffer key buffer flags)
      (cjsonAddKeyValueToJsonString cJSON cjsonBuffer.content key buffer flags) := by
  unfold Bounded.cjsonAddKeyValueToJsonString cjsonAddKeyValueToJsonString
  cases encodeValue cJSON buffer flags with
  | none => rfl
  | some value =>
      dsimp only
      split
      · split
        · exact agrees_alloc _ _
        · rfl
      · exact agrees_alloc _ _

/-- Unless a copy overflows, an update in its buffers is the update on texts. -/
theorem agrees_editBuffer (update : Update) (buffer : TextBuffer) :
    Agrees Buffer.content (update.editBuffer cJSON buffer) (update.edit cJSON buffer.content) := by
  cases update with
  | setSupply category key value =>
      refine (agrees_getValueOfKeyFromJsonString _ _).bind fun supplies => ?_
      refine (agrees_getValueOfKeyFromJsonString _ _).bind fun categoryBuffer => ?_
      refine (agrees_cjsonAddKeyValueToJsonString _ _ _ _).bind fun categoryBuffer => ?_
      refine (agrees_cjsonAddKeyValueToJsonString _ _ _ _).bind fun supplies => ?_
      exact agrees_cjsonAddKeyValueToJsonString _ _ _ _
  | addEntry entry =>
      refine (agrees_getValueOfKeyFromJsonString _ _).bind fun alerts => ?_
      refine (agrees_getValueOfKeyFromJsonString _ _).bind fun valueChar => ?_
      refine Agrees.copy_bind valueChar _ fun digits printed => ?_
      rw [printed]
      refine (agrees_cjsonAddKeyValueToJsonString _ _ _ _).bind fun alerts => ?_
      exact agrees_cjsonAddKeyValueToJsonString _ _ _ _
  | addEvent key value =>
      refine (agrees_getValueOfKeyFromJsonString _ _).bind fun emergency => ?_
      refine (agrees_cjsonAddKeyValueToJsonString _ _ _ _).bind fun emergency => ?_
      exact agrees_cjsonAddKeyValueToJsonString _ _ _ _

end

/-! ## The copies on trees -/

section

variable (cJSON : CJson)

/-- The tree that the text in a buffer is edited as. -/
def rootOf (text : Text) : Json :=
  (cJSON.parse text).getD (.object [])

/-- The text that a value is lifted out as, and the capacity of the buffer made for
it. -/
def lift : Json → Option (Nat × Text)
  | .string valuestring => some (valuestring.length + 1, valuestring)
  | .number valuedouble => some (20, sprintfF valuedouble)
  | .object members =>
      let text := cJSON.print (.object members)
      some (text.length + 1, text)
  | _ => none

/-- The same for a member of a tree. -/
def lifted (tree : Json) (name : Text) : Option (Nat × Text) :=
  (tree.getObjectItemCaseSensitive name).bind (lift cJSON)

/-- The digits that follow those of a counter. -/
def nextDigits (text : Text) : Text :=
  sprintfD (toInt32 (atoi text + 1))

end

/-- An edit of the tree in a buffer: the tree it leaves, unless it returns early,
and whether the texts it copies have room if the buffer has a capacity. -/
structure TreeEdit where
  after : Json → Option Json
  Room : Nat → Json → Prop

namespace TreeEdit

variable (cJSON : CJson)

/-- Add a key. -/
def add (key : Text) (value : Json) : TreeEdit where
  after := fun tree => some (tree.overrideItem key value)
  Room := fun capacity tree => (cJSON.print (tree.overrideItem key value)).length < capacity

/-- Count an entry. -/
def count (entry : Text) : TreeEdit where
  after := fun tree => (lifted cJSON tree entry).map fun (_, text) =>
    tree.overrideItem entry (storedValue (nextDigits text))
  Room := fun capacity tree => ∀ size text, lifted cJSON tree entry = some (size, text) →
    text.length < size ∧ (nextDigits text).length < size ∧
      (cJSON.print (tree.overrideItem entry (storedValue (nextDigits text)))).length < capacity

/-- Edit a member. -/
def member (name : Text) (inner : TreeEdit) : TreeEdit where
  after := fun tree => (lifted cJSON tree name).bind fun (_, text) =>
    (inner.after (rootOf cJSON text)).map fun edited => tree.overrideItem name edited.reprint
  Room := fun capacity tree => ∀ size text, lifted cJSON tree name = some (size, text) →
    text.length < size ∧ inner.Room size (rootOf cJSON text) ∧
      ∀ edited, inner.after (rootOf cJSON text) = some edited →
        (cJSON.print (tree.overrideItem name edited.reprint)).length < capacity

end TreeEdit

/-- The edit of an update. -/
def Update.treeEdit (cJSON : CJson) : Update → TreeEdit
  | .setSupply category key value =>
      .member cJSON SUPPLIES (.member cJSON category (.add cJSON key (storedValue value)))
  | .addEntry entry => .member cJSON K_ALERTS (.count cJSON entry)
  | .addEvent key value => .member cJSON K_EMERGENCY (.add cJSON key (storedValue value))

/-- An edit of buffers overflows exactly when a text has no room, and otherwise
leaves the printed tree or returns. -/
structure Follows
    (cJSON : CJson) (edit : TextBuffer → Except (Stop Int) TextBuffer) (tree : TreeEdit) :
    Prop where
  overflows : ∀ buffer, ¬tree.Room buffer.capacity (rootOf cJSON buffer.content) →
    edit buffer = .error .overflows
  prints : ∀ buffer after, tree.Room buffer.capacity (rootOf cJSON buffer.content) →
    tree.after (rootOf cJSON buffer.content) = some after →
      ∃ edited, edit buffer = .ok edited ∧ edited.content = cJSON.print after
  returns : ∀ buffer, tree.Room buffer.capacity (rootOf cJSON buffer.content) →
    tree.after (rootOf cJSON buffer.content) = none →
      ∃ code, edit buffer = .error (.returns code)

/-- Lift a member out into a buffer, edit that, and put its text back. -/
def Bounded.updateMember
    (cJSON : CJson) (name : Text) (edit : TextBuffer → Except (Stop Int) TextBuffer)
    (buffer : TextBuffer) : Except (Stop Int) TextBuffer := do
  let value ← getValueOfKeyFromJsonString cJSON buffer.content name
  let edited ← edit value
  cjsonAddKeyValueToJsonString cJSON buffer name edited.content (OVERRIDE ||| OBJPARSE)

/-- Count an entry in its own buffer. -/
def Bounded.countEntry (cJSON : CJson) (entry : Text) (objOfJsonBuffer : TextBuffer) :
    Except (Stop Int) TextBuffer := do
  let valueChar ← getValueOfKeyFromJsonString cJSON objOfJsonBuffer.content entry
  let valueChar ← valueChar.copy (nextDigits valueChar.content)
  cjsonAddKeyValueToJsonString cJSON objOfJsonBuffer entry valueChar.content
    (OVERRIDE ||| INTPARSE)

/-- The edit of an update in the buffer of its section. -/
def Update.sectionBuffer (cJSON : CJson) : Update → TextBuffer → Except (Stop Int) TextBuffer
  | .setSupply category key value =>
      Bounded.updateMember cJSON category fun valueOfCategory =>
        Bounded.cjsonAddKeyValueToJsonString cJSON valueOfCategory key value
          (OVERRIDE ||| INTPARSE)
  | .addEntry entry => Bounded.countEntry cJSON entry
  | .addEvent key value => fun objOfJsonBuffer =>
      Bounded.cjsonAddKeyValueToJsonString cJSON objOfJsonBuffer key value
        (OVERRIDE ||| INTPARSE)

section

variable {cJSON : CJson}

/-- A value that can be lifted out fills a buffer, and any other has none. -/
theorem bufferOfValue_eq (item : Json) :
    Bounded.bufferOfValue cJSON item =
      match lift cJSON item with
      | some (size, text) => Buffer.alloc size text
      | none => .error (.returns 1) := by
  cases item <;> rfl

/-- A member that can be lifted out fills a buffer. -/
theorem getValueOfKeyFromJsonString_of_lifted
    {cjsonBuffer key text : Text} {size : Nat}
    (found : lifted cJSON (rootOf cJSON cjsonBuffer) key = some (size, text)) :
    Bounded.getValueOfKeyFromJsonString cJSON cjsonBuffer key = Buffer.alloc size text := by
  obtain ⟨item, itemFound, isLifted⟩ := Option.bind_eq_some_iff.mp found
  unfold Bounded.getValueOfKeyFromJsonString Bounded.getValueOfKeyFromJsonObject
  unfold rootOf at itemFound
  cases parsed : cJSON.parse cjsonBuffer with
  | none =>
      rw [parsed, Option.getD_none, Json.getObjectItemCaseSensitive_object] at itemFound
      exact absurd itemFound.symm (Option.some_ne_none item)
  | some tree =>
      rw [parsed, Option.getD_some] at itemFound
      simp only [itemFound, bufferOfValue_eq, isLifted]

/-- One with room for its text is read into it. -/
theorem getValueOfKeyFromJsonString_of_lt
    {cjsonBuffer key text : Text} {size : Nat}
    (found : lifted cJSON (rootOf cJSON cjsonBuffer) key = some (size, text))
    (length_lt : text.length < size) :
    Bounded.getValueOfKeyFromJsonString cJSON cjsonBuffer key =
      .ok { capacity := size, content := text, length_lt } := by
  rw [getValueOfKeyFromJsonString_of_lifted found, Buffer.alloc_of_lt length_lt]

/-- Any other makes the function return. -/
theorem getValueOfKeyFromJsonString_of_not_lifted
    {cjsonBuffer key : Text}
    (notLifted : lifted cJSON (rootOf cJSON cjsonBuffer) key = none) :
    ∃ code, Bounded.getValueOfKeyFromJsonString cJSON cjsonBuffer key =
      .error (.returns code) := by
  unfold Bounded.getValueOfKeyFromJsonString Bounded.getValueOfKeyFromJsonObject
  unfold lifted rootOf at notLifted
  cases parsed : cJSON.parse cjsonBuffer with
  | none => exact ⟨-1, rfl⟩
  | some tree =>
      rw [parsed, Option.getD_some] at notLifted
      refine ⟨1, ?_⟩
      cases found : tree.getObjectItemCaseSensitive key with
      | none => simp only [found]
      | some item =>
          rw [found, Option.bind_some] at notLifted
          simp only [found, bufferOfValue_eq, notLifted]

/-- Adding a key copies the printed tree. -/
theorem cjsonAddKeyValueToJsonString_copy
    (cjsonBuffer : TextBuffer) (key : Text) {buffer : Text} {flags : Nat} {value : Json}
    (override : flags &&& OVERRIDE ≠ 0)
    (encoded : encodeValue cJSON buffer flags = some value) :
    Bounded.cjsonAddKeyValueToJsonString cJSON cjsonBuffer key buffer flags =
      cjsonBuffer.copy
        (cJSON.print ((rootOf cJSON cjsonBuffer.content).overrideItem key value)) := by
  unfold Bounded.cjsonAddKeyValueToJsonString Json.overrideItem
  rw [encoded]
  dsimp only
  rw [if_pos override]
  unfold Bounded.jsonObjectToJsonString rootOf
  split
  · rfl
  · rfl

/-- Adding a key follows its edit of trees. -/
theorem follows_add
    {key buffer : Text} {flags : Nat} {value : Json} (override : flags &&& OVERRIDE ≠ 0)
    (encoded : encodeValue cJSON buffer flags = some value) :
    Follows cJSON
      (fun cjsonBuffer => Bounded.cjsonAddKeyValueToJsonString cJSON cjsonBuffer key buffer flags)
      (.add cJSON key value) where
  overflows := fun cjsonBuffer noRoom => by
    rw [cjsonAddKeyValueToJsonString_copy cjsonBuffer key override encoded]
    exact Buffer.alloc_of_not_lt noRoom
  prints := fun cjsonBuffer after room result => by
    obtain rfl := Option.some.inj result
    rw [cjsonAddKeyValueToJsonString_copy cjsonBuffer key override encoded]
    exact ⟨_, Buffer.alloc_of_lt room, rfl⟩
  returns := fun cjsonBuffer room none => absurd none (Option.some_ne_none _)

/-- Editing a member stops where lifting it out does. -/
theorem updateMember_of_stop
    {edit : TextBuffer → Except (Stop Int) TextBuffer} {name : Text} {buffer : TextBuffer}
    {stop : Stop Int}
    (got : Bounded.getValueOfKeyFromJsonString cJSON buffer.content name = .error stop) :
    Bounded.updateMember cJSON name edit buffer = .error stop := by
  rw [Bounded.updateMember, got]
  rfl

section

variable
  {edit : TextBuffer → Except (Stop Int) TextBuffer} {name : Text} {buffer value : TextBuffer}
  (got : Bounded.getValueOfKeyFromJsonString cJSON buffer.content name = .ok value)

include got

/-- It stops where the edit does. -/
theorem updateMember_of_edit_stop {stop : Stop Int} (edits : edit value = .error stop) :
    Bounded.updateMember cJSON name edit buffer = .error stop := by
  rw [Bounded.updateMember, got]
  simp only [bind, Except.bind, edits]

/-- A tree the edit has printed is put back. -/
theorem updateMember_of_edit
    (lawful : cJSON.Lawful) {edited : TextBuffer} {after : Json} (edits : edit value = .ok edited)
    (printed : edited.content = cJSON.print after) :
    Bounded.updateMember cJSON name edit buffer =
      buffer.copy
        (cJSON.print ((rootOf cJSON buffer.content).overrideItem name after.reprint)) := by
  have parsed : encodeValue cJSON edited.content (OVERRIDE ||| OBJPARSE) = some after.reprint := by
    rw [encodeValue_objparse, printed, lawful.parse_print]
  rw [Bounded.updateMember, got]
  simp only [bind, Except.bind, edits]
  exact cjsonAddKeyValueToJsonString_copy buffer name (by decide) parsed

end

/-- Editing a member follows the edit of trees. -/
theorem follows_updateMember
    (lawful : cJSON.Lawful) {edit : TextBuffer → Except (Stop Int) TextBuffer}
    {inner : TreeEdit} (follows : Follows cJSON edit inner) (name : Text) :
    Follows cJSON (Bounded.updateMember cJSON name edit) (.member cJSON name inner) := by
  constructor
  case overflows =>
    intro buffer noRoom
    simp only [TreeEdit.member, not_forall] at noRoom
    obtain ⟨size, text, found, fails⟩ := noRoom
    by_cases long : text.length < size
    · have got := getValueOfKeyFromJsonString_of_lt found long
      let value : TextBuffer := { capacity := size, content := text, length_lt := long }
      by_cases room : inner.Room size (rootOf cJSON text)
      · cases result : inner.after (rootOf cJSON text) with
        | none =>
            refine absurd ⟨long, room, fun edited same => ?_⟩ fails
            exact absurd (result.symm.trans same) (Option.some_ne_none edited).symm
        | some after =>
            obtain ⟨edited, edits, printed⟩ := follows.prints value after room result
            rw [updateMember_of_edit got lawful edits printed]
            refine Buffer.alloc_of_not_lt fun lt => fails ⟨long, room, fun other same => ?_⟩
            obtain rfl := Option.some.inj (result.symm.trans same)
            exact lt
      · exact updateMember_of_edit_stop got (follows.overflows value room)
    · have got := getValueOfKeyFromJsonString_of_lifted found
      rw [Buffer.alloc_of_not_lt long] at got
      exact updateMember_of_stop got
  case prints =>
    intro buffer after room result
    simp only [TreeEdit.member, Option.bind_eq_some_iff, Option.map_eq_some_iff] at result
    obtain ⟨⟨size, text⟩, found, edited, innerResult, rfl⟩ := result
    obtain ⟨long, innerRoom, printedRoom⟩ := room size text found
    have got := getValueOfKeyFromJsonString_of_lt found long
    let value : TextBuffer := { capacity := size, content := text, length_lt := long }
    obtain ⟨buffer', edits, printed⟩ := follows.prints value edited innerRoom innerResult
    rw [updateMember_of_edit got lawful edits printed]
    exact ⟨_, Buffer.alloc_of_lt (printedRoom edited innerResult), rfl⟩
  case returns =>
    intro buffer room result
    simp only [TreeEdit.member, Option.bind_eq_none_iff, Option.map_eq_none_iff] at result
    cases found : lifted cJSON (rootOf cJSON buffer.content) name with
    | none =>
        obtain ⟨code, got⟩ := getValueOfKeyFromJsonString_of_not_lifted found
        exact ⟨code, updateMember_of_stop got⟩
    | some lift =>
        obtain ⟨size, text⟩ := lift
        obtain ⟨long, innerRoom, _⟩ := room size text found
        have got := getValueOfKeyFromJsonString_of_lt found long
        let value : TextBuffer := { capacity := size, content := text, length_lt := long }
        obtain ⟨code, stops⟩ := follows.returns value innerRoom (result _ found)
        exact ⟨code, updateMember_of_edit_stop got stops⟩

/-- Counting an entry follows the edit of trees. -/
theorem follows_countEntry (entry : Text) :
    Follows cJSON (Bounded.countEntry cJSON entry) (.count cJSON entry) := by
  have adds (buffer : TextBuffer) (digits : Text) :=
    @cjsonAddKeyValueToJsonString_copy cJSON buffer entry digits _ _ (by decide)
      (encodeValue_intparse digits)
  have counts {buffer : TextBuffer} {size : Nat} {text : Text}
      (found : lifted cJSON (rootOf cJSON buffer.content) entry = some (size, text))
      (long : text.length < size) (digits : (nextDigits text).length < size) :
      Bounded.countEntry cJSON entry buffer =
        buffer.copy (cJSON.print ((rootOf cJSON buffer.content).overrideItem entry
          (storedValue (nextDigits text)))) := by
    rw [Bounded.countEntry, getValueOfKeyFromJsonString_of_lt found long]
    simp only [bind, Except.bind, Buffer.copy, Buffer.alloc_of_lt digits]
    exact adds buffer _
  constructor
  case overflows =>
    intro buffer noRoom
    simp only [TreeEdit.count, not_forall] at noRoom
    obtain ⟨size, text, found, fails⟩ := noRoom
    by_cases long : text.length < size
    · by_cases digits : (nextDigits text).length < size
      · rw [counts found long digits]
        exact Buffer.alloc_of_not_lt fun lt => fails ⟨long, digits, lt⟩
      · rw [Bounded.countEntry, getValueOfKeyFromJsonString_of_lt found long]
        simp only [bind, Except.bind, Buffer.copy, Buffer.alloc_of_not_lt digits]
    · rw [Bounded.countEntry, getValueOfKeyFromJsonString_of_lifted found,
        Buffer.alloc_of_not_lt long]
      rfl
  case prints =>
    intro buffer after room result
    obtain ⟨⟨size, text⟩, found, rfl⟩ := Option.map_eq_some_iff.mp result
    obtain ⟨long, digits, printed⟩ := room size text found
    rw [counts found long digits]
    exact ⟨_, Buffer.alloc_of_lt printed, rfl⟩
  case returns =>
    intro buffer _ result
    have notLifted := Option.map_eq_none_iff.mp result
    obtain ⟨code, got⟩ := getValueOfKeyFromJsonString_of_not_lifted notLifted
    refine ⟨code, ?_⟩
    rw [Bounded.countEntry, got]
    rfl

/-- An update edits the member that holds its section. -/
theorem Update.editBuffer_eq_updateMember (update : Update) :
    update.editBuffer cJSON =
      Bounded.updateMember cJSON update.sectionName (update.sectionBuffer cJSON) := by
  funext buffer
  cases update with
  | setSupply category key value =>
      simp [editBuffer, sectionName, part, Part.name, sectionBuffer, Bounded.updateMember,
        Bounded.setSupplyStatus]
  | addEntry entry =>
      simp [editBuffer, sectionName, part, Part.name, sectionBuffer, Bounded.updateMember,
        Bounded.addEntryToJson, Bounded.countEntry, nextDigits]
  | addEvent key value => rfl

/-- An update follows its edit of trees. -/
theorem follows_editBuffer (lawful : cJSON.Lawful) (update : Update) :
    Follows cJSON (update.editBuffer cJSON) (update.treeEdit cJSON) := by
  rw [Update.editBuffer_eq_updateMember]
  cases update with
  | setSupply category key value =>
      refine follows_updateMember lawful (follows_updateMember lawful ?_ category) SUPPLIES
      exact follows_add (by decide) (encodeValue_intparse value)
  | addEntry entry => exact follows_updateMember lawful (follows_countEntry entry) K_ALERTS
  | addEvent key value =>
      refine follows_updateMember lawful ?_ K_EMERGENCY
      exact follows_add (by decide) (encodeValue_intparse value)

/-- No copy of an update overflows exactly when every text it copies has room. -/
theorem copiesFit_iff_room (lawful : cJSON.Lawful) (update : Update) (file : Text) :
    CopiesFit cJSON update file ↔
      (update.treeEdit cJSON).Room (file.length + 1) (rootOf cJSON file) := by
  have follows := follows_editBuffer lawful update
  constructor
  · intro fit
    by_contra noRoom
    exact fit (follows.overflows (.exactly file) noRoom)
  · intro room overflows
    cases result : (update.treeEdit cJSON).after (rootOf cJSON file) with
    | none =>
        obtain ⟨code, returns⟩ := follows.returns (.exactly file) room result
        rw [overflows] at returns
        exact absurd (Except.error.inj returns) (by simp)
    | some after =>
        obtain ⟨edited, edits, _⟩ := follows.prints (.exactly file) after room result
        rw [overflows] at edits
        exact absurd edits (by simp)

end

/-! ## Documents whose entries are reached and hit exactly -/

/-- An edit writes a value at a path of a tree; it has room under a condition, and
if the tree that is written has. -/
structure TreeEdit.Writes
    (cJSON : CJson) (edit : TreeEdit) (target : List Text) (value tree : Json)
    (condition : Prop) : Prop where
  after : ∃ edited, edit.after tree = some edited ∧
    edited.reprint = (Json.writeAt target value tree).reprint
  room : ∀ capacity, edit.Room capacity tree ↔
    condition ∧ (cJSON.print (Json.writeAt target value tree)).length < capacity

/-- There is a value at the path, and the new one takes no more room there. -/
def TakesNoMore (cJSON : CJson) (target : List Text) (value document : Json) : Prop :=
  ∃ old, Json.path target document = some old ∧
    (cJSON.print value).length ≤ (indent (cJSON.print old)).length

/-- A counter of the alerts is an `int`. -/
def Update.CountsInt (update : Update) (document : Json) : Prop :=
  ∀ item, update.part = .alerts → Json.path update.target document = some item →
    ∃ count : Int, item = .number (.ofInt count) ∧ -2 ^ 31 ≤ count ∧ count < 2 ^ 31

section

variable {cJSON : CJson}

/-- Adding a key writes it. -/
theorem writes_add (key : Text) (value : Json) (members : List (Text × Json)) :
    (TreeEdit.add cJSON key value).Writes cJSON [key] value (.object members) True where
  after := ⟨_, rfl, by simp⟩
  room := fun capacity => by simp [TreeEdit.add]

theorem length_sprintfD_le {value : Int} (small : value.natAbs < 10 ^ 10) :
    (sprintfD value).length ≤ 11 := by
  have digits : (decimal value.natAbs).length ≤ 10 :=
    (Nat.length_toDigits_le_iff (by decide) (by decide)).mpr small
  unfold sprintfD
  split
  · rw [List.length_cons]
    omega
  · omega

/-- Counting an `int` writes the next number. -/
theorem writes_count
    {entry : Text} {members : List (Text × Json)} {count : Int}
    (found : Members.lookup members entry = some (.number (.ofInt count)))
    (lower : -2 ^ 31 ≤ count) (upper : count < 2 ^ 31) :
    (TreeEdit.count cJSON entry).Writes cJSON [entry]
      (storedValue (nextDigits (sprintfF (.ofInt count)))) (.object members) True := by
  have isLifted : lifted cJSON (.object members) entry = some (20, sprintfF (.ofInt count)) := by
    rw [lifted, Json.getObjectItemCaseSensitive_object, found]
    rfl
  refine ⟨⟨_, Option.map_eq_some_iff.mpr ⟨_, isLifted, rfl⟩, by simp⟩, fun capacity => ?_⟩
  have long : (sprintfF (.ofInt count)).length < 20 := by
    have := length_sprintfD_le (show count.natAbs < 10 ^ 10 by omega)
    rw [sprintfF_ofInt (by omega), List.length_append]
    simp
    omega
  have digits : (nextDigits (sprintfF (.ofInt count))).length < 20 := by
    have bounds := @Int.bmod_lt (atoi (sprintfF (.ofInt count)) + 1) (2 ^ 32) (by decide)
    have bounds' := @Int.le_bmod (atoi (sprintfF (.ofInt count)) + 1) (2 ^ 32) (by decide)
    refine lt_of_le_of_lt (length_sprintfD_le ?_) (by decide : 11 < 20)
    unfold toInt32
    omega
  constructor
  · intro room
    obtain ⟨_, _, printed⟩ := room _ _ isLifted
    simpa using printed
  · intro printed size text same
    obtain ⟨rfl, rfl⟩ := Prod.mk.inj (Option.some.inj (isLifted.symm.trans same))
    exact ⟨long, digits, by simpa using printed⟩

/-- Editing a member that is an object writes below it, if the text of the member
has room for that. -/
theorem TreeEdit.Writes.member
    (lawful : cJSON.Lawful) (formatted : cJSON.Formatted) {inner : TreeEdit}
    {name : Text} {rest : List Text} {value : Json} {members entries : List (Text × Json)}
    {condition : Prop} (finite : (Json.object members).Finite)
    (found : Members.lookup members name = some (.object entries))
    (writes : inner.Writes cJSON rest value (.object entries) condition) :
    (TreeEdit.member cJSON name inner).Writes cJSON (name :: rest) value (.object members)
      (condition ∧ (cJSON.print (Json.writeAt rest value (.object entries))).length ≤
        (cJSON.print (.object entries)).length) := by
  have root : rootOf cJSON (cJSON.print (.object entries)) = .object entries := by
    rw [rootOf, lawful.parse_print_of_finite (finite.lookup found), Option.getD_some]
  have isLifted : lifted cJSON (.object members) name =
      some ((cJSON.print (.object entries)).length + 1, cJSON.print (.object entries)) := by
    rw [lifted, Json.getObjectItemCaseSensitive_object, found]
    rfl
  obtain ⟨edited, innerAfter, same⟩ := writes.after
  have written : ((Json.object members).overrideItem name edited.reprint).reprint =
      (Json.writeAt (name :: rest) value (.object members)).reprint := by
    rw [Json.overrideItem_object, Json.writeAt_cons_object, found, Option.getD_some, same]
    simp [Json.reprintMembers_replace]
  have printed : cJSON.print ((Json.object members).overrideItem name edited.reprint) =
      cJSON.print (Json.writeAt (name :: rest) value (.object members)) := by
    rw [← formatted.print_reprint, written, formatted.print_reprint]
  refine ⟨⟨_, ?_, written⟩, fun capacity => ?_⟩
  · refine Option.bind_eq_some_iff.mpr ⟨_, isLifted, ?_⟩
    dsimp only
    rw [root, innerAfter]
    rfl
  · constructor
    · intro room
      obtain ⟨_, innerRoom, outerRoom⟩ := room _ _ isLifted
      rw [root] at innerRoom outerRoom
      obtain ⟨holds, fits⟩ := (writes.room _).mp innerRoom
      refine ⟨⟨holds, Nat.lt_succ_iff.mp fits⟩, ?_⟩
      rw [← printed]
      exact outerRoom edited innerAfter
    · rintro ⟨⟨holds, fits⟩, outerRoom⟩ size text lift
      obtain ⟨rfl, rfl⟩ := Prod.mk.inj (Option.some.inj (isLifted.symm.trans lift))
      refine ⟨Nat.lt_succ_self _, ?_, fun other otherAfter => ?_⟩
      · rw [root]
        exact (writes.room _).mpr ⟨holds, Nat.lt_succ_iff.mpr fits⟩
      · rw [root] at otherAfter
        obtain rfl := Option.some.inj (innerAfter.symm.trans otherAfter)
        rw [printed]
        exact outerRoom

/-- Writing a line into an object makes it no longer exactly when the value there
takes no less room. -/
theorem length_print_writeAt_le_iff
    (formatted : cJSON.Formatted) {key : Text} {value : Json} {members : List (Text × Json)}
    (hits : Json.HitsAlong [key] (.object members)) (line : breaks (cJSON.print value) = 0) :
    (cJSON.print (Json.writeAt [key] value (.object members))).length ≤
        (cJSON.print (.object members)).length ↔
      TakesNoMore cJSON [key] value (.object members) := by
  cases found : Members.lookup members key with
  | none =>
      have absent := (Members.lookup_eq_none_iff _ _).mp found
      have longer := length_print_lt_append formatted members (key, value)
      rw [Json.writeAt_cons_object, Json.writeAt_nil, Members.replace_of_notMem _ absent]
      refine iff_of_false (by omega) ?_
      rintro ⟨old, atPath, _⟩
      rw [Json.path_cons_object, found] at atPath
      exact absurd atPath.symm (Option.some_ne_none old)
  | some old =>
      have atPath : Json.path [key] (.object members) = some old := by
        rw [Json.path_cons_object, found]
        rfl
      obtain ⟨lengths, _⟩ := length_print_writeAt formatted hits atPath value
      rw [line, List.length_singleton] at lengths
      rw [TakesNoMore, atPath]
      simp only [Option.some.injEq, exists_eq_left', length_indent]
      omega

/-- The room at the end of a path is that at the end of the rest below its first
member. -/
theorem takesNoMore_cons_iff
    {name : Text} {rest : List Text} {value child : Json} {members : List (Text × Json)}
    (found : Members.lookup members name = some child) :
    TakesNoMore cJSON (name :: rest) value (.object members) ↔
      TakesNoMore cJSON rest value child := by
  rw [TakesNoMore, TakesNoMore, Json.path_cons_object, found, Option.bind_some]

/-- Writing a line below a member has room if it takes no more of it than the value
there. -/
theorem TreeEdit.Writes.room_member_iff
    (lawful : cJSON.Lawful) (formatted : cJSON.Formatted) {inner : TreeEdit}
    {name key : Text} {value : Json} {members entries : List (Text × Json)}
    (writes : inner.Writes cJSON [key] value (.object entries) True)
    (finite : (Json.object members).Finite)
    (found : Members.lookup members name = some (.object entries))
    (hits : Json.HitsAlong [key] (.object entries)) (line : breaks (cJSON.print value) = 0)
    (capacity : Nat) :
    (TreeEdit.member cJSON name inner).Room capacity (.object members) ↔
      TakesNoMore cJSON [name, key] value (.object members) ∧
        (cJSON.print (Json.writeAt [name, key] value (.object members))).length < capacity := by
  rw [(writes.member lawful formatted finite found).room, true_and,
    length_print_writeAt_le_iff formatted hits line, takesNoMore_cons_iff found]

/-- A line that takes no more room makes no document longer. -/
theorem TakesNoMore.length_print_writeAt_le
    (formatted : cJSON.Formatted) {name : Text} {rest : List Text} {value document : Json}
    (hits : Json.HitsAlong (name :: rest) document) (line : breaks (cJSON.print value) = 0)
    (takesNoMore : TakesNoMore cJSON (name :: rest) value document) :
    (cJSON.print (Json.writeAt (name :: rest) value document)).length ≤
      (cJSON.print document).length := by
  obtain ⟨old, atPath, shorter⟩ := takesNoMore
  obtain ⟨lengths, _⟩ := length_print_writeAt formatted hits atPath value
  rw [length_indent] at shorter
  rw [line, List.length_cons, Nat.mul_zero, Nat.succ_mul] at lengths
  omega

/-- A stored value is printed on one line. -/
theorem breaks_print_storedValue (formatted : cJSON.Formatted) (text : Text) :
    breaks (cJSON.print (storedValue text)) = 0 := by
  unfold storedValue
  split
  · exact breaks_eq_zero (formatted.string_line _)
  · exact breaks_eq_zero (formatted.number_line _)

/-- An update of a document with its entry reached and hit exactly has room if the
new value takes no more of it than the old one, and the file has room for the
document. -/
theorem Update.room_iff
    (lawful : cJSON.Lawful) (formatted : cJSON.Formatted) {update : Update}
    {document value : Json} (finite : document.Finite)
    (reaches : Json.Reaches update.target document)
    (hits : Json.HitsAlong update.target document) (counts : update.CountsInt document)
    (capacity : Nat) (stores : update.newValue cJSON document = some value) :
    (update.treeEdit cJSON).Room capacity document ↔
      TakesNoMore cJSON update.target value document ∧
        (cJSON.print (Json.writeAt update.target value document)).length < capacity := by
  obtain ⟨members, rfl⟩ : ∃ members, document = .object members := by
    cases update <;> exact reaches.isObject
  cases update with
  | setSupply category key text =>
      obtain rfl : storedValue text = value := Option.some.inj stores
      have line := breaks_print_storedValue formatted text
      obtain ⟨supplies, found, suppliesReaches⟩ := reaches.exists_object (by simp)
      have suppliesHits := hits.lookup found
      obtain ⟨entries, categoryFound, _⟩ := suppliesReaches.exists_object (by simp)
      have categoryHits := suppliesHits.lookup categoryFound
      have inCategory := (@writes_add cJSON key (storedValue text) entries).member lawful
        formatted (finite.lookup found) categoryFound
      have writes := inCategory.member lawful formatted finite found
      rw [treeEdit, target, writes.room, true_and,
        length_print_writeAt_le_iff formatted categoryHits line, takesNoMore_cons_iff found,
        takesNoMore_cons_iff categoryFound, and_assoc, and_congr_right_iff]
      intro noMore
      refine and_iff_right ?_
      have inSupplies := (takesNoMore_cons_iff categoryFound).mpr noMore
      exact inSupplies.length_print_writeAt_le formatted suppliesHits line
  | addEntry entry =>
      rw [newValue, finite.reprint_eq] at stores
      obtain ⟨item, atPath, stored⟩ := Option.bind_eq_some_iff.mp stores
      obtain ⟨count, rfl, lower, upper⟩ := counts item rfl atPath
      obtain rfl : storedValue (nextDigits (sprintfF (.ofInt count))) = value :=
        Option.some.inj stored
      obtain ⟨entries, found, _⟩ := reaches.exists_object (by simp)
      have entryFound : Members.lookup entries entry = some (.number (.ofInt count)) := by
        rw [Json.path_cons_object, found, Option.bind_some, Json.path_cons_object] at atPath
        simpa using atPath
      exact (writes_count entryFound lower upper).room_member_iff lawful formatted finite found
        (hits.lookup found) (breaks_print_storedValue formatted _) capacity
  | addEvent key text =>
      obtain rfl : storedValue text = value := Option.some.inj stores
      obtain ⟨entries, found, _⟩ := reaches.exists_object (by simp)
      exact (writes_add key (storedValue text) entries).room_member_iff lawful formatted finite
        found (hits.lookup found) (breaks_print_storedValue formatted text) capacity

/-- An update stores what the conversion makes of a text. -/
theorem Update.exists_storedValue_of_newValue
    {update : Update} {document value : Json}
    (stores : update.newValue cJSON document = some value) :
    ∃ text, value = storedValue text := by
  cases update with
  | setSupply category key text => exact ⟨text, (Option.some.inj stores).symm⟩
  | addEvent key text => exact ⟨text, (Option.some.inj stores).symm⟩
  | addEntry entry =>
      obtain ⟨item, _, stored⟩ := Option.bind_eq_some_iff.mp stores
      obtain ⟨text, _, same⟩ := Option.map_eq_some_iff.mp stored
      exact ⟨_, same.symm⟩

/-- On a file as the program prints it an update fits exactly when the new value
takes no more room than the old one. -/
theorem copiesFit_print_iff
    (lawful : cJSON.Lawful) (formatted : cJSON.Formatted) {update : Update}
    {document value : Json} (finite : document.Finite)
    (reaches : Json.Reaches update.target document)
    (hits : Json.HitsAlong update.target document) (counts : update.CountsInt document)
    (stores : update.newValue cJSON document = some value) :
    CopiesFit cJSON update (cJSON.print document) ↔
      TakesNoMore cJSON update.target value document := by
  have root : rootOf cJSON (cJSON.print document) = document := by
    rw [rootOf, lawful.parse_print_of_finite finite, Option.getD_some]
  obtain ⟨text, rfl⟩ := Update.exists_storedValue_of_newValue stores
  have line := breaks_print_storedValue formatted text
  rw [copiesFit_iff_room lawful, root,
    Update.room_iff lawful formatted finite reaches hits counts _ stores, Nat.lt_succ_iff]
  refine and_iff_left_of_imp fun noMore => ?_
  rw [Update.target_eq] at hits noMore ⊢
  exact noMore.length_print_writeAt_le formatted hits line

/-- No copy of an update overflows exactly when every text it copies has room.  On
a document with its entry reached and hit exactly this says that the new value
takes no more room than the old one, and the document no more than the file. -/
theorem copiesFit_iff
    (lawful : cJSON.Lawful) (formatted : cJSON.Formatted) (update : Update) (file : Text) :
    (CopiesFit cJSON update file ↔
      (update.treeEdit cJSON).Room (file.length + 1) (rootOf cJSON file)) ∧
      ∀ document value, cJSON.parse file = some document → document.Finite →
        Json.Reaches update.target document → Json.HitsAlong update.target document →
          update.CountsInt document → update.newValue cJSON document = some value →
            (CopiesFit cJSON update file ↔
              TakesNoMore cJSON update.target value document ∧
                (cJSON.print (Json.writeAt update.target value document)).length ≤
                  file.length) := by
  refine ⟨copiesFit_iff_room lawful update file, ?_⟩
  intro document value parsed finite reaches hits counts stores
  have root : rootOf cJSON file = document := by
    rw [rootOf, parsed, Option.getD_some]
  rw [copiesFit_iff_room lawful, root,
    Update.room_iff lawful formatted finite reaches hits counts _ stores, Nat.lt_succ_iff]

end

/-! ## An amount of water -/

/-- A supply of 120. -/
def waterDocument : Json :=
  .object [(SUPPLIES, .object
    [("food".toList, .object [("water".toList, .number (.ofInt 120))])])]

/-- Setting it to another amount. -/
def waterUpdate (amount : Nat) : Update :=
  .setSupply "food".toList "water".toList (decimal amount)

section

variable {amount : Nat}

private theorem finite_waterDocument : waterDocument.Finite := by
  have finite : (Binary64.ofInt 120).isFinite = true := Binary64.isFinite_ofInt (by decide)
  simp [waterDocument, Json.FiniteMembers, Json.Finite, finite]

private theorem reaches_waterUpdate : Json.Reaches (waterUpdate amount).target waterDocument :=
  fun _ => ⟨_, rfl, fun _ => ⟨_, rfl, fun deeper => absurd rfl deeper⟩⟩

private theorem hitsAlong_waterUpdate : Json.HitsAlong (waterUpdate amount).target waterDocument := by
  refine ⟨Members.hitsExact_singleton _ _ _, fun supplies found => ?_⟩
  obtain rfl := Option.some.inj found
  refine ⟨Members.hitsExact_singleton _ _ _, fun category found => ?_⟩
  obtain rfl := Option.some.inj found
  exact ⟨Members.hitsExact_singleton _ _ _, fun _ _ => trivial⟩

private theorem countsInt_waterUpdate : (waterUpdate amount).CountsInt waterDocument :=
  fun _ isAlerts => absurd isAlerts (by simp [waterUpdate, Update.part])

private theorem newValue_waterUpdate (positive : 0 < amount) (small : amount ≤ 2 ^ 53) :
    (waterUpdate amount).newValue .reference waterDocument = some (.number (.ofInt amount)) := by
  rw [waterUpdate, Update.newValue, storedValue_decimal positive small]

private theorem print_ofInt {value : Nat} (small : value ≤ 2 ^ 53) :
    CJson.reference.print (.number (.ofInt value)) = decimal value := by
  obtain ⟨exact, equation, units⟩ := @Binary64.ofInt_eq (value : Int) (by simpa using small)
  have whole : exact.units % Binary64.unitsPerOne = 0 := by
    rw [units]
    exact Int.mul_emod_left _ _
  have nonzero : (Binary64.unitsPerOne : Int) ≠ 0 := by
    exact_mod_cast Binary64.unitsPerOne_pos.ne'
  have printed : CJson.reference.print (.number (.ofInt value)) =
      sprintfD (exact.units / Binary64.unitsPerOne) := by
    rw [equation]
    exact if_pos whole
  rw [printed, units, Int.mul_ediv_cancel _ nonzero]
  simp [sprintfD]

private theorem takesNoMore_waterUpdate_iff (small : amount ≤ 2 ^ 53) :
    TakesNoMore .reference (waterUpdate amount).target (.number (.ofInt amount))
        waterDocument ↔
      amount < 10 ^ 3 := by
  have atPath : Json.path (waterUpdate amount).target waterDocument =
      some (.number (.ofInt (120 : Nat))) := rfl
  have digits : (decimal 120).length = 3 := by decide
  rw [TakesNoMore, atPath, print_ofInt small]
  simp only [Option.some.injEq, exists_eq_left', length_indent]
  rw [breaks_eq_zero (CJson.reference_formatted.number_line _), print_ofInt (by decide), digits]
  exact Nat.length_toDigits_le_iff (by decide) (by decide)

/-- An amount of three digits fits. -/
theorem copiesFit_waterUpdate :
    CopiesFit .reference (waterUpdate 130) (CJson.reference.print waterDocument) := by
  have noMore := (@takesNoMore_waterUpdate_iff 130 (by decide)).mpr (by decide)
  have parsed := CJson.reference_lawful.parse_print_of_finite finite_waterDocument
  refine ((copiesFit_iff CJson.reference_lawful CJson.reference_formatted _ _).2 waterDocument _
    parsed finite_waterDocument reaches_waterUpdate hitsAlong_waterUpdate countsInt_waterUpdate
    (newValue_waterUpdate (by decide) (by decide))).mpr ⟨noMore, ?_⟩
  exact noMore.length_print_writeAt_le CJson.reference_formatted (@hitsAlong_waterUpdate 130)
    (breaks_eq_zero (CJson.reference_formatted.number_line _))

/-- One of four digits does not. -/
theorem not_copiesFit_waterUpdate :
    ¬CopiesFit .reference (waterUpdate 1500) (CJson.reference.print waterDocument) := by
  rw [copiesFit_print_iff CJson.reference_lawful CJson.reference_formatted finite_waterDocument
    reaches_waterUpdate hitsAlong_waterUpdate countsInt_waterUpdate
    (newValue_waterUpdate (by decide) (by decide)), takesNoMore_waterUpdate_iff (by decide)]
  decide

end

end Refuge
