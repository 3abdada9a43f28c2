import Refuge.Updates

/-!
# Updates as writes at a path

Seen on parsed documents, an update of the state file is one write: the value
it stores is written at its path and everything else is reprinted.  This
module connects the text editing of the writers with that statement.  It only
needs the objects on the way to the path to be there; what a write does to the
other paths is the matter of the path library.
-/

namespace Refuge

open Foundation

namespace Json

/-- Every proper prefix of the path leads to an object. -/
def Reaches : List Text → Json → Prop
  | [], _ => True
  | name :: rest, .object members =>
      rest ≠ [] → ∃ child, Members.lookup members name = some child ∧ Reaches rest child
  | _ :: _, _ => False

@[simp] theorem reaches_nil (document : Json) : Reaches [] document := by
  simp [Reaches]

@[simp] theorem reaches_cons_object_iff
    (name : Text) (rest : List Text) (members : List (Text × Json)) :
    Reaches (name :: rest) (.object members) ↔
      (rest ≠ [] → ∃ child,
        Members.lookup members name = some child ∧ Reaches rest child) := by
  simp [Reaches]

theorem Reaches.isObject
    {name : Text} {rest : List Text} {document : Json}
    (reaches : Reaches (name :: rest) document) :
    ∃ members, document = .object members := by
  cases document with
  | object members => exact ⟨members, rfl⟩
  | _ => simp [Reaches] at reaches

/-- What a path goes on from is an object. -/
theorem Reaches.exists_object
    {name : Text} {rest : List Text} {members : List (Text × Json)}
    (reaches : Reaches (name :: rest) (.object members)) (proper : rest ≠ []) :
    ∃ inner, Members.lookup members name = some (.object inner) ∧
      Reaches rest (.object inner) := by
  obtain ⟨child, found, childReaches⟩ := (reaches_cons_object_iff _ _ _).mp reaches proper
  obtain ⟨next, rest, rfl⟩ := List.exists_cons_of_ne_nil proper
  obtain ⟨inner, rfl⟩ := childReaches.isObject
  exact ⟨inner, found, childReaches⟩

/-- A writable path is reached through objects. -/
theorem Writable.reaches
    {target : List Text} {document : Json}
    (writable : Writable target document) : Reaches target document := by
  induction target generalizing document with
  | nil => simp
  | cons name rest inductionHypothesis =>
      obtain ⟨members, rfl⟩ := writable.isObject
      obtain ⟨_, _, deeper⟩ := (writable_cons_object_iff _ _ _).mp writable
      rw [reaches_cons_object_iff]
      intro proper
      obtain ⟨child, found, childWritable⟩ := deeper proper
      exact ⟨child, found, inductionHypothesis childWritable⟩

/-- Reprinting does not change which paths are reached. -/
@[simp] theorem reaches_reprint_iff (target : List Text) (document : Json) :
    Reaches target (reprint document) ↔ Reaches target document := by
  induction target generalizing document with
  | nil => simp
  | cons name rest inductionHypothesis =>
      cases document with
      | object members =>
          simp only [reprint_object, reaches_cons_object_iff, lookup_reprintMembers,
            Option.map_eq_some_iff, exists_exists_and_eq_and, inductionHypothesis]
      | number value =>
          rw [reprint_number]
          split <;> simp [Reaches]
      | _ => simp [Reaches]

/-- Different values written at a reached path give different documents. -/
theorem Reaches.eq_of_writeAt_eq
    {target : List Text} {document first second : Json}
    (reaches : Reaches target document)
    (same : writeAt target first document = writeAt target second document) :
    first = second := by
  induction target generalizing document with
  | nil => simpa using same
  | cons name rest inductionHypothesis =>
      obtain ⟨members, rfl⟩ := reaches.isObject
      rw [writeAt_cons_object, writeAt_cons_object, Json.object.injEq] at same
      have below := Members.eq_of_replace_eq same
      cases rest with
      | nil => simpa using below
      | cons next rest =>
          obtain ⟨inner, found, innerReaches⟩ := reaches.exists_object (by simp)
          rw [found, Option.getD_some] at below
          exact inductionHypothesis innerReaches below

end Json

/-- A text edit carries out a write: on every text of the document it prints an
object that comes back as the document with the value written. -/
def Edits
    (cJSON : CJson) (edit : Text → Except Int Text)
    (target : List Text) (value document : Json) : Prop :=
  ∀ buffer, cJSON.parse buffer = some document →
    ∃ members, edit buffer = .ok (cJSON.print (.object members)) ∧
      (Json.object members).reprint = (Json.writeAt target value document).reprint

section

variable {cJSON : CJson}

/-- Adding a key to an object writes it. -/
theorem edits_cjsonAddKeyValue
    {key buffer : Text} {flags : Nat} {value : Json} {members : List (Text × Json)}
    (override : flags &&& OVERRIDE ≠ 0)
    (encoded : encodeValue cJSON buffer flags = some value) :
    Edits cJSON (fun text => cjsonAddKeyValueToJsonString cJSON text key buffer flags)
      [key] value (.object members) := by
  intro text parsed
  refine ⟨Members.replace lowercase members key value, ?_, by simp⟩
  simp only [cjsonAddKeyValueToJsonString_object parsed override, encoded]

/-- Editing a member that is an object writes below it. -/
theorem edits_updateMember
    (lawful : cJSON.Lawful)
    {name : Text} {edit : Text → Except Int Text} {rest : List Text} {value : Json}
    {members inner : List (Text × Json)}
    (found : Members.lookup members name = some (.object inner))
    (edits : Edits cJSON edit rest value (Json.reprint (.object inner))) :
    Edits cJSON (updateMember cJSON name edit) (name :: rest) value
      (.object members) := by
  intro buffer parsed
  obtain ⟨edited, editEq, reprintEq⟩ :=
    edits (cJSON.print (.object inner)) (lawful.parse_print _)
  refine ⟨Members.replace lowercase members name (Json.object edited).reprint, ?_, ?_⟩
  · rw [updateMember_object parsed found, editEq]
    simp only [Except.bind, lawful.parse_print]
  · have written : (Json.object edited).reprint =
        (Json.writeAt rest value (.object inner)).reprint := by
      rw [reprintEq, Json.reprint_writeAt, Json.reprint_writeAt, Json.reprint_reprint]
    rw [written, Json.writeAt_cons_object, found, Option.getD_some]
    simp [Json.reprintMembers_replace]

/-- Counting an entry that has a text writes the next number. -/
theorem edits_countEntry
    {entry text : Text} {item : Json} {members : List (Text × Json)}
    (found : Members.lookup members entry = some item)
    (itemText : textOfValue cJSON item = .ok text) :
    Edits cJSON (countEntry cJSON entry) [entry]
      (storedValue (sprintfD (toInt32 (atoi text + 1)))) (.object members) := by
  intro buffer parsed
  have got : getValueOfKeyFromJsonString cJSON buffer entry = .ok text := by
    simp [getValueOfKeyFromJsonString, getValueOfKeyFromJsonObject, parsed, found,
      itemText]
  obtain ⟨edited, editEq, reprintEq⟩ :=
    edits_cjsonAddKeyValue (by decide)
      (encodeValue_intparse (sprintfD (toInt32 (atoi text + 1)))) buffer parsed
  refine ⟨edited, ?_, reprintEq⟩
  simpa only [countEntry, got, bind, Except.bind] using editEq

namespace Update

/-- The value an update stores in a document, when it has one to store. -/
def newValue (cJSON : CJson) : Update → Json → Option Json
  | .setSupply _ _ value, _ => some (storedValue value)
  | .addEvent _ value, _ => some (storedValue value)
  | .addEntry entry, document =>
      (Json.path [K_ALERTS, entry] document.reprint).bind fun item =>
        (textOfValue cJSON item).toOption.map fun text =>
          storedValue (sprintfD (toInt32 (atoi text + 1)))

/-- Below the object of its section, an update is a write of its new value. -/
theorem edits_sectionEdit
    (lawful : cJSON.Lawful) (update : Update)
    {value : Json} {members inner : List (Text × Json)}
    (found : Members.lookup members update.sectionName = some (.object inner))
    (reaches : Json.Reaches update.target (.object members))
    (stores : update.newValue cJSON (.object members) = some value) :
    Edits cJSON (update.sectionEdit cJSON) update.target.tail value
      (Json.reprint (.object inner)) := by
  cases update with
  | setSupply category key text =>
      obtain rfl : storedValue text = value := Option.some.inj stores
      obtain ⟨supplies, suppliesFound, suppliesReaches⟩ := reaches.exists_object (by simp)
      obtain rfl := Json.object.inj (Option.some.inj (found.symm.trans suppliesFound))
      obtain ⟨entries, categoryFound, _⟩ := suppliesReaches.exists_object (by simp)
      have reprinted : Members.lookup (Json.reprintMembers inner) category =
          some (.object (Json.reprintMembers entries)) := by
        simp [categoryFound]
      rw [Json.reprint_object]
      refine edits_updateMember lawful reprinted ?_
      rw [Json.reprint_object]
      exact edits_cjsonAddKeyValue (by decide) (encodeValue_intparse text)
  | addEntry entry =>
      simp only [sectionName, part, Part.name] at found
      have inSection : Json.path [K_ALERTS, entry] (Json.reprint (.object members)) =
          Members.lookup (Json.reprintMembers inner) entry := by
        simp [found]
      rw [newValue, inSection] at stores
      obtain ⟨item, itemFound, texted⟩ := Option.bind_eq_some_iff.mp stores
      obtain ⟨text, itemText, rfl⟩ := Option.map_eq_some_iff.mp texted
      rw [Json.reprint_object]
      refine edits_countEntry itemFound ?_
      cases itemTextEq : textOfValue cJSON item with
      | error code => simp [itemTextEq, Except.toOption] at itemText
      | ok other =>
          rw [itemTextEq] at itemText
          rw [Option.some.inj itemText]
  | addEvent key text =>
      obtain rfl : storedValue text = value := Option.some.inj stores
      rw [Json.reprint_object]
      exact edits_cjsonAddKeyValue (by decide) (encodeValue_intparse text)

/-- On a document that reaches its path, an update is a write of its new
value. -/
theorem edits_edit
    (lawful : cJSON.Lawful) (update : Update) {value document : Json}
    (reaches : Json.Reaches update.target document)
    (stores : update.newValue cJSON document = some value) :
    Edits cJSON (update.edit cJSON) update.target value document := by
  have target_eq : update.target = update.sectionName :: update.target.tail := by
    cases update <;> rfl
  have proper : update.target.tail ≠ [] := by
    cases update <;> simp [target]
  rw [target_eq] at reaches
  obtain ⟨members, rfl⟩ := reaches.isObject
  obtain ⟨inner, found, _⟩ := reaches.exists_object proper
  rw [target_eq, edit_eq_updateMember]
  exact edits_updateMember lawful found
    (edits_sectionEdit lawful update found (target_eq ▸ reaches) stores)

/-- Such an update, if it returns 0 and its output is flushed, leaves the
written document in the file and in its buffer. -/
theorem apply_of_reaches
    (lawful : cJSON.Lawful) (update : Update)
    {faults : FileFaults} {file : Text} {value document : Json}
    (parsed : cJSON.parse file = some document)
    (reaches : Json.Reaches update.target document)
    (stores : update.newValue cJSON document = some value)
    (code : (update.apply cJSON faults file).code = 0) (flushed : faults.lost = 0) :
    ∃ text, update.apply cJSON faults file = { code := 0, buffer := text, file := text } ∧
      cJSON.parse text = some (Json.writeAt update.target value document).reprint := by
  obtain ⟨members, editEq, reprintEq⟩ :=
    edits_edit lawful update reaches stores file parsed
  refine ⟨cJSON.print (.object members), ?_, by rw [lawful.parse_print, reprintEq]⟩
  rw [apply_eq, updateFile] at code ⊢
  cases read : readFile faults file with
  | error error => simp [read] at code
  | ok buffer =>
      obtain ⟨rfl, _⟩ := readFile_eq_ok read
      simp only [read, editEq] at code ⊢
      rw [writeFile_of_code_eq_zero code flushed (lawful.print_ne_nil _)]

/-- Such an update, with every file operation succeeding, returns 0 and leaves
the written document in the file and in its buffer. -/
theorem apply_none_of_reaches
    (lawful : cJSON.Lawful) (update : Update) {file : Text} {value document : Json}
    (parsed : cJSON.parse file = some document)
    (reaches : Json.Reaches update.target document)
    (stores : update.newValue cJSON document = some value) :
    ∃ text, update.apply cJSON .none file = { code := 0, buffer := text, file := text } ∧
      cJSON.parse text = some (Json.writeAt update.target value document).reprint := by
  have nonempty := lawful.ne_nil_of_parse parsed
  obtain ⟨members, editEq, reprintEq⟩ :=
    edits_edit lawful update reaches stores file parsed
  refine ⟨cJSON.print (.object members), ?_, by rw [lawful.parse_print, reprintEq]⟩
  rw [apply_eq, updateFile, readFile_none nonempty]
  simp only [editEq, writeFile_none file (lawful.print_ne_nil _)]

end Update

end

end Refuge
