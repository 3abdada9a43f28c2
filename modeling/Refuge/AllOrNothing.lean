import Refuge.Updates
import Refuge.Json.Reference

/-!
# Updates under failing file operations

Each writer reads the file, looks up its section, and writes the edited text
over the old content.  Until the file is opened for writing a failure leaves
it alone.  After that the old content is gone: a byte that `fwrite` refuses
leaves a part of the new text behind an error code, and a byte that is lost in
the unchecked `fclose` leaves it behind a success.
-/

namespace Refuge

open Foundation

/-- A text holds the first name, the text of its value the second, and so on. -/
def HoldsNames (cJSON : CJson) : List Text → Text → Prop
  | [], _ => True
  | name :: names, text =>
      ∃ value, getValueOfKeyFromJsonString cJSON text name = .ok value ∧
        HoldsNames cJSON names value

/-- The names an update looks up in the text it has read. -/
def Update.lookups : Update → List Text
  | .setSupply category _ _ => [SUPPLIES, category]
  | .addEntry entry => [K_ALERTS, entry]
  | .addEvent _ _ => [K_EMERGENCY]

/-- A call that fails leaves the file as it was, and one that returns 0 leaves
the updated text in it. -/
def AllOrNothing
    (cJSON : CJson) (faults : FileFaults) (update : Update) (file : Text) : Prop :=
  let result := update.apply cJSON faults file
  (result.code ≠ 0 → result.file = file) ∧
    (result.code = 0 → update.edit cJSON file = .ok result.file)

/-- The call gets as far as truncating the file: it is read, holds the names,
and is opened for writing. -/
def Truncates
    (cJSON : CJson) (faults : FileFaults) (update : Update) (file : Text) : Prop :=
  faults.reading = false ∧ file ≠ [] ∧ HoldsNames cJSON update.lookups file ∧
    faults.openWrite = false

section

variable {cJSON : CJson}

/-- Editing a member prints a tree when the member is there and its edit
prints one. -/
theorem updateMember_eq_ok
    (lawful : cJSON.Lawful)
    {name buffer value : Text} (edit : Text → Except Int Text) {tree : Json}
    (got : getValueOfKeyFromJsonString cJSON buffer name = .ok value)
    (edited : edit value = .ok (cJSON.print tree)) :
    ∃ whole, updateMember cJSON name edit buffer = .ok (cJSON.print whole) := by
  have encoded : encodeValue cJSON (cJSON.print tree) (OVERRIDE ||| OBJPARSE) =
      some tree.reprint := by
    rw [encodeValue_objparse, lawful.parse_print]
  have added := cjsonAddKeyValueToJsonString_override buffer name (by decide) encoded
  refine ⟨_, Eq.trans ?_ added⟩
  simp only [updateMember, bind, Except.bind, got, edited]

/-- An edit succeeds exactly when the names it looks up are held. -/
theorem Update.edit_eq_ok_iff
    (lawful : cJSON.Lawful) (update : Update) (buffer : Text) :
    (∃ text, update.edit cJSON buffer = .ok text) ↔
      HoldsNames cJSON update.lookups buffer := by
  have stored (cjsonBuffer key value : Text) :
      ∃ tree, cjsonAddKeyValueToJsonString cJSON cjsonBuffer key value
        (OVERRIDE ||| INTPARSE) = .ok (cJSON.print tree) :=
    ⟨_, cjsonAddKeyValueToJsonString_override cjsonBuffer key (by decide)
      (encodeValue_intparse value)⟩
  rw [Update.edit_eq_updateMember]
  constructor
  · rintro ⟨text, edits⟩
    obtain ⟨_, value, _, _, _, got, inner, _, _⟩ := exists_of_updateMember_eq_ok edits
    cases update with
    | setSupply category key stored =>
        obtain ⟨_, categoryText, _, _, _, gotCategory, _⟩ := exists_of_updateMember_eq_ok inner
        exact ⟨value, got, categoryText, gotCategory, trivial⟩
    | addEntry entry =>
        obtain ⟨count, gotEntry, _⟩ := exists_of_countEntry_eq_ok inner
        exact ⟨value, got, count, gotEntry, trivial⟩
    | addEvent key stored => exact ⟨value, got, trivial⟩
  · intro holds
    cases update with
    | setSupply category key text =>
        obtain ⟨value, got, categoryText, gotCategory, _⟩ := holds
        obtain ⟨tree, added⟩ := stored categoryText key text
        obtain ⟨_, inner⟩ := updateMember_eq_ok lawful (fun valueOfCategory =>
          cjsonAddKeyValueToJsonString cJSON valueOfCategory key text
            (OVERRIDE ||| INTPARSE)) gotCategory added
        obtain ⟨_, edits⟩ := updateMember_eq_ok lawful _ got inner
        exact ⟨_, edits⟩
    | addEntry entry =>
        obtain ⟨value, got, count, gotCount, _⟩ := holds
        obtain ⟨tree, added⟩ := stored value entry (sprintfD (toInt32 (atoi count + 1)))
        have inner : countEntry cJSON entry value = .ok (cJSON.print tree) := by
          simp only [countEntry, bind, Except.bind, gotCount, added]
        obtain ⟨_, edits⟩ := updateMember_eq_ok lawful _ got inner
        exact ⟨_, edits⟩
    | addEvent key text =>
        obtain ⟨value, got, _⟩ := holds
        obtain ⟨tree, added⟩ := stored value key text
        obtain ⟨_, edits⟩ := updateMember_eq_ok lawful (fun objOfJsonBuffer =>
          cjsonAddKeyValueToJsonString cJSON objOfJsonBuffer key text
            (OVERRIDE ||| INTPARSE)) got added
        exact ⟨_, edits⟩

/-- A write that keeps every byte puts the buffer into the file. -/
theorem writeFile_of_kept
    {faults : FileFaults} (file : Text) {buffer : Text}
    (opened : faults.openWrite = false) (kept : faults.refused = 0 ∧ faults.lost = 0)
    (nonempty : buffer ≠ []) :
    writeFile faults file buffer = (0, buffer) := by
  have length : buffer.length ≠ 0 := by simpa using nonempty
  simp [writeFile, length, opened, kept.1, kept.2]

/-- A write that drops a byte leaves a proper prefix of the buffer, and returns
0 if `fwrite` took every byte. -/
theorem writeFile_of_dropped
    {faults : FileFaults} (file : Text) {buffer : Text}
    (opened : faults.openWrite = false) (dropped : ¬(faults.refused = 0 ∧ faults.lost = 0))
    (nonempty : buffer ≠ []) :
    (writeFile faults file buffer).2 <+: buffer ∧
      (writeFile faults file buffer).2 ≠ buffer := by
  have length : 0 < buffer.length := List.length_pos_iff.mpr nonempty
  have written : (writeFile faults file buffer).2 =
      buffer.take (buffer.length - faults.refused - faults.lost) := by
    simp only [writeFile, length.ne', opened, ↓reduceIte, Bool.false_eq_true]
    split <;> rfl
  rw [written]
  refine ⟨List.take_prefix _ _, fun whole => ?_⟩
  have sameLength := congrArg List.length whole
  rw [List.length_take] at sameLength
  omega

/-- A call that does not truncate the file leaves it as it was and fails. -/
theorem Update.apply_of_not_truncates
    (lawful : cJSON.Lawful) {faults : FileFaults} {update : Update} {file : Text}
    (stops : ¬Truncates cJSON faults update file) :
    (update.apply cJSON faults file).code = 1 ∧
      (update.apply cJSON faults file).file = file := by
  rw [apply_eq, updateFile, readFile_eq]
  by_cases unread : faults.reading ∨ file = []
  · rw [if_pos unread]
    exact ⟨rfl, rfl⟩
  · rw [if_neg unread]
    simp only [not_or, Bool.not_eq_true] at unread
    cases edited : update.edit cJSON file with
    | error code => simp [edited]
    | ok text =>
        have names := (update.edit_eq_ok_iff lawful file).mp ⟨text, edited⟩
        have closed : faults.openWrite = true := by
          by_contra opened
          exact stops ⟨unread.1, unread.2, names, by simpa using opened⟩
        have nonempty : text ≠ [] := by
          rw [edit_eq_updateMember] at edited
          obtain ⟨_, _, _, _, _, _, _, _, rfl⟩ := exists_of_updateMember_eq_ok edited
          exact lawful.print_ne_nil _
        simp [edited, writeFile, nonempty, closed]

/-- A call that truncates the file leaves in it what the write makes of the
updated text. -/
theorem Update.apply_of_truncates
    (lawful : cJSON.Lawful) {faults : FileFaults} {update : Update} {file : Text}
    (truncates : Truncates cJSON faults update file) :
    ∃ members before, cJSON.parse file = some (.object before) ∧
      update.edit cJSON file = .ok (cJSON.print (.object members)) ∧
        update.apply cJSON faults file =
          { code := (writeFile faults file (cJSON.print (.object members))).1
            buffer := cJSON.print (.object members)
            file := (writeFile faults file (cJSON.print (.object members))).2 } := by
  obtain ⟨reads, nonempty, names, _⟩ := truncates
  obtain ⟨text, edited⟩ := (update.edit_eq_ok_iff lawful file).mpr names
  have editMember := edited
  rw [edit_eq_updateMember] at editMember
  obtain ⟨before, _, _, content, parsed, _, _, _, rfl⟩ := exists_of_updateMember_eq_ok editMember
  refine ⟨Members.replace lowercase before update.sectionName content, before, parsed, edited, ?_⟩
  rw [apply_eq, updateFile, readFile_eq, if_neg (by simp [reads, nonempty])]
  simp only [edited]

/-- An update is all-or-nothing exactly when it stops before it truncates the
file or no byte it writes is dropped. -/
theorem allOrNothing_iff
    (lawful : cJSON.Lawful) (faults : FileFaults) (update : Update) (file : Text) :
    AllOrNothing cJSON faults update file ↔
      (Truncates cJSON faults update file → faults.refused = 0 ∧ faults.lost = 0) := by
  by_cases truncates : Truncates cJSON faults update file
  · obtain ⟨members, before, parsed, edited, applied⟩ :=
      Update.apply_of_truncates lawful truncates
    have nonempty := lawful.print_ne_nil (.object members)
    rw [AllOrNothing, applied, edited]
    by_cases kept : faults.refused = 0 ∧ faults.lost = 0
    · simp [writeFile_of_kept file truncates.2.2.2 kept nonempty, kept]
    · obtain ⟨isPrefix, proper⟩ := writeFile_of_dropped file truncates.2.2.2 kept nonempty
      simp only [truncates, kept, forall_const, iff_false]
      rintro ⟨failed, returned⟩
      -- What is left does not parse, so it is not the old content either.
      have unparsable := lawful.parse_cut members _ isPrefix proper
      by_cases code : (writeFile faults file (cJSON.print (.object members))).1 = 0
      · exact proper (Except.ok.inj (returned code)).symm
      · rw [failed code, parsed] at unparsable
        exact absurd unparsable (by simp)
  · obtain ⟨code, unchanged⟩ := Update.apply_of_not_truncates lawful truncates
    simp [AllOrNothing, code, unchanged, truncates]

end

/-- A state without any emergency entry. -/
def quietFile : Text := "\x7b\"emergency\":\x7b\x7d\x7d".toList

/-- Nothing of what is flushed reaches the file. -/
def lostOnClose : FileFaults := { FileFaults.none with lost := 100 }

/-- The call returns 0 and leaves the file empty. -/
theorem allOrNothing_lostOnClose :
    ¬AllOrNothing .reference lostOnClose (.addEvent "last_event".toList "none".toList)
      quietFile := by
  rintro ⟨_, returned⟩
  have result : (Update.apply .reference lostOnClose
      (.addEvent "last_event".toList "none".toList) quietFile).code = 0 ∧
      (Update.apply .reference lostOnClose
        (.addEvent "last_event".toList "none".toList) quietFile).file = [] := by
    decide +kernel
  have edited := returned result.1
  rw [result.2, Update.edit_eq_updateMember] at edited
  obtain ⟨_, _, _, _, _, _, _, _, printed⟩ := exists_of_updateMember_eq_ok edited
  exact CJson.reference_lawful.print_ne_nil _ printed.symm

/-- With every byte kept the call is all-or-nothing. -/
theorem allOrNothing_quietFile :
    AllOrNothing .reference .none (.addEvent "last_event".toList "none".toList) quietFile :=
  (allOrNothing_iff CJson.reference_lawful _ _ _).mpr fun _ => ⟨rfl, rfl⟩

end Refuge
