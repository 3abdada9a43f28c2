import Refuge.AllOrNothing
import Refuge.Authorisation
import Refuge.ClientLoop

/-!
# Status replies and control replies

The client tells a denial and an end of connection from a status reply by one
member of the root of the text it has received.  The status reply is the state
document, whose contents clients choose.  No update, whatever its texts and
whichever of its file operations fail, makes the root hold one of the two
names if it did not before, so no stored data passes for a control reply.
-/

namespace Refuge

open Foundation

/-- What `recv_and_check_message` finds in a message: whether access was denied
and whether the connection has ended. -/
structure Checked where
  denied : Bool
  ended : Bool
  deriving DecidableEq

/-- Neither. -/
def Checked.status : Checked where
  denied := false
  ended := false

/-- Access was denied. -/
def Checked.denial : Checked where
  denied := true
  ended := false

/-- The connection has ended. -/
def Checked.endOfConnection : Checked where
  denied := false
  ended := true

/-- The checks of `recv_and_check_message` on the bytes of one `recv`. -/
def recvAndCheckMessage (cJSON : CJson) (bytes : List Char) : Checked :=
  let recvSocketBuffer := (recvTcpMessage (some bytes)).2
  { denied := isKeyInJsonBuffer cJSON recvSocketBuffer K_ACC_DENEID
    ended := isKeyInJsonBuffer cJSON recvSocketBuffer K_END }

/-- The file after a sequence of updates, each with the file operations that
fail in it. -/
def fileAfter (cJSON : CJson) (file : Text) (updates : List (FileFaults × Update)) : Text :=
  updates.foldl (fun file update => (update.2.apply cJSON update.1 file).file) file

section

variable {cJSON : CJson}

theorem isKeyInJsonBuffer_eq (text name : Text) :
    isKeyInJsonBuffer cJSON text name = (memberOf cJSON text name).isSome := by
  unfold isKeyInJsonBuffer isKeyInJsonObject memberOf
  cases cJSON.parse text <;> rfl

/-- A text without NUL is checked as it was sent. -/
theorem recvAndCheckMessage_eq {text : Text} (clean : NUL ∉ text) :
    recvAndCheckMessage cJSON text =
      { denied := (memberOf cJSON text K_ACC_DENEID).isSome
        ended := (memberOf cJSON text K_END).isSome } := by
  have whole : (recvTcpMessage (some text)).2 = text := by
    have read := Framing.untilStop_append_replicate clean 0
    rwa [List.replicate_zero, List.append_nil] at read
  simp only [recvAndCheckMessage, whole, isKeyInJsonBuffer_eq]

/-- Writing leaves the old content, or a part of the buffer from its start. -/
theorem writeFile_cases (faults : FileFaults) (file buffer : Text) :
    (writeFile faults file buffer).2 = file ∨ (writeFile faults file buffer).2 <+: buffer := by
  unfold writeFile
  dsimp only
  split_ifs
  · exact Or.inl rfl
  · exact Or.inl rfl
  · exact Or.inr (List.take_prefix _ _)
  · exact Or.inr (List.take_prefix _ _)

/-- An update leaves the old content, or a part of its edit from its start. -/
theorem updateFile_cases (edit : Text → Except Int Text) (faults : FileFaults) (file : Text) :
    (updateFile edit faults file).file = file ∨
      ∃ text, edit file = .ok text ∧ (updateFile edit faults file).file <+: text := by
  unfold updateFile
  cases read : readFile faults file with
  | error code => exact Or.inl rfl
  | ok buffer =>
      obtain ⟨rfl, _⟩ := readFile_eq_ok read
      cases edited : edit buffer with
      | error code => exact Or.inl (by simp [edited])
      | ok text =>
          simp only [edited]
          rcases writeFile_cases faults buffer text with kept | written
          · exact Or.inl kept
          · exact Or.inr ⟨text, rfl, written⟩

/-- The step lemma: an update does not put a name into the root, but for the
section it updates. -/
theorem memberOf_apply_eq_none
    (lawful : cJSON.Lawful) (faults : FileFaults) (update : Update) {file name : Text}
    (absent : memberOf cJSON file name = none)
    (different : lowercase name ≠ lowercase update.sectionName) :
    memberOf cJSON (update.apply cJSON faults file).file name = none := by
  rw [Update.apply_eq]
  rcases updateFile_cases (update.edit cJSON) faults file with unchanged | ⟨text, edits, written⟩
  · rw [unchanged, absent]
  · rw [Update.edit_eq_updateMember] at edits written ⊢
    by_cases whole : (updateFile (updateMember cJSON update.sectionName
        (update.sectionEdit cJSON)) faults file).file = text
    · rw [whole, memberOf_updateMember lawful edits different, absent]
      rfl
    · -- A part of the text of an object is no JSON value.
      obtain ⟨members, _, _, content, _, _, _, _, rfl⟩ := exists_of_updateMember_eq_ok edits
      rw [memberOf, lawful.parse_cut _ _ written whole]
      rfl

/-- The names of the control replies are not those of a section. -/
theorem lowercase_ne_sectionName {name : Text} (control : name = K_ACC_DENEID ∨ name = K_END)
    (update : Update) : lowercase name ≠ lowercase update.sectionName := by
  rw [Update.sectionName]
  generalize update.part = part
  rcases control with rfl | rfl <;> cases part <;> decide

/-- The run lemma: no sequence of updates puts the name of a control reply into
the root. -/
theorem memberOf_fileAfter_eq_none
    (lawful : cJSON.Lawful) {name : Text} (control : name = K_ACC_DENEID ∨ name = K_END)
    {file : Text} (absent : memberOf cJSON file name = none)
    (updates : List (FileFaults × Update)) :
    memberOf cJSON (fileAfter cJSON file updates) name = none := by
  induction updates generalizing file with
  | nil => exact absent
  | cons update updates inductionHypothesis =>
      exact inductionHypothesis (memberOf_apply_eq_none lawful update.1 update.2 absent
        (lowercase_ne_sectionName control update.2))

/-- A control reply built in an empty buffer holds its key alone. -/
theorem memberOf_noticeMessage_nil
    (lawful : cJSON.Lawful) {key value message : Text} (name : Text)
    (made : noticeMessage cJSON [] key value = .ok message) :
    memberOf cJSON message name = if key = name then some (.string value) else none := by
  have printed := @cjsonAddKeyValueToJsonString_unparsable cJSON [] key value OVERRIDE
    lawful.parse_nil
  rw [encodeValue_override] at printed
  obtain rfl := Except.ok.inj (printed.symm.trans made)
  rw [memberOf, lawful.parse_print]
  simp [Json.reprintMembers, Members.lookup_cons]

theorem nul_notMem_of_noticeMessage
    (lawful : cJSON.Lawful) {leftover key value message : Text}
    (made : noticeMessage cJSON leftover key value = .ok message) : NUL ∉ message := by
  have printed := cjsonAddKeyValueToJsonString_override leftover key
    (show OVERRIDE &&& OVERRIDE ≠ 0 by decide) (@encodeValue_override cJSON value)
  obtain rfl := Except.ok.inj (printed.symm.trans made)
  exact lawful.print_no_nul _

/-- Where the root of the document is an object with neither name, no sequence
of updates makes the client take the document for a control reply; and it takes
the control replies, built in an empty buffer, for what they are. -/
theorem stored_data_is_no_control_reply
    (lawful : cJSON.Lawful) {file : Text} {members : List (Text × Json)}
    (parsed : cJSON.parse file = some (.object members))
    (noDenial : K_ACC_DENEID ∉ Members.names members) (noEnd : K_END ∉ Members.names members) :
    (∀ updates : List (FileFaults × Update), Receivable (fileAfter cJSON file updates) →
      recvAndCheckMessage cJSON (fileAfter cJSON file updates) = .status) ∧
      (∀ text ∈ [TRUE_, M_ACC_DENEID], ∃ message,
        noticeMessage cJSON [] K_ACC_DENEID text = .ok message ∧
          recvAndCheckMessage cJSON message = .denial) ∧
        ∃ message, noticeMessage cJSON [] K_END TRUE_ = .ok message ∧
          recvAndCheckMessage cJSON message = .endOfConnection := by
  have absent {name : Text} (missing : name ∉ Members.names members) :
      memberOf cJSON file name = none := by
    rw [memberOf, parsed]
    exact (Members.lookup_eq_none_iff members name).mpr missing
  have otherName : K_ACC_DENEID ≠ K_END := by decide
  refine ⟨fun updates receivable => ?_, fun text _ => ?_, ?_⟩
  · rw [recvAndCheckMessage_eq receivable.2.1,
      memberOf_fileAfter_eq_none lawful (Or.inl rfl) (absent noDenial) updates,
      memberOf_fileAfter_eq_none lawful (Or.inr rfl) (absent noEnd) updates]
    rfl
  · obtain ⟨message, made⟩ := @exists_noticeMessage cJSON [] K_ACC_DENEID text
    refine ⟨message, made, ?_⟩
    rw [recvAndCheckMessage_eq (nul_notMem_of_noticeMessage lawful made),
      memberOf_noticeMessage_nil lawful _ made, memberOf_noticeMessage_nil lawful _ made,
      if_pos rfl, if_neg otherName]
    rfl
  · obtain ⟨message, made⟩ := @exists_noticeMessage cJSON [] K_END TRUE_
    refine ⟨message, made, ?_⟩
    rw [recvAndCheckMessage_eq (nul_notMem_of_noticeMessage lawful made),
      memberOf_noticeMessage_nil lawful _ made, memberOf_noticeMessage_nil lawful _ made,
      if_pos rfl, if_neg otherName.symm]
    rfl

/-- Updates with the names of the control replies as texts. -/
def spoofs : List (FileFaults × Update) :=
  [(.none, .addEvent K_END TRUE_), (.none, .setSupply "food".toList K_ACC_DENEID TRUE_),
    (.none, .addEvent "last_event".toList "\x7b\"end_connection\":\"1\"\x7d".toList)]

/-- The document they leave is no control reply. -/
theorem stored_data_is_no_control_reply_spoofs :
    recvAndCheckMessage .reference (fileAfter .reference overflowFile spoofs) = .status :=
  (stored_data_is_no_control_reply CJson.reference_lawful parse_overflowFile
    (by decide) (by decide)).1 spoofs (by decide +kernel)

end

end Refuge
