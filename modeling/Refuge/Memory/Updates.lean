import Refuge.Memory

/-!
# Memory of the writers

None of the three writers frees what it takes out of the document: each section
and each value it copied stays, with the two texts that were printed for every
copy of an object.  `set_supply_status` hands its buffer to the caller; the other
two keep theirs.
-/

namespace Refuge

open Foundation

namespace Memory

section

variable (cJSON : CJson) (allocates : Nat → Bool)

/-- Take a value out of a text and go on with its copy. -/
def withField (cjsonBuffer key : Text) : ExceptT Int Program Text := do
  let buffer ← ExceptT.mk (getValueOfKeyFromJsonString cJSON allocates cjsonBuffer key)
  pure buffer.content

/-- Add a value to a text and go on with the text. -/
def withAdded (cjsonBuffer key buffer : Text) (flags : Nat) : ExceptT Int Program Text :=
  ExceptT.mk (cjsonAddKeyValueToJsonString cJSON allocates (some cjsonBuffer) key buffer flags)

/-- What `set_supply_status` does between reading and writing the file. -/
def setSupplyText (category key value suppliesBuffer : Text) : ExceptT Int Program Text := do
  let valueOfSupplyKey ← withField cJSON allocates suppliesBuffer SUPPLIES
  let valueOfCategory ← withField cJSON allocates valueOfSupplyKey category
  let valueOfCategory ← withAdded cJSON allocates valueOfCategory key value
    (OVERRIDE ||| INTPARSE)
  let valueOfSupplyKey ← withAdded cJSON allocates valueOfSupplyKey category valueOfCategory
    (OVERRIDE ||| OBJPARSE)
  withAdded cJSON allocates suppliesBuffer SUPPLIES valueOfSupplyKey (OVERRIDE ||| OBJPARSE)

/-- What `add_entry_to_json` does between reading and writing the file. -/
def addEntryText (entry jsonBuffer : Text) : ExceptT Int Program Text := do
  let objOfJsonBuffer ← withField cJSON allocates jsonBuffer K_ALERTS
  let valueChar ← withField cJSON allocates objOfJsonBuffer entry
  let value := toInt32 (atoi valueChar + 1)
  let objOfJsonBuffer ← withAdded cJSON allocates objOfJsonBuffer entry (sprintfD value)
    (OVERRIDE ||| INTPARSE)
  withAdded cJSON allocates jsonBuffer K_ALERTS objOfJsonBuffer (OVERRIDE ||| OBJPARSE)

/-- What `add_event_to_json` does between reading and writing the file. -/
def addEventText (key value jsonBuffer : Text) : ExceptT Int Program Text := do
  let objOfJsonBuffer ← withField cJSON allocates jsonBuffer K_EMERGENCY
  let objOfJsonBuffer ← withAdded cJSON allocates objOfJsonBuffer key value
    (OVERRIDE ||| INTPARSE)
  withAdded cJSON allocates jsonBuffer K_EMERGENCY objOfJsonBuffer (OVERRIDE ||| OBJPARSE)

/-- The text edit of an update. -/
def edit : Update → Text → ExceptT Int Program Text
  | .setSupply category key value => setSupplyText cJSON allocates category key value
  | .addEntry entry => addEntryText cJSON allocates entry
  | .addEvent key value => addEventText cJSON allocates key value

/-- What an update leaves behind: its code, its buffer and the content of the file. -/
structure Stored where
  code : Int
  buffer : Option (Ptr Text)
  file : Text

/-- The three writers. -/
def apply (update : Update) (faults : FileFaults) (file : Text) : Program Stored := do
  match ← readFile allocates faults file with
  | .error _ => pure { code := 1, buffer := none, file }
  | .ok buffer => do
      match ← (edit cJSON allocates update buffer.content).run with
      | .error _ => pure { code := 1, buffer := some buffer, file }
      | .ok content => do
          let (code, file) ← writeFile faults file content
          pure { code, buffer := some { buffer with content }, file }

/-- The texts that stay of a value taken out of a text: its copy and what was printed. -/
def fieldTexts (cjsonBuffer key : Text) : Nat :=
  match Refuge.getValueOfKeyFromJsonString cJSON cjsonBuffer key with
  | .error _ => 0
  | .ok _ => 1 + lookupTexts cJSON cjsonBuffer key

/-- The texts that stay of a value, and of one taken out of it. -/
def innerTexts (cjsonBuffer name key : Text) : Nat :=
  fieldTexts cJSON cjsonBuffer name +
    match Refuge.getValueOfKeyFromJsonString cJSON cjsonBuffer name with
    | .error _ => 0
    | .ok value => fieldTexts cJSON value key

/-- The texts that stay of an edit. -/
def editTexts : Update → Text → Nat
  | .setSupply category _ _, buffer => innerTexts cJSON buffer SUPPLIES category
  | .addEntry entry, buffer => innerTexts cJSON buffer K_ALERTS entry
  | .addEvent _ _, buffer => fieldTexts cJSON buffer K_EMERGENCY

/-- The texts that stay of an update, its buffer apart. -/
def updateTexts (update : Update) (faults : FileFaults) (file : Text) : Nat :=
  match Refuge.readFile faults file with
  | .error _ => 0
  | .ok buffer => editTexts cJSON update buffer

/-- The values an edit adds. -/
def editTrees : Update → Nat
  | .setSupply .. => 3
  | .addEntry _ => 2
  | .addEvent .. => 2

end

/-- An edit loses at most so many texts and trees; just so many texts if it succeeds, and
no trees if there is memory. -/
def Edited (allocates : Nat → Bool) (plain : Except Int Text) (texts trees : Nat)
    (result : Except Int Text) (left : Multiset (Block Kind)) : Prop :=
  ∃ fewTexts ≤ texts, ∃ fewTrees ≤ trees, Lost fewTexts fewTrees left ∧
    (∀ text, result = .ok text → fewTexts = texts) ∧
      (Plenty allocates → result = plain ∧ fewTexts = texts ∧ fewTrees = 0)

section

variable {cJSON : CJson} {allocates : Nat → Bool}

/-- Only an object is printed, and an object has a text. -/
theorem lookupTexts_le_fieldTexts (cjsonBuffer key : Text) :
    lookupTexts cJSON cjsonBuffer key ≤ fieldTexts cJSON cjsonBuffer key := by
  unfold fieldTexts
  cases plain : Refuge.getValueOfKeyFromJsonString cJSON cjsonBuffer key with
  | ok value => exact Nat.le_add_left _ _
  | error code =>
      have unprinted : lookupTexts cJSON cjsonBuffer key = 0 := by
        unfold lookupTexts memberOf
        unfold Refuge.getValueOfKeyFromJsonString Refuge.getValueOfKeyFromJsonObject at plain
        cases tree : cJSON.parse cjsonBuffer with
        | none => rfl
        | some root =>
            rw [tree] at plain
            rw [Option.bind_some]
            cases item : root.getObjectItemCaseSensitive key with
            | none => rfl
            | some value => cases value <;> simp_all [textOfValue, printedTexts]
      exact unprinted.le

theorem Edited.after
    {plain : Except Int Text} {texts trees more : Nat} {result : Except Int Text}
    {left lost : Multiset (Block Kind)} (edited : Edited allocates plain texts trees result left)
    (also : Lost more 0 lost) :
    Edited allocates plain (more + texts) trees result (left + lost) := by
  obtain ⟨fewTexts, fewer, fewTrees, fewerTrees, left, exact, plainly⟩ := edited
  refine ⟨more + fewTexts, by omega, fewTrees, fewerTrees, ?_, fun text same => ?_, ?_⟩
  · rw [Nat.add_comm more]
    exact left.add also
  · rw [exact text same]
  · intro plenty
    obtain ⟨same, all, none⟩ := plainly plenty
    exact ⟨same, by rw [all], none⟩

theorem owns_withField
    {cjsonBuffer key : Text} {later : Text → ExceptT Int Program Text}
    {plain : Text → Except Int Text} {texts : Text → Nat} {trees : Nat}
    (second : ∀ value, Owns (Scarce allocates) 0 (later value).run
      (Edited allocates (plain value) (texts value) trees)) :
    Owns (Scarce allocates) 0 (withField cJSON allocates cjsonBuffer key >>= later).run
      (Edited allocates
        (Refuge.getValueOfKeyFromJsonString cJSON cjsonBuffer key >>= plain)
        (fieldTexts cJSON cjsonBuffer key +
          match Refuge.getValueOfKeyFromJsonString cJSON cjsonBuffer key with
          | .error _ => 0
          | .ok value => texts value) trees) := by
  unfold withField
  rw [bind_assoc]
  refine .attempt (owns_getValueOfKeyFromJsonString cjsonBuffer key) ?_ ?_
  · rintro code left ⟨some, few, lost, plainly⟩
    have fewer := few.trans (lookupTexts_le_fieldTexts cjsonBuffer key)
    refine ⟨some, by omega, 0, Nat.zero_le _, by simpa using lost, by simp, fun plenty => ?_⟩
    obtain ⟨rfl, same⟩ := plainly plenty
    simp [same, fieldTexts, bind, Except.bind]
  · rintro buffer left ⟨kind, same, lost, rfl, printed⟩
    rw [pure_bind]
    have framed := (second buffer.content).frame ({buffer.block} + lost)
    rw [zero_add] at framed
    rw [add_zero]
    refine framed.mono ?_
    rintro result _ ⟨own, edited, rfl⟩
    have both := edited.after ((lost_text kind).add printed)
    simpa [same, fieldTexts, bind, Except.bind] using both

theorem owns_lastField
    {cjsonBuffer key : Text} {later : Text → ExceptT Int Program Text}
    {plain : Text → Except Int Text} {trees : Nat}
    (second : ∀ value, Owns (Scarce allocates) 0 (later value).run
      (Edited allocates (plain value) 0 trees)) :
    Owns (Scarce allocates) 0 (withField cJSON allocates cjsonBuffer key >>= later).run
      (Edited allocates (Refuge.getValueOfKeyFromJsonString cJSON cjsonBuffer key >>= plain)
        (fieldTexts cJSON cjsonBuffer key) trees) := by
  have owns := @owns_withField cJSON allocates cjsonBuffer key later plain _ trees second
  have nothing : (match Refuge.getValueOfKeyFromJsonString cJSON cjsonBuffer key with
      | .error _ => 0
      | .ok _ => 0) = 0 := by
    split <;> rfl
  rwa [nothing, Nat.add_zero] at owns

theorem owns_withAdded
    {cjsonBuffer key buffer : Text} {flags : Nat} {later : Text → ExceptT Int Program Text}
    {plain : Text → Except Int Text} {trees : Nat}
    (second : ∀ text, Owns (Scarce allocates) 0 (later text).run
      (Edited allocates (plain text) 0 trees)) :
    Owns (Scarce allocates) 0
      (withAdded cJSON allocates cjsonBuffer key buffer flags >>= later).run
      (Edited allocates
        (Refuge.cjsonAddKeyValueToJsonString cJSON cjsonBuffer key buffer flags >>= plain) 0
        (trees + 1)) := by
  refine .attempt (owns_cjsonAddKeyValueToJsonString _ key buffer flags) ?_ ?_
  · rintro code left ⟨some, few, lost, plainly⟩
    refine ⟨0, le_rfl, some, by omega, by simpa using lost, by simp, fun plenty => ?_⟩
    obtain ⟨rfl, same⟩ := plainly plenty
    simp only [Option.elim_some] at same
    simp [← same, bind, Except.bind]
  · rintro text left ⟨some, few, lost, plainly⟩
    have framed := (second text).frame left
    rw [zero_add] at framed
    rw [add_zero]
    refine framed.mono ?_
    rintro result _ ⟨own, ⟨fewTexts, none, fewTrees, fewer, left, _, edited⟩, rfl⟩
    obtain rfl := Nat.le_zero.mp none
    refine ⟨0, le_rfl, fewTrees + some, by omega, by simpa using left.add lost, by simp, ?_⟩
    intro plenty
    obtain ⟨rfl, same⟩ := plainly plenty
    obtain ⟨is, _, rfl⟩ := edited plenty
    simp only [Option.elim_some] at same
    simp [← same, is, bind, Except.bind]

theorem owns_lastAdded (cjsonBuffer key buffer : Text) (flags : Nat) :
    Owns (Scarce allocates) 0 (withAdded cJSON allocates cjsonBuffer key buffer flags).run
      (Edited allocates
        (Refuge.cjsonAddKeyValueToJsonString cJSON cjsonBuffer key buffer flags) 0 1) := by
  refine (owns_cjsonAddKeyValueToJsonString _ key buffer flags).mono ?_
  rintro result left ⟨some, few, lost, plainly⟩
  refine ⟨0, le_rfl, some, few, lost, by simp, fun plenty => ?_⟩
  obtain ⟨none, same⟩ := plainly plenty
  exact ⟨same, rfl, none⟩

/-- Every edit loses what it takes out of the text, and what it cannot add. -/
theorem owns_edit (update : Update) (buffer : Text) :
    Owns (Scarce allocates) 0 (edit cJSON allocates update buffer).run
      (Edited allocates (update.edit cJSON buffer) (editTexts cJSON update buffer)
        (editTrees update)) := by
  cases update with
  | setSupply category key value =>
      refine owns_withField fun supplies => owns_lastField fun inner => ?_
      refine owns_withAdded fun inner => owns_withAdded fun supplies => ?_
      exact owns_lastAdded _ _ _ _
  | addEntry entry =>
      refine owns_withField fun alerts => owns_lastField fun valueChar => ?_
      exact owns_withAdded fun alerts => owns_lastAdded _ _ _ _
  | addEvent key value =>
      exact owns_lastField fun events => owns_withAdded fun events => owns_lastAdded _ _ _ _

/-- An update leaves its buffer, if it has read the file, and what its edit loses. -/
def Applied (allocates : Nat → Bool) (plain : Updated) (texts trees : Nat)
    (stored : Stored) (left : Multiset (Block Kind)) : Prop :=
  ∃ lost, left = (stored.buffer.elim 0 fun buffer => {buffer.block}) + lost ∧
    (∀ buffer, stored.buffer = some buffer → buffer.block.kind = .text) ∧
      ∃ fewTexts ≤ texts, ∃ fewTrees ≤ trees, Lost fewTexts fewTrees lost ∧
        (stored.code = 0 → stored.buffer.isSome ∧ fewTexts = texts) ∧
          (Plenty allocates →
            plain = ⟨stored.code, stored.buffer.elim [] Ptr.content, stored.file⟩ ∧
              fewTexts = texts ∧ fewTrees = 0)

theorem owns_apply (update : Update) (faults : FileFaults) (file : Text) :
    Owns (Scarce allocates) 0 (apply cJSON allocates update faults file)
      (Applied allocates (update.apply cJSON faults file) (updateTexts cJSON update faults file)
        (editTrees update)) := by
  refine .call (owns_readFile faults file) ?_
  rintro (code | buffer) left read
  · obtain ⟨some, none, lost, plainly⟩ := read
    obtain rfl := Nat.le_zero.mp none
    refine .pure ⟨left, by simp, by simp, 0, Nat.zero_le _, 0, Nat.zero_le _, lost, by simp, ?_⟩
    intro plenty
    have unread := (plainly plenty).2
    simp [update.apply_eq, updateFile, updateTexts, unread]
  · obtain ⟨kind, read, lost, rfl, nothing⟩ := read
    obtain rfl := nothing.eq_zero
    have texts : updateTexts cJSON update faults file = editTexts cJSON update buffer.content := by
      simp [updateTexts, read]
    rw [texts]
    refine .call (owns_edit update buffer.content) ?_
    rintro (code | content) left ⟨fewTexts, fewer, fewTrees, fewerTrees, lost, all, plainly⟩
    · refine .pure ⟨left, by simp [add_comm], by simp [kind], fewTexts, fewer, fewTrees,
        fewerTrees, lost, by simp, fun plenty => ?_⟩
      obtain ⟨same, exact, none⟩ := plainly plenty
      exact ⟨by simp [update.apply_eq, updateFile, read, ← same], exact, none⟩
    · refine .call (owns_writeFile faults file content) ?_
      rintro ⟨code, file⟩ _ ⟨rfl, written⟩
      refine .pure ⟨left, by simp [add_comm], by simp [kind], fewTexts, fewer, fewTrees,
        fewerTrees, lost, fun _ => ⟨rfl, all content rfl⟩, fun plenty => ?_⟩
      obtain ⟨same, exact, none⟩ := plainly plenty
      exact ⟨by simp [update.apply_eq, updateFile, read, ← same, ← written], exact, none⟩

end

end Memory

end Refuge
