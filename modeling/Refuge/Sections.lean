import Refuge.Authorisation
import Refuge.Foundation.Components

/-!
# The sections are independent

Every update prints the whole document again, with its own section moved to
the end.  What it makes of that section, and whether it fails, depends on the
section alone, and the other members come back as printing leaves them.  So
each section runs by itself under any mix of updates.
-/

namespace Refuge

open Foundation

/-- An update as a step on the file that returns its code; the file operations
succeed. -/
def updateStep (cJSON : CJson) (file : Text) (update : Update) : Text × Int :=
  let result := update.apply cJSON .none file
  (result.file, result.code)

/-- A file whose root has pairwise distinct names, ignoring case, and the three
sections as objects. -/
def Sectioned (cJSON : CJson) (file : Text) : Prop :=
  ∃ members, cJSON.parse file = some (.object members) ∧
    Members.FoldDistinct lowercase members ∧
      ∀ part : Part, ∃ inner, Members.lookup members part.name = some (.object inner)

/-- A member of the root as printing leaves it. -/
def printedMember (cJSON : CJson) (name file : Text) : Option Json :=
  (memberOf cJSON file name).map Json.reprint

/-- What an update makes of the value of its section, unless it fails. -/
def Update.sectionAfter (cJSON : CJson) (update : Update) (content : Json) : Option Json :=
  (update.sectionEdit cJSON (cJSON.print content)).toOption.bind cJSON.parse

/-- What an update does to the value of its section, and its code. -/
def Update.act (cJSON : CJson) : Option Json → Update → Option Json × Int
  | none, _ => (none, 1)
  | some content, update =>
      match update.sectionAfter cJSON content with
      | none => (some content, 1)
      | some after => (some after, 0)

section

variable {cJSON : CJson}

/-! ## A section edit depends on the parsed section -/

theorem getValueOfKeyFromJsonString_congr
    {first second : Text} (same : cJSON.parse first = cJSON.parse second) (key : Text) :
    getValueOfKeyFromJsonString cJSON first key =
      getValueOfKeyFromJsonString cJSON second key := by
  unfold getValueOfKeyFromJsonString
  rw [same]

theorem cjsonAddKeyValueToJsonString_congr
    {first second : Text} (same : cJSON.parse first = cJSON.parse second)
    (key buffer : Text) {flags : Nat} (override : flags &&& OVERRIDE ≠ 0) :
    cjsonAddKeyValueToJsonString cJSON first key buffer flags =
      cjsonAddKeyValueToJsonString cJSON second key buffer flags := by
  unfold cjsonAddKeyValueToJsonString
  simp only [same, if_pos override]

theorem updateMember_congr
    {first second : Text} (same : cJSON.parse first = cJSON.parse second)
    (name : Text) (edit : Text → Except Int Text) :
    updateMember cJSON name edit first = updateMember cJSON name edit second := by
  simp only [updateMember, getValueOfKeyFromJsonString_congr same,
    cjsonAddKeyValueToJsonString_congr same _ _
      (show (OVERRIDE ||| OBJPARSE) &&& OVERRIDE ≠ 0 by decide)]

namespace Update

theorem sectionEdit_congr
    {first second : Text} (same : cJSON.parse first = cJSON.parse second)
    (update : Update) :
    update.sectionEdit cJSON first = update.sectionEdit cJSON second := by
  have override : (OVERRIDE ||| INTPARSE) &&& OVERRIDE ≠ 0 := by decide
  cases update with
  | setSupply category key value => exact updateMember_congr same _ _
  | addEntry entry =>
      simp only [sectionEdit, countEntry, getValueOfKeyFromJsonString_congr same,
        cjsonAddKeyValueToJsonString_congr same _ _ override]
  | addEvent key value => exact cjsonAddKeyValueToJsonString_congr same _ _ override

/-- Printing and parsing a section first changes nothing. -/
theorem sectionAfter_reprint
    (lawful : cJSON.Lawful) (update : Update) (content : Json) :
    update.sectionAfter cJSON content.reprint = update.sectionAfter cJSON content := by
  have same : cJSON.parse (cJSON.print content.reprint) = cJSON.parse (cJSON.print content) := by
    rw [lawful.parse_print, lawful.parse_print, Json.reprint_reprint]
  rw [sectionAfter, sectionAfter, sectionEdit_congr same]

/-- Editing the text of an object prints an object. -/
theorem exists_print_of_sectionEdit_eq_ok
    {update : Update} {text edited : Text} {inner : List (Text × Json)}
    (parsed : cJSON.parse text = some (.object inner))
    (edits : update.sectionEdit cJSON text = .ok edited) :
    ∃ after, edited = cJSON.print (.object after) := by
  have override : (OVERRIDE ||| INTPARSE) &&& OVERRIDE ≠ 0 := by decide
  have added {key value : Text}
      (adds : cjsonAddKeyValueToJsonString cJSON text key value (OVERRIDE ||| INTPARSE) =
        .ok edited) :
      ∃ after, edited = cJSON.print (.object after) := by
    rw [cjsonAddKeyValueToJsonString_object parsed override, encodeValue_intparse] at adds
    exact ⟨_, (Except.ok.inj adds).symm⟩
  cases update with
  | setSupply category key value =>
      obtain ⟨_, _, _, _, _, _, _, _, rfl⟩ := exists_of_updateMember_eq_ok edits
      exact ⟨_, rfl⟩
  | addEntry entry =>
      obtain ⟨_, _, adds⟩ := exists_of_countEntry_eq_ok edits
      exact added adds
  | addEvent key value => exact added edits

/-- What an update makes of an object is a printed object. -/
theorem exists_object_of_sectionAfter_eq_some
    (lawful : cJSON.Lawful) {update : Update} {inner : List (Text × Json)} {content : Json}
    (made : update.sectionAfter cJSON (.object inner) = some content) :
    ∃ after, content = .object after ∧ content.reprint = content := by
  cases edits : update.sectionEdit cJSON (cJSON.print (.object inner)) with
  | error code => simp [sectionAfter, edits, Except.toOption] at made
  | ok edited =>
      have parsed : cJSON.parse (cJSON.print (.object inner)) =
          some (.object (Json.reprintMembers inner)) := by
        rw [lawful.parse_print, Json.reprint_object]
      obtain ⟨after, rfl⟩ := exists_print_of_sectionEdit_eq_ok parsed edits
      simp only [sectionAfter, edits, Except.toOption, Option.bind_some,
        lawful.parse_print] at made
      obtain rfl := Option.some.inj made
      exact ⟨Json.reprintMembers after, Json.reprint_object _, Json.reprint_reprint _⟩

/-- An update of a file with an object for its section replaces the section by
what it makes of it. -/
theorem apply_none_object
    (lawful : cJSON.Lawful) (update : Update) {file : Text}
    {members inner : List (Text × Json)}
    (parsed : cJSON.parse file = some (.object members))
    (found : Members.lookup members update.sectionName = some (.object inner)) :
    updateStep cJSON file update =
      match update.sectionAfter cJSON (.object inner) with
      | none => (file, 1)
      | some content =>
          (cJSON.print (.object
            (Members.replace lowercase members update.sectionName content)), 0) := by
  have nonempty := lawful.ne_nil_of_parse parsed
  have editEq : updateMember cJSON update.sectionName (update.sectionEdit cJSON) file = _ :=
    updateMember_object parsed found
  rw [← edit_eq_updateMember] at editEq
  rw [updateStep, apply_eq, updateFile, readFile_none nonempty, sectionAfter]
  simp only [editEq]
  cases update.sectionEdit cJSON (cJSON.print (.object inner)) with
  | error code => rfl
  | ok edited =>
      cases content : cJSON.parse edited with
      | none => simp [Except.bind, Except.toOption, content]
      | some item =>
          simp only [Except.bind, Except.toOption, content, Option.bind_some,
            writeFile_none file (lawful.print_ne_nil _)]

end Update

/-! ## Steps -/

/-- On a file with its sections an update fails and leaves the file alone, or
replaces its own section by an object and reprints the other members. -/
theorem updateStep_cases
    (lawful : cJSON.Lawful) {file : Text} {members inner : List (Text × Json)}
    (parsed : cJSON.parse file = some (.object members))
    (distinct : Members.FoldDistinct lowercase members) (update : Update)
    (found : Members.lookup members update.sectionName = some (.object inner)) :
    update.sectionAfter cJSON (.object inner) = none ∧
        updateStep cJSON file update = (file, 1) ∨
      ∃ after next nextMembers,
        update.sectionAfter cJSON (.object inner) = some (.object after) ∧
          (Json.object after).reprint = .object after ∧
            updateStep cJSON file update = (next, 0) ∧
              cJSON.parse next = some (.object nextMembers) ∧
                Members.FoldDistinct lowercase nextMembers ∧
                  ∀ name, Members.lookup nextMembers name =
                    if name = update.sectionName then some (.object after)
                    else (Members.lookup members name).map Json.reprint := by
  have stepped := update.apply_none_object lawful parsed found
  cases made : update.sectionAfter cJSON (.object inner) with
  | none => exact .inl ⟨rfl, by rw [stepped, made]⟩
  | some content =>
      obtain ⟨after, rfl, printed⟩ :=
        Update.exists_object_of_sectionAfter_eq_some lawful made
      rw [made] at stepped
      refine .inr ⟨after, _, _, rfl, printed, stepped,
        by rw [lawful.parse_print, Json.reprint_object], ?_, fun name => ?_⟩
      · rw [Json.reprintMembers_eq_map, Members.foldDistinct_map_value_iff]
        exact distinct.replace (Members.mem_names_of_lookup found) _
      · rw [Json.lookup_reprintMembers_replace distinct, printed]

theorem printedMember_of_parse
    {file name : Text} {members : List (Text × Json)}
    (parsed : cJSON.parse file = some (.object members)) :
    printedMember cJSON name file = (Members.lookup members name).map Json.reprint := by
  simp [printedMember, memberOf, parsed]

/-- The step lemma: an update acts on the value of its section alone. -/
theorem updateStep_independent (lawful : cJSON.Lawful) :
    Independent (updateStep cJSON) (Sectioned cJSON) (printedMember cJSON)
      Update.sectionName (Update.act cJSON) where
  keeps := by
    rintro file update ⟨members, parsed, distinct, sections⟩
    obtain ⟨inner, found⟩ := sections update.part
    rcases updateStep_cases lawful parsed distinct update found with
      ⟨_, stepped⟩ | ⟨after, next, nextMembers, _, _, stepped, parsedNext, distinctNext, lookups⟩
    · rw [stepped]
      exact ⟨members, parsed, distinct, sections⟩
    · rw [stepped]
      refine ⟨nextMembers, parsedNext, distinctNext, fun part => ?_⟩
      rw [lookups]
      split
      · exact ⟨after, rfl⟩
      · obtain ⟨content, present⟩ := sections part
        exact ⟨_, by rw [present, Option.map_some, Json.reprint_object]⟩
  own := by
    rintro file update ⟨members, parsed, distinct, sections⟩
    obtain ⟨inner, found⟩ := sections update.part
    have before : printedMember cJSON update.sectionName file =
        some (Json.object inner).reprint := by
      rw [printedMember_of_parse parsed]
      exact congrArg _ found
    have acts := update.sectionAfter_reprint lawful (.object inner)
    rcases updateStep_cases lawful parsed distinct update found with
      ⟨fails, stepped⟩ | ⟨after, next, nextMembers, made, printed, stepped, parsedNext, _, lookups⟩
    · simp only [stepped, before, Update.act, acts, fails]
    · have after_eq : printedMember cJSON update.sectionName next = some (.object after) := by
        rw [printedMember_of_parse parsedNext, lookups, if_pos rfl, Option.map_some, printed]
      simp only [stepped, before, Update.act, acts, made, after_eq]
  other := by
    rintro file update name ⟨members, parsed, distinct, sections⟩ different
    obtain ⟨inner, found⟩ := sections update.part
    rcases updateStep_cases lawful parsed distinct update found with
      ⟨_, stepped⟩ | ⟨after, next, nextMembers, _, _, stepped, parsedNext, _, lookups⟩
    · rw [stepped]
    · rw [stepped, printedMember_of_parse parsed, printedMember_of_parse parsedNext, lookups,
        if_neg different, Option.map_map, Json.reprint_comp_reprint]

/-! ## Runs -/

theorem Update.sectionName_eq_iff (update : Update) (part : Part) :
    update.sectionName = part.name ↔ update.part = part := by
  refine ⟨fun same => ?_, fun same => congrArg Part.name same⟩
  by_contra different
  exact Part.lowercase_name_ne different (congrArg lowercase same)

/-- The updates of a part are those that own its member. -/
theorem ownedBy_sectionName (updates : List Update) (part : Part) :
    ownedBy Update.sectionName part.name updates =
      updates.filter fun update => update.part = part := by
  simp only [ownedBy, Update.sectionName_eq_iff]

/-- A member that is no section is owned by no update. -/
theorem ownedBy_sectionName_eq_nil
    (updates : List Update) {name : Text} (other : ∀ part : Part, name ≠ part.name) :
    ownedBy Update.sectionName name updates = [] :=
  List.filter_eq_nil_iff.mpr fun update _ => by
    have different : update.sectionName ≠ name := Ne.symm (other update.part)
    simpa using different

/-- Under any mix of updates every section, and the code of every update of it,
is what the updates of that section alone make of it; the other members come
back as printing leaves them; and an order of the updates that keeps the order
within each section leads to the same members. -/
theorem sections_independent
    (lawful : cJSON.Lawful) {file : Text} (sectioned : Sectioned cJSON file)
    (updates : List Update) :
    (∀ part : Part,
      let own := updates.filter fun update => update.part = part
      printedMember cJSON part.name (trace (updateStep cJSON) file updates).1 =
          printedMember cJSON part.name (trace (updateStep cJSON) file own).1 ∧
        ((trace (updateStep cJSON) file updates).2.filter fun call => call.1.part = part) =
          (trace (updateStep cJSON) file own).2) ∧
    (∀ name, (∀ part : Part, name ≠ part.name) →
      printedMember cJSON name (trace (updateStep cJSON) file updates).1 =
        printedMember cJSON name file) ∧
    ∀ reordered : List Update,
      (∀ part : Part, (updates.filter fun update => update.part = part) =
        reordered.filter fun update => update.part = part) →
      ∃ first second,
        cJSON.parse (trace (updateStep cJSON) file updates).1 = some (.object first) ∧
          cJSON.parse (trace (updateStep cJSON) file reordered).1 = some (.object second) ∧
            (Json.reprintMembers first).Perm (Json.reprintMembers second) := by
  have independent := updateStep_independent lawful
  refine ⟨fun part => ?_, fun name other => ?_, fun reordered same => ?_⟩
  · have alone := independent.trace_ownedBy sectioned updates part.name
    simp only [ownedBy_sectionName, Update.sectionName_eq_iff] at alone
    exact alone
  · exact independent.view_eq_of_ownedBy_eq_nil sectioned
      (ownedBy_sectionName_eq_nil updates other)
  · obtain ⟨first, parsedFirst, distinctFirst, _⟩ :=
      independent.invariant_trace sectioned updates
    obtain ⟨second, parsedSecond, distinctSecond, _⟩ :=
      independent.invariant_trace sectioned reordered
    refine ⟨first, second, parsedFirst, parsedSecond, Members.perm_of_lookup_eq
      (by rw [Json.names_reprintMembers]; exact distinctFirst.nodup_names)
      (by rw [Json.names_reprintMembers]; exact distinctSecond.nodup_names) fun name => ?_⟩
    have views : printedMember cJSON name (trace (updateStep cJSON) file updates).1 =
        printedMember cJSON name (trace (updateStep cJSON) file reordered).1 := by
      apply independent.view_eq_of_ownedBy_eq sectioned
      by_cases isSection : ∃ part : Part, name = part.name
      · obtain ⟨part, rfl⟩ := isSection
        rw [ownedBy_sectionName, ownedBy_sectionName, same]
      · rw [not_exists] at isSection
        rw [ownedBy_sectionName_eq_nil _ isSection, ownedBy_sectionName_eq_nil _ isSection]
    rw [printedMember_of_parse parsedFirst, printedMember_of_parse parsedSecond] at views
    rw [Json.lookup_reprintMembers, Json.lookup_reprintMembers, views]

end

theorem sectioned_overflowFile : Sectioned .reference overflowFile := by
  refine ⟨overflowMembers, parse_overflowFile, by decide, fun part => ?_⟩
  cases part <;> exact ⟨_, rfl⟩

/-- An emergency event turns a number among the supplies into null, which no
update of the supplies has done. -/
theorem supplies_changed_by_event :
    Sectioned .reference overflowFile ∧
      memberOf .reference overflowFile SUPPLIES =
          some (limitedSupplies (.number (.infinity false))) ∧
        memberOf .reference
            (updateStep .reference overflowFile
              (.addEvent "last_event".toList "none".toList)).1 SUPPLIES =
          some (limitedSupplies .null) := by
  refine ⟨sectioned_overflowFile, ?_, ?_⟩
  · rw [memberOf, parse_overflowFile]
    rfl
  · obtain ⟨text, applied, parsed⟩ := Update.apply_none_of_reaches CJson.reference_lawful
      (.addEvent "last_event".toList "none".toList) parse_overflowFile
      (fun _ => ⟨_, rfl, fun proper => absurd rfl proper⟩) rfl
    rw [updateStep, applied, memberOf, parsed, Json.reprint_writeAt, Json.reprint_object,
      reprintMembers_overflowMembers]
    rfl

/-- Null is also what printing makes of the number at once. -/
theorem sections_independent_overflow :
    printedMember .reference SUPPLIES
        (trace (updateStep .reference) overflowFile
          [.addEvent "last_event".toList "none".toList, .addEntry "NORTH".toList]).1 =
      printedMember .reference SUPPLIES overflowFile :=
  ((sections_independent CJson.reference_lawful sectioned_overflowFile
    [.addEvent "last_event".toList "none".toList, .addEntry "NORTH".toList]).1 .supplies).1

end Refuge
