import Refuge.Document

/-!
# The state document

The document the server keeps has three sections: the supplies by category,
the counters of the alerts, and the emergency entries.  On a document of that
shape every update is one write to one entry, which leaves the shape and all
other entries alone, provided that the names on the way to the entry are not
also there in another spelling and that no counter is at its limit.
-/

namespace Refuge

open Foundation

/-- An `int` counter. -/
def IsCounter (value : Json) : Prop :=
  ∃ count : Nat, count < 2 ^ 31 ∧ value = .number (.ofInt count)

/-- What a member of a section is. -/
def Part.MemberKind : Part → Json → Prop
  | .supplies => Json.ObjectOf fun _ => True
  | .alerts => IsCounter
  | .emergency => fun _ => True

/-- What a section is. -/
def Part.Kind (part : Part) : Json → Prop :=
  Json.ObjectOf part.MemberKind

/-- The root has distinct names and holds a section. -/
def Part.Shaped (part : Part) : Json → Prop
  | .object members =>
      (Members.names members).Nodup ∧
        ∃ value, Members.lookup members part.name = some value ∧ part.Kind value
  | _ => False

/-- The document holds the three sections. -/
def StateShaped (document : Json) : Prop :=
  ∀ part : Part, part.Shaped document

/-- An update that counts does not find its counter at the greatest `int`. -/
def Update.InRange (update : Update) (document : Json) : Prop :=
  update.part = .alerts →
    Json.path update.target document ≠ some (.number (.ofInt (2 ^ 31 - 1 : Nat)))

theorem Update.InRange.succ_lt
    {update : Update} {document : Json} {count : Nat}
    (inRange : update.InRange document) (isCount : update.part = .alerts)
    (small : count < 2 ^ 31)
    (found : Json.path update.target document = some (.number (.ofInt count))) :
    count + 1 < 2 ^ 31 := by
  have notLast : count ≠ 2 ^ 31 - 1 := by
    rintro rfl
    exact inRange isCount found
  omega

theorem IsCounter.reprint {value : Json} (counter : IsCounter value) :
    value.reprint = value := by
  obtain ⟨count, small, rfl⟩ := counter
  exact reprint_number_ofInt (by simp; omega)

/-- Reprinting keeps what a section is. -/
theorem Part.Kind.reprint {part : Part} {value : Json} (kind : part.Kind value) :
    part.Kind value.reprint := by
  refine Json.ObjectOf.reprint kind fun item memberKind => ?_
  cases part with
  | supplies =>
      have category : Json.ObjectOf (fun _ => True) item := memberKind
      exact category.reprint fun _ _ => trivial
  | alerts =>
      rw [IsCounter.reprint memberKind]
      exact memberKind
  | emergency => trivial

theorem Part.Shaped.isObject {part : Part} {document : Json} (shaped : part.Shaped document) :
    ∃ members, document = .object members := by
  cases document with
  | object members => exact ⟨members, rfl⟩
  | _ => simp [Part.Shaped] at shaped

/-- Reprinting keeps the shape. -/
theorem Part.Shaped.reprint {part : Part} {document : Json} (shaped : part.Shaped document) :
    part.Shaped document.reprint := by
  obtain ⟨members, rfl⟩ := shaped.isObject
  obtain ⟨distinct, value, found, kind⟩ := shaped
  rw [Json.reprint_object]
  refine ⟨by rwa [Json.names_reprintMembers], value.reprint, ?_, kind.reprint⟩
  rw [Json.lookup_reprintMembers, found]
  rfl

namespace Update

/-- The names below the section on the way to the entry. -/
def below (update : Update) : List Text :=
  update.target.tail

theorem target_eq (update : Update) :
    update.target = update.part.name :: update.below := by
  cases update <;> rfl

theorem below_ne_nil (update : Update) : update.below ≠ [] := by
  cases update <;> simp [below, target]

/-- On the way to a supply there is its category, an object in which the deletion
hits exactly. -/
theorem exists_category
    {members : List (Text × Json)} {category key : Text}
    (kind : Part.supplies.Kind (.object members))
    (reaches : Json.Reaches [category, key] (.object members))
    (hits : Json.HitsAlong [category, key] (.object members)) :
    ∃ inner, Members.lookup members category = some (.object inner) ∧
      Members.HitsExact lowercase inner key ∧
        Json.ObjectOf (fun _ => True) (.object inner) := by
  obtain ⟨inner, found, _⟩ := reaches.exists_object (by simp)
  exact ⟨inner, found, (hits.lookup found).hitsExact, Json.ObjectOf.lookup kind found⟩

/-- Writing an entry keeps what its section is. -/
theorem kind_writeAt
    (update : Update) {value : Json} {members : List (Text × Json)}
    (kind : update.part.Kind (.object members))
    (reaches : Json.Reaches update.below (.object members))
    (hits : Json.HitsAlong update.below (.object members))
    (counts : update.part = .alerts → IsCounter value) :
    update.part.Kind (Json.writeAt update.below value (.object members)) := by
  cases update with
  | setSupply category key text =>
      obtain ⟨inner, found, innerHits, category⟩ := exists_category kind reaches hits
      have written : Part.supplies.MemberKind
          (.object (Members.replace lowercase inner key value)) :=
        category.replace innerHits trivial
      simp only [below, target, List.tail_cons, Json.writeAt_cons_object, Json.writeAt_nil,
        found, Option.getD_some]
      exact Json.ObjectOf.replace kind hits.hitsExact written
  | addEntry entry =>
      simp only [below, target, List.tail_cons, Json.writeAt_cons_object, Json.writeAt_nil]
      exact Json.ObjectOf.replace kind hits.hitsExact (counts rfl)
  | addEvent key text =>
      simp only [below, target, List.tail_cons, Json.writeAt_cons_object, Json.writeAt_nil]
      exact Json.ObjectOf.replace kind hits.hitsExact trivial

/-- In a section of its kind, an entry that is reached and hit exactly is at a
writable path. -/
theorem writable_below
    (update : Update) {members : List (Text × Json)}
    (kind : update.part.Kind (.object members))
    (reaches : Json.Reaches update.below (.object members))
    (hits : Json.HitsAlong update.below (.object members)) :
    Json.Writable update.below (.object members) := by
  have distinct := ((Json.objectOf_object_iff _ _).mp kind).1
  cases update with
  | setSupply category key text =>
      obtain ⟨inner, found, innerHits, category⟩ := exists_category kind reaches hits
      refine ⟨distinct, hits.hitsExact, fun _ => ⟨_, found, ?_⟩⟩
      exact ⟨((Json.objectOf_object_iff _ _).mp category).1, innerHits, by simp⟩
  | addEntry entry => exact ⟨distinct, hits.hitsExact, by simp⟩
  | addEvent key text => exact ⟨distinct, hits.hitsExact, by simp⟩

section

variable
  {update : Update} {document : Json}
  (shaped : update.part.Shaped document)
  (reaches : Json.Reaches update.target document)
  (hits : Json.HitsAlong update.target document)

include shaped reaches hits

/-- An entry that is reached and hit exactly is at a writable path. -/
theorem writable : Json.Writable update.target document := by
  obtain ⟨members, rfl⟩ := shaped.isObject
  obtain ⟨distinct, value, found, kind⟩ := shaped
  rw [target_eq] at reaches hits ⊢
  obtain ⟨inner, innerFound, innerReaches⟩ := reaches.exists_object update.below_ne_nil
  obtain rfl := Option.some.inj (found.symm.trans innerFound)
  exact ⟨distinct, hits.hitsExact, fun _ => ⟨_, found,
    update.writable_below kind innerReaches (hits.lookup found)⟩⟩

/-- Writing an entry keeps every section. -/
theorem shaped_writeAt
    {value : Json} (counts : update.part = .alerts → IsCounter value)
    {part : Part} (partShaped : part.Shaped document) :
    part.Shaped (Json.writeAt update.target value document) := by
  obtain ⟨members, rfl⟩ := shaped.isObject
  obtain ⟨distinct, content, found, kind⟩ := shaped
  obtain ⟨_, other, otherFound, otherKind⟩ := partShaped
  rw [target_eq] at reaches hits ⊢
  obtain ⟨inner, innerFound, innerReaches⟩ := reaches.exists_object update.below_ne_nil
  obtain rfl := Option.some.inj (found.symm.trans innerFound)
  rw [Json.writeAt_cons_object, found, Option.getD_some]
  refine ⟨hits.hitsExact.nodup_names_replace distinct _, ?_⟩
  by_cases same : part = update.part
  · subst same
    refine ⟨_, hits.hitsExact.lookup_replace_self distinct _, ?_⟩
    exact update.kind_writeAt kind innerReaches (hits.lookup found) counts
  · refine ⟨other, ?_, otherKind⟩
    rw [Members.lookup_replace_of_fold_ne _ _ _ (Part.lowercase_name_ne same), otherFound]

end

/-- Writing an entry keeps its section only when the deletions on the way hit
exactly: a deletion that misses leaves two members of one name. -/
theorem hitsAlong_of_shaped_writeAt
    {update : Update} {value document : Json}
    (before : update.part.Shaped document)
    (reaches : Json.Reaches update.target document)
    (after : update.part.Shaped (Json.writeAt update.target value document)) :
    Json.HitsAlong update.target document := by
  have hitsOf {members : List (Text × Json)} {name : Text} {written : Json}
      (distinct : (Members.names (Members.replace lowercase members name written)).Nodup) :
      Members.HitsExact lowercase members name := by
    by_contra misses
    exact Members.not_nodup_names_replace_of_not_hitsExact misses _ distinct
  obtain ⟨members, rfl⟩ := before.isObject
  obtain ⟨distinct, content, found, kind⟩ := before
  rw [target_eq] at reaches after ⊢
  obtain ⟨inner, innerFound, innerReaches⟩ := reaches.exists_object update.below_ne_nil
  obtain rfl := Option.some.inj (found.symm.trans innerFound)
  rw [Json.writeAt_cons_object, found, Option.getD_some] at after
  obtain ⟨rootDistinct, written, writtenFound, writtenKind⟩ := after
  have rootHits := hitsOf rootDistinct
  rw [rootHits.lookup_replace_self distinct] at writtenFound
  obtain rfl := Option.some.inj writtenFound
  rw [Json.hitsAlong_cons_object_iff, found]
  refine ⟨rootHits, fun child same => ?_⟩
  obtain rfl := Option.some.inj same
  cases update with
  | setSupply category key text =>
      obtain ⟨entries, entriesFound, _⟩ := innerReaches.exists_object (by simp)
      simp only [below, target, List.tail_cons, Json.writeAt_cons_object, Json.writeAt_nil,
        entriesFound, Option.getD_some] at writtenKind
      obtain ⟨suppliesDistinct, each⟩ := (Json.objectOf_object_iff _ _).mp writtenKind
      have category : Json.ObjectOf (fun _ => True)
          (.object (Members.replace lowercase entries key value)) :=
        each _ (List.mem_append_right _ List.mem_cons_self)
      simp only [below, target, List.tail_cons, Json.hitsAlong_cons_object_iff, entriesFound]
      refine ⟨hitsOf suppliesDistinct, fun child same => ?_⟩
      obtain rfl := Option.some.inj same
      exact ⟨hitsOf ((Json.objectOf_object_iff _ _).mp category).1, by simp⟩
  | addEntry entry =>
      simp only [below, target, List.tail_cons, Json.writeAt_cons_object] at writtenKind
      exact ⟨hitsOf ((Json.objectOf_object_iff _ _).mp writtenKind).1, by simp⟩
  | addEvent key text =>
      simp only [below, target, List.tail_cons, Json.writeAt_cons_object] at writtenKind
      exact ⟨hitsOf ((Json.objectOf_object_iff _ _).mp writtenKind).1, by simp⟩

/-- Two entries are at incomparable paths unless they are the same. -/
theorem target_incomparable
    {update other : Update} (different : update.target ≠ other.target) :
    ¬update.target <+: other.target := by
  intro isPrefix
  by_cases same : update.part = other.part
  · apply different
    apply isPrefix.eq_of_length
    cases update <;> cases other <;> first | rfl | exact nomatch same
  · rw [target_eq update, target_eq other, List.cons_prefix_cons] at isPrefix
    exact Part.lowercase_name_ne same (congrArg lowercase isPrefix.1)

/-- The entries of the alerts are counters. -/
theorem isCounter_of_path
    {document value : Json} {entry : Text}
    (shaped : Part.alerts.Shaped document)
    (found : Json.path [K_ALERTS, entry] document = some value) : IsCounter value := by
  obtain ⟨members, rfl⟩ := shaped.isObject
  obtain ⟨_, content, contentFound, kind⟩ := shaped
  obtain ⟨inner, rfl⟩ := Json.ObjectOf.eq_object kind
  rw [Json.path_cons_object, show Members.lookup members K_ALERTS = _ from contentFound,
    Option.bind_some, Json.path_cons_object] at found
  obtain ⟨entryValue, entryFound, same⟩ := Option.bind_eq_some_iff.mp found
  obtain rfl : entryValue = value := by simpa using same
  exact Json.ObjectOf.lookup kind entryFound

/-- The number an alert counter is given next. -/
theorem newValue_addEntry
    {cJSON : CJson} {entry : Text} {count : Nat} {document : Json}
    (found : Json.path [K_ALERTS, entry] document = some (.number (.ofInt count)))
    (small : count + 1 < 2 ^ 31) :
    (Update.addEntry entry).newValue cJSON document =
      some (.number (.ofInt (count + 1 : Nat))) := by
  have countSmall : (count : Int).natAbs ≤ 2 ^ 53 := by simp; omega
  rw [newValue, Json.path_reprint, found, Option.map_some, reprint_number_ofInt countSmall,
    Option.bind_some, textOfValue, Except.toOption, Option.map_some,
    sprintfD_atoi_sprintfF_ofInt small,
    storedValue_decimal (by omega) (by omega)]

section

variable {cJSON : CJson} {update : Update} {text edited : Text} {document : Json}

/-- An update that edits a document of the shape reaches its entry, and has a
value to store there. -/
theorem reaches_of_edit
    (lawful : cJSON.Lawful)
    (parsed : cJSON.parse text = some document)
    (shaped : update.part.Shaped document)
    (edits : update.edit cJSON text = .ok edited) :
    Json.Reaches update.target document ∧
      ∃ value, update.newValue cJSON document = some value := by
  obtain ⟨members, rfl⟩ := shaped.isObject
  obtain ⟨_, content, found, kind⟩ := shaped
  obtain ⟨inner, rfl⟩ := Json.ObjectOf.eq_object kind
  have got : getValueOfKeyFromJsonString cJSON text update.sectionName =
      .ok (cJSON.print (.object inner)) :=
    getValueOfKeyFromJsonString_object parsed found
  rw [edit_eq_updateMember] at edits
  obtain ⟨_, value, _, _, _, gotValue, inEdit, _⟩ := exists_of_updateMember_eq_ok edits
  obtain rfl := Except.ok.inj (got.symm.trans gotValue)
  have printed : cJSON.parse (cJSON.print (.object inner)) =
      some (.object (Json.reprintMembers inner)) := by
    rw [lawful.parse_print, Json.reprint_object]
  -- What the edit finds in the printed section comes from the section.
  have source {name text : Text}
      (found : getValueOfKeyFromJsonString cJSON (cJSON.print (.object inner)) name = .ok text) :
      ∃ item, Members.lookup inner name = some item := by
    obtain ⟨entries, item, parsedEntries, itemFound⟩ :=
      parse_of_getValueOfKeyFromJsonString found
    obtain rfl := Json.object.inj (Option.some.inj (printed.symm.trans parsedEntries))
    rw [Json.lookup_reprintMembers] at itemFound
    obtain ⟨item, itemFound, _⟩ := Option.map_eq_some_iff.mp itemFound
    exact ⟨item, itemFound⟩
  cases update with
  | setSupply category key value =>
      obtain ⟨_, _, _, _, _, gotCategory, _⟩ := exists_of_updateMember_eq_ok inEdit
      obtain ⟨item, itemFound⟩ := source gotCategory
      have isCategory : Json.ObjectOf (fun _ => True) item := Json.ObjectOf.lookup kind itemFound
      obtain ⟨categoryMembers, rfl⟩ := isCategory.eq_object
      exact ⟨fun _ => ⟨_, found, fun _ => ⟨_, itemFound, by simp⟩⟩, _, rfl⟩
  | addEntry entry =>
      obtain ⟨_, gotEntry, _⟩ := exists_of_countEntry_eq_ok inEdit
      obtain ⟨item, itemFound⟩ := source gotEntry
      obtain ⟨count, small, rfl⟩ : IsCounter item := Json.ObjectOf.lookup kind itemFound
      have entryFound : Json.path [K_ALERTS, entry] (.object members) =
          some (.number (.ofInt count)) := by
        rw [Json.path_cons_object, show Members.lookup members K_ALERTS = _ from found,
          Option.bind_some, Json.path_cons_object, itemFound]
        rfl
      have reprinted := reprint_number_ofInt (show (count : Int).natAbs ≤ 2 ^ 53 by
        simp; omega)
      refine ⟨fun _ => ⟨_, found, by simp⟩,
        storedValue (sprintfD (toInt32 (atoi (sprintfF (.ofInt count)) + 1))), ?_⟩
      rw [newValue, Json.path_reprint, entryFound, Option.map_some, reprinted]
      rfl
  | addEvent key value => exact ⟨fun _ => ⟨_, found, by simp⟩, _, rfl⟩

/-- The value an update stores in its section is a counter where it must be. -/
theorem isCounter_newValue
    {value : Json}
    (shaped : StateShaped document) (inRange : update.InRange document)
    (stores : update.newValue cJSON document = some value) :
    update.part = .alerts → IsCounter value := by
  intro isAlerts
  obtain ⟨entry, rfl⟩ := update.part_eq_alerts_iff.mp isAlerts
  obtain ⟨item, itemFound, _⟩ := Option.bind_eq_some_iff.mp stores
  rw [Json.path_reprint] at itemFound
  obtain ⟨source, sourceFound, _⟩ := Option.map_eq_some_iff.mp itemFound
  obtain ⟨count, small, rfl⟩ := isCounter_of_path (shaped .alerts) sourceFound
  have small := inRange.succ_lt rfl small sourceFound
  rw [newValue_addEntry sourceFound small] at stores
  exact ⟨count + 1, small, (Option.some.inj stores).symm⟩

/-- The step lemma of the state document: an update that edits it, with names
hit exactly and no counter overflowing, keeps its shape, shows its value at its
entry and leaves every other entry alone. -/
theorem edit_spec
    (lawful : cJSON.Lawful)
    (parsed : cJSON.parse text = some document)
    (shaped : StateShaped document) (finite : document.Finite)
    (hits : Json.HitsAlong update.target document) (inRange : update.InRange document)
    (edits : update.edit cJSON text = .ok edited) :
    ∃ value written,
      update.newValue cJSON document = some value ∧
        cJSON.parse edited = some written ∧ StateShaped written ∧ written.Finite ∧
          ∀ other : Update, Json.path other.target written =
            if update.target = other.target then some value.reprint
            else Json.path other.target document := by
  obtain ⟨reaches, value, stores⟩ := reaches_of_edit lawful parsed (shaped update.part) edits
  have writable := writable (shaped update.part) reaches hits
  obtain ⟨members, editEq, reprintEq⟩ :=
    edits_edit lawful update reaches stores text parsed
  obtain rfl : cJSON.print (.object members) = edited := Except.ok.inj (editEq.symm.trans edits)
  refine ⟨value, (Json.writeAt update.target value document).reprint, stores,
    by rw [lawful.parse_print, reprintEq], fun part => ?_, Json.finite_reprint _,
    fun other => ?_⟩
  · exact (shaped_writeAt (shaped update.part) reaches hits
      (isCounter_newValue shaped inRange stores) (shaped part)).reprint
  · rw [Json.reprint_writeAt, finite.reprint_eq]
    split
    · rename_i same
      rw [← same, writable.path_writeAt_self]
    · rename_i different
      exact writable.path_writeAt_of_incomparable _
        (target_incomparable (Ne.symm different)) (target_incomparable different)

end

end Update

end Refuge
