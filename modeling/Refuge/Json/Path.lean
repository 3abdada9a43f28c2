import Refuge.Json.Tree
import Mathlib.Data.List.Infix

/-!
# Reading and writing a tree by path

A path is a list of member names.  `path` follows it by exact name; `writeAt`
replaces the value at its end, rewriting every object on the way with the
member replacement of the two name equalities.  A document is `Writable` at a
path when every deletion along it hits the member it means; then a write is
visible at its path and invisible at every path that is neither above nor
below it.
-/

namespace Refuge

open Foundation

namespace Json

/-- The value at the end of a path of member names. -/
def path : List Text → Json → Option Json
  | [], document => some document
  | name :: rest, .object members => (Members.lookup members name).bind (path rest)
  | _ :: _, _ => none

/-- Replace the value at the end of a path; a missing object on the way is
taken to be null and stays as it is. -/
def writeAt : List Text → Json → Json → Json
  | [], value, _ => value
  | name :: rest, value, .object members =>
      .object (Members.replace lowercase members name
        (writeAt rest value ((Members.lookup members name).getD .null)))
  | _ :: _, _, document => document

/-- Every object along the path has distinct names, and deleting the next name
of the path from it hits that name. -/
def Writable : List Text → Json → Prop
  | [], _ => True
  | name :: rest, .object members =>
      (Members.names members).Nodup ∧
        Members.HitsExact lowercase members name ∧
          (rest ≠ [] → ∃ child,
            Members.lookup members name = some child ∧ Writable rest child)
  | _ :: _, _ => False

@[simp] theorem path_nil (document : Json) : path [] document = some document := by
  simp [path]

@[simp] theorem path_cons_object
    (name : Text) (rest : List Text) (members : List (Text × Json)) :
    path (name :: rest) (.object members) =
      (Members.lookup members name).bind (path rest) := by
  simp [path]

/-- What is found in a finite tree is finite. -/
theorem Finite.path
    {names : List Text} {document item : Json} (finite : Finite document)
    (found : path names document = some item) : Finite item := by
  induction names generalizing document with
  | nil =>
      obtain rfl : document = item := by simpa using found
      exact finite
  | cons name rest inductionHypothesis =>
      cases document with
      | object members =>
          obtain ⟨child, inMembers, deeper⟩ := Option.bind_eq_some_iff.mp
            ((path_cons_object name rest members).symm.trans found)
          exact inductionHypothesis (finite.lookup inMembers) deeper
      | _ => simp [Json.path] at found

@[simp] theorem writeAt_nil (value document : Json) :
    writeAt [] value document = value := by
  simp [writeAt]

@[simp] theorem writeAt_cons_object
    (name : Text) (rest : List Text) (value : Json) (members : List (Text × Json)) :
    writeAt (name :: rest) value (.object members) =
      .object (Members.replace lowercase members name
        (writeAt rest value ((Members.lookup members name).getD .null))) := by
  simp [writeAt]

@[simp] theorem writable_nil (document : Json) : Writable [] document := by
  simp [Writable]

theorem writable_cons_object_iff
    (name : Text) (rest : List Text) (members : List (Text × Json)) :
    Writable (name :: rest) (.object members) ↔
      (Members.names members).Nodup ∧
        Members.HitsExact lowercase members name ∧
          (rest ≠ [] → ∃ child,
            Members.lookup members name = some child ∧ Writable rest child) := by
  simp [Writable]

theorem Writable.isObject
    {name : Text} {rest : List Text} {document : Json}
    (writable : Writable (name :: rest) document) :
    ∃ members, document = .object members := by
  cases document with
  | object members => exact ⟨members, rfl⟩
  | _ => simp [Writable] at writable

/-- A value written at a writable path is found there. -/
theorem Writable.path_writeAt_self
    {target : List Text} {document : Json}
    (writable : Writable target document) (value : Json) :
    path target (writeAt target value document) = some value := by
  induction target generalizing document with
  | nil => simp
  | cons name rest inductionHypothesis =>
      obtain ⟨members, rfl⟩ := writable.isObject
      obtain ⟨distinct, hits, deeper⟩ := (writable_cons_object_iff _ _ _).mp writable
      rw [writeAt_cons_object, path_cons_object, hits.lookup_replace_self distinct,
        Option.bind_some]
      cases rest with
      | nil => simp
      | cons next rest =>
          obtain ⟨child, found, childWritable⟩ := deeper (by simp)
          rw [found]
          exact inductionHypothesis childWritable

/-- A write at a writable path leaves every path alone that is neither a
prefix nor an extension of it. -/
theorem Writable.path_writeAt_of_incomparable
    {target other : List Text} {document : Json}
    (writable : Writable target document) (value : Json)
    (notAbove : ¬other <+: target) (notBelow : ¬target <+: other) :
    path other (writeAt target value document) = path other document := by
  induction target generalizing document other with
  | nil => exact absurd (List.nil_prefix) notBelow
  | cons name rest inductionHypothesis =>
      obtain ⟨members, rfl⟩ := writable.isObject
      obtain ⟨_, hits, deeper⟩ := (writable_cons_object_iff _ _ _).mp writable
      cases other with
      | nil => exact absurd (List.nil_prefix) notAbove
      | cons otherName otherRest =>
          rw [writeAt_cons_object, path_cons_object, path_cons_object]
          by_cases same : otherName = name
          · subst same
            rw [List.cons_prefix_cons] at notAbove notBelow
            simp only [true_and] at notAbove notBelow
            cases rest with
            | nil => exact absurd (List.nil_prefix) notBelow
            | cons next rest =>
                obtain ⟨distinct, _, _⟩ := (writable_cons_object_iff _ _ _).mp writable
                obtain ⟨child, found, childWritable⟩ := deeper (by simp)
                rw [hits.lookup_replace_self distinct, found]
                exact inductionHypothesis childWritable notAbove notBelow
          · rw [hits.lookup_replace_of_ne _ same]

/-! ## Paths and reprinting -/

/-- Member replacement commutes with reprinting. -/
theorem reprintMembers_replace
    (members : List (Text × Json)) (name : Text) (value : Json) :
    reprintMembers (Members.replace lowercase members name value) =
      Members.replace lowercase (reprintMembers members) name (reprint value) := by
  simp only [reprintMembers_eq_map, Members.replace_map_value]

/-- With distinct names, replacing a member shows the value under its name and
nothing new elsewhere, up to printing. -/
theorem lookup_reprintMembers_replace
    {members : List (Text × Json)} (distinct : Members.FoldDistinct lowercase members)
    (key : Text) (value : Json) (name : Text) :
    Members.lookup (reprintMembers (Members.replace lowercase members key value)) name =
      if name = key then some (reprint value)
      else (Members.lookup members name).map reprint := by
  rw [lookup_reprintMembers, (distinct.hitsExact key).lookup_replace distinct.nodup_names]
  split
  · rfl
  · rfl

@[simp] theorem path_reprint (target : List Text) (document : Json) :
    path target (reprint document) = (path target document).map reprint := by
  induction target generalizing document with
  | nil => simp
  | cons name rest inductionHypothesis =>
      cases document with
      | object members =>
          rw [reprint_object, path_cons_object, path_cons_object,
            lookup_reprintMembers, Option.bind_map, Option.map_bind]
          exact Option.bind_congr fun child _ => inductionHypothesis child
      | number value =>
          rw [reprint_number]
          split <;> rfl
      | _ => simp [path]

/-- Writing commutes with reprinting. -/
theorem reprint_writeAt (target : List Text) (value document : Json) :
    reprint (writeAt target value document) =
      writeAt target (reprint value) (reprint document) := by
  induction target generalizing document with
  | nil => simp
  | cons name rest inductionHypothesis =>
      cases document with
      | object members =>
          rw [writeAt_cons_object, reprint_object, reprint_object,
            writeAt_cons_object, reprintMembers_replace, inductionHypothesis,
            lookup_reprintMembers]
          cases Members.lookup members name <;> simp
      | number value =>
          simp only [writeAt, reprint_number]
          split <;> simp [writeAt]
      | _ => simp [writeAt]

/-- Reprinting does not change which paths are writable. -/
@[simp] theorem writable_reprint_iff (target : List Text) (document : Json) :
    Writable target (reprint document) ↔ Writable target document := by
  induction target generalizing document with
  | nil => simp
  | cons name rest inductionHypothesis =>
      cases document with
      | object members =>
          rw [reprint_object, writable_cons_object_iff, writable_cons_object_iff,
            names_reprintMembers, lookup_reprintMembers, reprintMembers_eq_map,
            Members.hitsExact_map_value_iff]
          simp only [Option.map_eq_some_iff, exists_exists_and_eq_and,
            inductionHypothesis]
      | number value =>
          rw [reprint_number]
          split <;> simp [Writable]
      | _ => simp [Writable]

/-! ## Names and writes -/

/-- A write at a writable path keeps every object's names distinct. -/
theorem Writable.namesDistinct_writeAt
    {target : List Text} {document value : Json}
    (writable : Writable target document)
    (documentDistinct : NamesDistinct document)
    (valueDistinct : NamesDistinct value) :
    NamesDistinct (writeAt target value document) := by
  induction target generalizing document with
  | nil => simpa using valueDistinct
  | cons name rest inductionHypothesis =>
      obtain ⟨members, rfl⟩ := writable.isObject
      obtain ⟨distinct, hits, deeper⟩ := (writable_cons_object_iff _ _ _).mp writable
      rw [namesDistinct_object_iff] at documentDistinct
      rw [writeAt_cons_object, namesDistinct_object_iff]
      refine ⟨hits.nodup_names_replace distinct _, ?_⟩
      intro member present
      rcases Members.mem_of_mem_replace present with kept | rfl
      · exact documentDistinct.2 member kept
      · cases rest with
        | nil => simpa using valueDistinct
        | cons next rest =>
            obtain ⟨child, found, childWritable⟩ := deeper (by simp)
            rw [found]
            exact inductionHypothesis childWritable
              (documentDistinct.2 _ (Members.mem_of_lookup found))

/-! ## Deletions along a path -/

/-- Deleting the names of a path on the way hits the members they mean. -/
def HitsAlong : List Text → Json → Prop
  | name :: rest, .object members =>
      Members.HitsExact lowercase members name ∧
        ∀ child, Members.lookup members name = some child → HitsAlong rest child
  | _, _ => True

@[simp] theorem hitsAlong_nil (document : Json) : HitsAlong [] document := by
  simp [HitsAlong]

@[simp] theorem hitsAlong_cons_object_iff
    (name : Text) (rest : List Text) (members : List (Text × Json)) :
    HitsAlong (name :: rest) (.object members) ↔
      Members.HitsExact lowercase members name ∧
        ∀ child, Members.lookup members name = some child → HitsAlong rest child := by
  simp [HitsAlong]

theorem HitsAlong.hitsExact
    {name : Text} {rest : List Text} {members : List (Text × Json)}
    (hits : HitsAlong (name :: rest) (.object members)) :
    Members.HitsExact lowercase members name :=
  ((hitsAlong_cons_object_iff _ _ _).mp hits).1

theorem HitsAlong.lookup
    {name : Text} {rest : List Text} {members : List (Text × Json)} {child : Json}
    (hits : HitsAlong (name :: rest) (.object members))
    (found : Members.lookup members name = some child) : HitsAlong rest child :=
  ((hitsAlong_cons_object_iff _ _ _).mp hits).2 _ found

/-! ## Objects of a given kind -/

/-- An object with distinct names whose member values are all of one kind. -/
def ObjectOf (kind : Json → Prop) : Json → Prop
  | .object members => (Members.names members).Nodup ∧ ∀ member ∈ members, kind member.2
  | _ => False

@[simp] theorem objectOf_object_iff (kind : Json → Prop) (members : List (Text × Json)) :
    ObjectOf kind (.object members) ↔
      (Members.names members).Nodup ∧ ∀ member ∈ members, kind member.2 := by
  simp [ObjectOf]

theorem ObjectOf.eq_object {kind : Json → Prop} {value : Json} (object : ObjectOf kind value) :
    ∃ members, value = .object members := by
  cases value with
  | object members => exact ⟨members, rfl⟩
  | _ => simp [ObjectOf] at object

/-- A member of an object of a kind is of that kind. -/
theorem ObjectOf.lookup
    {kind : Json → Prop} {members : List (Text × Json)} {name : Text} {value : Json}
    (object : ObjectOf kind (.object members))
    (found : Members.lookup members name = some value) : kind value :=
  ((objectOf_object_iff _ _).mp object).2 _ (Members.mem_of_lookup found)

/-- Replacing a member by a value of the kind keeps an object of that kind. -/
theorem ObjectOf.replace
    {kind : Json → Prop} {members : List (Text × Json)} {name : Text} {value : Json}
    (object : ObjectOf kind (.object members))
    (hits : Members.HitsExact lowercase members name) (ofKind : kind value) :
    ObjectOf kind (.object (Members.replace lowercase members name value)) := by
  obtain ⟨distinct, each⟩ := (objectOf_object_iff _ _).mp object
  rw [objectOf_object_iff]
  refine ⟨hits.nodup_names_replace distinct value, ?_⟩
  intro member present
  rcases Members.mem_of_mem_replace present with kept | rfl
  · exact each member kept
  · exact ofKind

/-- Reprinting keeps an object of a kind that reprinting keeps. -/
theorem ObjectOf.reprint
    {kind : Json → Prop} {value : Json}
    (object : ObjectOf kind value)
    (kept : ∀ item, kind item → kind (Json.reprint item)) :
    ObjectOf kind (Json.reprint value) := by
  obtain ⟨members, rfl⟩ := object.eq_object
  obtain ⟨distinct, each⟩ := (objectOf_object_iff _ _).mp object
  rw [reprint_object, objectOf_object_iff, names_reprintMembers]
  refine ⟨distinct, ?_⟩
  intro member present
  rw [reprintMembers_eq_map] at present
  obtain ⟨source, sourcePresent, rfl⟩ := List.mem_map.mp present
  exact kept _ (each source sourcePresent)

end Json
end Refuge
