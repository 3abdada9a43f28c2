import Refuge.CText
import Refuge.Foundation.Members

/-!
# JSON trees

The tree a JSON text is parsed into.  Object members keep their order and may
repeat a name; numbers are binary64 and may be infinite or NaN, as an
overflowing literal or a conversion can make them.  Printing writes a number
that is not finite as `null`, so a tree that is printed and parsed again comes
back as its `reprint`.
-/

namespace Refuge

open Foundation

/-- A JSON value. -/
inductive Json
  | null
  | bool (value : Bool)
  | number (value : Binary64)
  | string (value : Text)
  | array (items : List Json)
  | object (members : List (Text × Json))

namespace Json

/-- Whether a value is an object. -/
def isObject : Json → Bool
  | .object _ => true
  | _ => false

section Induction

variable
  {motive : Json → Prop}
  (null : motive .null)
  (bool : ∀ value, motive (.bool value))
  (number : ∀ value, motive (.number value))
  (string : ∀ value, motive (.string value))
  (array : ∀ items, (∀ item ∈ items, motive item) → motive (.array items))
  (object : ∀ members : List (Text × Json),
    (∀ member ∈ members, motive member.2) → motive (.object members))

include null bool number string array object

/-- Induction over a JSON value, with a hypothesis for every item and for
every member value. -/
@[elab_as_elim, induction_eliminator]
theorem induct (value : Json) : motive value := by
  refine Json.rec
    (motive_1 := fun value => motive value)
    (motive_2 := fun items => ∀ item ∈ items, motive item)
    (motive_3 := fun members => ∀ member ∈ members, motive member.2)
    (motive_4 := fun member => motive member.2)
    null bool number string array object ?_ ?_ ?_ ?_ ?_ value
  · simp
  · intro item items itemHolds itemsHold
    simpa using ⟨itemHolds, itemsHold⟩
  · simp
  · intro member members memberHolds membersHold other present
    rcases List.mem_cons.mp present with rfl | later
    · exact memberHolds
    · exact membersHold other later
  · intro name value valueHolds
    exact valueHolds

end Induction

/-! ## Printing and parsing again -/

mutual

/-- The tree that comes back from printing a tree and parsing the text. -/
def reprint : Json → Json
  | .number value => if value.isFinite then .number value else .null
  | .array items => .array (reprintItems items)
  | .object members => .object (reprintMembers members)
  | other => other

/-- `reprint` on every item of an array. -/
def reprintItems : List Json → List Json
  | [] => []
  | item :: items => reprint item :: reprintItems items

/-- `reprint` on every member of an object; names are kept. -/
def reprintMembers : List (Text × Json) → List (Text × Json)
  | [] => []
  | (name, value) :: members => (name, reprint value) :: reprintMembers members

end

theorem reprintItems_eq_map (items : List Json) :
    reprintItems items = items.map reprint := by
  induction items with
  | nil => rfl
  | cons item items inductionHypothesis =>
      simp [reprintItems, inductionHypothesis]

theorem reprintMembers_eq_map (members : List (Text × Json)) :
    reprintMembers members =
      members.map fun member => (member.1, reprint member.2) := by
  induction members with
  | nil => rfl
  | cons member members inductionHypothesis =>
      simp [reprintMembers, inductionHypothesis]

@[simp] theorem reprint_null : reprint .null = .null := by
  simp [reprint]

@[simp] theorem reprint_bool (value : Bool) : reprint (.bool value) = .bool value := by
  simp [reprint]

@[simp] theorem reprint_string (value : Text) :
    reprint (.string value) = .string value := by
  simp [reprint]

theorem reprint_number (value : Binary64) :
    reprint (.number value) =
      if value.isFinite then .number value else .null := by
  simp [reprint]

@[simp] theorem reprint_array (items : List Json) :
    reprint (.array items) = .array (items.map reprint) := by
  simp [reprint, reprintItems_eq_map]

@[simp] theorem reprint_object (members : List (Text × Json)) :
    reprint (.object members) = .object (reprintMembers members) := by
  simp [reprint]

@[simp] theorem names_reprintMembers (members : List (Text × Json)) :
    Members.names (reprintMembers members) = Members.names members := by
  simp [reprintMembers_eq_map, Members.names, Function.comp_def]

@[simp] theorem lookup_reprintMembers (members : List (Text × Json)) (name : Text) :
    Members.lookup (reprintMembers members) name =
      (Members.lookup members name).map reprint := by
  rw [reprintMembers_eq_map]
  exact Members.lookup_map_value reprint members name

/-- Reprinting a reprinted tree changes nothing. -/
@[simp] theorem reprint_reprint (value : Json) :
    reprint (reprint value) = reprint value := by
  induction value with
  | null => simp
  | bool value => simp
  | string value => simp
  | number value =>
      rw [reprint_number]
      split
      · rename_i finite
        rw [reprint_number, if_pos finite]
      · simp
  | array items inductionHypothesis =>
      simpa using inductionHypothesis
  | object members inductionHypothesis =>
      simp only [reprint_object, reprintMembers_eq_map, List.map_map,
        Json.object.injEq]
      apply List.map_congr_left
      intro member present
      simp [inductionHypothesis member present]

@[simp] theorem reprint_comp_reprint : reprint ∘ reprint = reprint := by
  funext value
  exact reprint_reprint value

@[simp] theorem reprintMembers_reprintMembers (members : List (Text × Json)) :
    reprintMembers (reprintMembers members) = reprintMembers members := by
  simpa using reprint_reprint (.object members)

@[simp] theorem isObject_reprint (value : Json) :
    (reprint value).isObject = value.isObject := by
  cases value with
  | number value =>
      rw [reprint_number]
      split <;> rfl
  | _ => simp [isObject]

/-! ## Finite trees -/

mutual

/-- Every number in the tree is finite. -/
def Finite : Json → Prop
  | .number value => value.isFinite = true
  | .array items => FiniteItems items
  | .object members => FiniteMembers members
  | _ => True

/-- Every number in the items is finite. -/
def FiniteItems : List Json → Prop
  | [] => True
  | item :: items => Finite item ∧ FiniteItems items

/-- Every number in the member values is finite. -/
def FiniteMembers : List (Text × Json) → Prop
  | [] => True
  | (_, value) :: members => Finite value ∧ FiniteMembers members

end

theorem finiteItems_iff (items : List Json) :
    FiniteItems items ↔ ∀ item ∈ items, Finite item := by
  induction items with
  | nil => simp [FiniteItems]
  | cons item items inductionHypothesis =>
      simp [FiniteItems, inductionHypothesis]

theorem finiteMembers_iff (members : List (Text × Json)) :
    FiniteMembers members ↔ ∀ member ∈ members, Finite member.2 := by
  induction members with
  | nil => simp [FiniteMembers]
  | cons member members inductionHypothesis =>
      simp [FiniteMembers, inductionHypothesis]

@[simp] theorem finite_string (value : Text) : Finite (.string value) := by
  simp [Finite]

@[simp] theorem finite_object_iff (members : List (Text × Json)) :
    Finite (.object members) ↔ FiniteMembers members := by
  simp [Finite]

theorem Finite.lookup
    {members : List (Text × Json)} {name : Text} {value : Json}
    (finite : Finite (.object members)) (found : Members.lookup members name = some value) :
    Finite value :=
  (finiteMembers_iff members).mp ((finite_object_iff members).mp finite) _
    (Members.mem_of_lookup found)

/-- Printing and parsing undo each other exactly on finite trees. -/
theorem reprint_eq_self_iff (value : Json) :
    reprint value = value ↔ Finite value := by
  induction value with
  | null => simp [Finite]
  | bool value => simp [Finite]
  | string value => simp
  | number value =>
      rw [reprint_number]
      cases finite : value.isFinite <;> simp [Finite, finite]
  | array items inductionHypothesis =>
      rw [reprint_array, Json.array.injEq, Finite, finiteItems_iff]
      conv_lhs => rhs; rw [← List.map_id items]
      rw [List.map_inj_left]
      exact forall₂_congr inductionHypothesis
  | object members inductionHypothesis =>
      rw [reprint_object, Json.object.injEq, finite_object_iff, finiteMembers_iff,
        reprintMembers_eq_map]
      conv_lhs => rhs; rw [← List.map_id members]
      rw [List.map_inj_left]
      refine forall₂_congr fun member present => ?_
      rw [← inductionHypothesis member present]
      simp [Prod.ext_iff]

alias ⟨_, Finite.reprint_eq⟩ := reprint_eq_self_iff

@[simp] theorem finite_reprint (value : Json) : Finite (reprint value) :=
  (reprint_eq_self_iff _).mp (reprint_reprint value)

/-! ## Distinct names -/

mutual

/-- No object in the tree has two members of the same name. -/
def NamesDistinct : Json → Prop
  | .array items => NamesDistinctItems items
  | .object members => (Members.names members).Nodup ∧ NamesDistinctMembers members
  | _ => True

/-- No object in the items has two members of the same name. -/
def NamesDistinctItems : List Json → Prop
  | [] => True
  | item :: items => NamesDistinct item ∧ NamesDistinctItems items

/-- No object in the member values has two members of the same name. -/
def NamesDistinctMembers : List (Text × Json) → Prop
  | [] => True
  | (_, value) :: members => NamesDistinct value ∧ NamesDistinctMembers members

end

theorem namesDistinctItems_iff (items : List Json) :
    NamesDistinctItems items ↔ ∀ item ∈ items, NamesDistinct item := by
  induction items with
  | nil => simp [NamesDistinctItems]
  | cons item items inductionHypothesis =>
      simp [NamesDistinctItems, inductionHypothesis]

theorem namesDistinctMembers_iff (members : List (Text × Json)) :
    NamesDistinctMembers members ↔ ∀ member ∈ members, NamesDistinct member.2 := by
  induction members with
  | nil => simp [NamesDistinctMembers]
  | cons member members inductionHypothesis =>
      simp [NamesDistinctMembers, inductionHypothesis]

theorem namesDistinct_object_iff (members : List (Text × Json)) :
    NamesDistinct (.object members) ↔
      (Members.names members).Nodup ∧ ∀ member ∈ members, NamesDistinct member.2 := by
  rw [NamesDistinct, namesDistinctMembers_iff]

/-- Reprinting keeps names distinct. -/
theorem NamesDistinct.reprint
    {value : Json} (distinct : NamesDistinct value) :
    NamesDistinct (Json.reprint value) := by
  induction value with
  | null => simpa using distinct
  | bool value => simpa using distinct
  | string value => simpa using distinct
  | number value =>
      rw [reprint_number]
      split <;> simp [NamesDistinct]
  | array items inductionHypothesis =>
      rw [NamesDistinct, namesDistinctItems_iff] at distinct
      rw [reprint_array, NamesDistinct, namesDistinctItems_iff]
      intro item present
      obtain ⟨source, sourcePresent, rfl⟩ := List.mem_map.mp present
      exact inductionHypothesis source sourcePresent (distinct source sourcePresent)
  | object members inductionHypothesis =>
      rw [namesDistinct_object_iff] at distinct
      rw [reprint_object, namesDistinct_object_iff]
      refine ⟨by simpa using distinct.1, ?_⟩
      intro member present
      rw [reprintMembers_eq_map] at present
      obtain ⟨source, sourcePresent, rfl⟩ := List.mem_map.mp present
      exact inductionHypothesis source sourcePresent
        (distinct.2 source sourcePresent)

end Json
end Refuge
