import Mathlib.Data.List.Basic
import Mathlib.Data.List.Nodup

/-!
# Ordered member lists under two name equalities

An ordered list of named values is looked up by exact name but deleted from by
a coarser equality, given by a folding function on names (letter case, for
instance).  Replacing a member deletes the first member whose folded name
matches, if the exact name is present, and appends the new value.

The two equalities disagree only where an earlier member has the same folded
name and another spelling.  `HitsExact` says this is not so for a name; under
it, replacement behaves as an update of a finite map.
-/

namespace Refuge
namespace Foundation
namespace Members

variable {Name Key Value : Type*} [DecidableEq Name] [DecidableEq Key]

/-- The names of a member list, in order. -/
abbrev names (members : List (Name × Value)) : List Name :=
  members.map Prod.fst

/-- The value of the first member of exactly this name. -/
def lookup : List (Name × Value) → Name → Option Value
  | [], _ => none
  | member :: members, name =>
      if member.1 = name then some member.2 else lookup members name

@[simp] theorem lookup_nil (name : Name) :
    lookup ([] : List (Name × Value)) name = none := rfl

theorem lookup_cons
    (member : Name × Value) (members : List (Name × Value)) (name : Name) :
    lookup (member :: members) name =
      if member.1 = name then some member.2 else lookup members name := rfl

theorem lookup_append
    (first second : List (Name × Value)) (name : Name) :
    lookup (first ++ second) name =
      (lookup first name).or (lookup second name) := by
  induction first with
  | nil => simp
  | cons member members inductionHypothesis =>
      by_cases same : member.1 = name
      · simp [lookup_cons, same]
      · simp [lookup_cons, same, inductionHypothesis]

theorem lookup_isSome_iff_mem_names
    (members : List (Name × Value)) (name : Name) :
    (lookup members name).isSome ↔ name ∈ names members := by
  induction members with
  | nil => simp
  | cons member members inductionHypothesis =>
      by_cases same : member.1 = name
      · simp [lookup_cons, same]
      · have different : name ≠ member.1 := Ne.symm same
        simp only [lookup_cons, same, ↓reduceIte, inductionHypothesis]
        simp [different]

theorem lookup_eq_none_iff
    (members : List (Name × Value)) (name : Name) :
    lookup members name = none ↔ name ∉ names members := by
  rw [← lookup_isSome_iff_mem_names, Option.not_isSome_iff_eq_none]

theorem mem_names_of_lookup
    {members : List (Name × Value)} {name : Name} {value : Value}
    (found : lookup members name = some value) :
    name ∈ names members := by
  rw [← lookup_isSome_iff_mem_names, found]
  rfl

theorem mem_of_lookup
    {members : List (Name × Value)} {name : Name} {value : Value}
    (found : lookup members name = some value) :
    (name, value) ∈ members := by
  induction members with
  | nil => simp at found
  | cons member members inductionHypothesis =>
      rw [lookup_cons] at found
      split at found
      · rename_i same
        obtain rfl := Option.some.inj found
        simp [← same]
      · exact List.mem_cons_of_mem _ (inductionHypothesis found)

/-- With distinct names every member is found. -/
theorem lookup_eq_some_iff_mem
    {members : List (Name × Value)} (distinct : (names members).Nodup)
    {name : Name} {value : Value} :
    lookup members name = some value ↔ (name, value) ∈ members := by
  refine ⟨mem_of_lookup, fun present => ?_⟩
  induction members with
  | nil => exact absurd present List.not_mem_nil
  | cons member members inductionHypothesis =>
      obtain ⟨absent, restDistinct⟩ := List.nodup_cons.mp distinct
      rw [lookup_cons]
      rcases List.mem_cons.mp present with rfl | later
      · exact if_pos rfl
      · have different : member.1 ≠ name := by
          rintro rfl
          exact absent (List.mem_map.mpr ⟨_, later, rfl⟩)
        rw [if_neg different]
        exact inductionHypothesis restDistinct later

/-- Mapping the values commutes with lookup. -/
theorem lookup_map_value {Other : Type*}
    (change : Value → Other)
    (members : List (Name × Value)) (name : Name) :
    lookup (members.map fun member => (member.1, change member.2)) name =
      (lookup members name).map change := by
  induction members with
  | nil => rfl
  | cons member members inductionHypothesis =>
      by_cases same : member.1 = name
      · simp [lookup_cons, same]
      · simp [lookup_cons, same, inductionHypothesis]

/-! ## Deletion by folded name -/

/-- A member whose folded name is that of `name`. -/
def matchesFolded (fold : Name → Key) (name : Name) (member : Name × Value) : Bool :=
  decide (fold member.1 = fold name)

omit [DecidableEq Name] in
@[simp] theorem matchesFolded_iff
    (fold : Name → Key) (name : Name) (member : Name × Value) :
    matchesFolded fold name member = true ↔ fold member.1 = fold name := by
  simp [matchesFolded]

/-- Delete the first member with the same folded name. -/
def eraseFolded
    (fold : Name → Key) (members : List (Name × Value)) (name : Name) :
    List (Name × Value) :=
  members.eraseP (matchesFolded fold name)

omit [DecidableEq Name] in
/-- A deletion takes out the first member with the folded name, if the name is
there. -/
theorem exists_eraseFolded
    (fold : Name → Key) {members : List (Name × Value)} {name : Name}
    (present : name ∈ names members) :
    ∃ before erased after, members = before ++ erased :: after ∧
      eraseFolded fold members name = before ++ after ∧
        members.find? (matchesFolded fold name) = some erased ∧
          fold erased.1 = fold name ∧ name ∉ names before := by
  obtain ⟨member, memberPresent, rfl⟩ := List.mem_map.mp present
  obtain ⟨erased, before, after, others, folded, split, erase⟩ :=
    List.exists_of_eraseP (p := matchesFolded fold member.1) memberPresent (by simp)
  refine ⟨before, erased, after, split, erase, ?_, (matchesFolded_iff _ _ _).mp folded, ?_⟩
  · rw [split, List.find?_append, List.find?_eq_none.mpr others, Option.none_or]
    exact List.find?_cons_of_pos folded
  · intro inBefore
    obtain ⟨other, inMembers, same⟩ := List.mem_map.mp inBefore
    exact others other inMembers (by rw [matchesFolded_iff, same])

omit [DecidableEq Name] in
theorem length_eraseFolded
    (fold : Name → Key) {members : List (Name × Value)} {name : Name}
    (present : name ∈ names members) :
    (eraseFolded fold members name).length = members.length - 1 := by
  obtain ⟨member, memberPresent, memberName⟩ := List.mem_map.mp present
  exact List.length_eraseP_of_mem memberPresent (by simp [memberName])

/-- Deletion does not disturb a name that folds differently. -/
theorem lookup_eraseFolded_of_fold_ne
    (fold : Name → Key) (members : List (Name × Value)) {name other : Name}
    (different : fold other ≠ fold name) :
    lookup (eraseFolded fold members name) other = lookup members other := by
  induction members with
  | nil => rfl
  | cons member members inductionHypothesis =>
      obtain ⟨memberName, value⟩ := member
      unfold eraseFolded at inductionHypothesis ⊢
      by_cases folded : fold memberName = fold name
      · have unequal : memberName ≠ other := by
          rintro rfl
          exact different folded
        rw [List.eraseP_cons_of_pos (by simpa using folded)]
        simp [lookup_cons, unequal]
      · rw [List.eraseP_cons_of_neg (by simpa using folded)]
        simp only [lookup_cons, inductionHypothesis]

/-- The first member with the folded name of `name` is spelled `name`, unless
`name` itself is absent. -/
def HitsExact
    (fold : Name → Key) (members : List (Name × Value)) (name : Name) : Prop :=
  name ∈ names members →
    ∀ member ∈ members.find? (matchesFolded fold name), member.1 = name

instance (fold : Name → Key) (members : List (Name × Value)) (name : Name) :
    Decidable (HitsExact fold members name) :=
  inferInstanceAs (Decidable (_ → _))

omit [DecidableEq Name] in
/-- A single member is hit under its name. -/
theorem hitsExact_singleton (fold : Name → Key) (name : Name) (value : Value) :
    HitsExact fold [(name, value)] name := by
  intro _ member found
  rw [List.mem_singleton.mp (List.mem_of_find?_eq_some found)]

omit [DecidableEq Name] in
/-- Mapping the values does not change what a deletion hits. -/
theorem hitsExact_map_value_iff {Other : Type*}
    (fold : Name → Key) (map : Value → Other) (members : List (Name × Value)) (name : Name) :
    HitsExact fold (members.map fun member => (member.1, map member.2)) name ↔
      HitsExact fold members name := by
  have sameNames : names (members.map fun member => (member.1, map member.2)) =
      names members := by
    simp [names, Function.comp_def]
  unfold HitsExact
  rw [sameNames, List.find?_map]
  simp only [Option.mem_def, Option.map_eq_some_iff, forall_exists_index, and_imp,
    forall_apply_eq_imp_iff₂]
  rfl

/-- Folded names are pairwise distinct. -/
def FoldDistinct (fold : Name → Key) (members : List (Name × Value)) : Prop :=
  (members.map fun member => fold member.1).Nodup

instance (fold : Name → Key) (members : List (Name × Value)) :
    Decidable (FoldDistinct fold members) :=
  inferInstanceAs (Decidable (List.Nodup _))

omit [DecidableEq Name] [DecidableEq Key] in
theorem FoldDistinct.nodup_names
    {fold : Name → Key} {members : List (Name × Value)}
    (distinct : FoldDistinct fold members) :
    (names members).Nodup := by
  have composed : (names members).map fold =
      members.map fun member => fold member.1 := by simp [names]
  exact List.Nodup.of_map fold (composed ▸ distinct)

omit [DecidableEq Name] in
/-- Pairwise distinct folded names leave no other spelling to be hit. -/
theorem FoldDistinct.hitsExact
    {fold : Name → Key} {members : List (Name × Value)}
    (distinct : FoldDistinct fold members) (name : Name) :
    HitsExact fold members name := by
  intro present member found
  have memberPresent : member ∈ members := List.mem_of_find?_eq_some found
  have folded : fold member.1 = fold name := by
    simpa using List.find?_some found
  obtain ⟨exact, exactPresent, rfl⟩ := List.mem_map.mp present
  have injective := List.inj_on_of_nodup_map distinct
  rw [injective memberPresent exactPresent folded]

/-- When the deletion hits the exact name, no other name is disturbed. -/
theorem HitsExact.lookup_eraseFolded_of_ne
    {fold : Name → Key} {members : List (Name × Value)} {name other : Name}
    (hits : HitsExact fold members name)
    (present : name ∈ names members)
    (different : other ≠ name) :
    lookup (eraseFolded fold members name) other = lookup members other := by
  obtain ⟨before, erased, after, split, erase, first, _, _⟩ := exists_eraseFolded fold present
  have isName : erased.1 = name := hits present erased first
  have unequal : erased.1 ≠ other := isName ▸ Ne.symm different
  rw [erase, split, lookup_append, lookup_append, lookup_cons, if_neg unequal]

omit [DecidableEq Name] in
/-- When the deletion hits the exact name and names are distinct, the name is
gone. -/
theorem HitsExact.notMem_eraseFolded
    {fold : Name → Key} {members : List (Name × Value)} {name : Name}
    (hits : HitsExact fold members name)
    (present : name ∈ names members)
    (distinct : (names members).Nodup) :
    name ∉ names (eraseFolded fold members name) := by
  obtain ⟨before, erased, after, split, erase, first, _, _⟩ := exists_eraseFolded fold present
  have isName : erased.1 = name := hits present erased first
  rw [split, names, List.map_append, List.map_cons, List.nodup_middle, ← List.map_append,
    isName] at distinct
  rw [erase]
  exact (List.nodup_cons.mp distinct).1

omit [DecidableEq Name] in
/-- A deletion that misses takes out a member of another spelling. -/
theorem exists_of_not_hitsExact
    {fold : Name → Key} {members : List (Name × Value)} {name : Name}
    (misses : ¬HitsExact fold members name) :
    name ∈ names members ∧ ∃ before erased after, members = before ++ erased :: after ∧
      eraseFolded fold members name = before ++ after ∧ erased.1 ≠ name := by
  have present : name ∈ names members := by
    by_contra absent
    exact misses fun present => absurd present absent
  obtain ⟨before, erased, after, split, erase, first, _, _⟩ := exists_eraseFolded fold present
  refine ⟨present, before, erased, after, split, erase, fun same => misses ?_⟩
  intro _ member found
  obtain rfl := Option.some.inj (first.symm.trans found)
  exact same

omit [DecidableEq Name] in
/-- Deletion only removes names. -/
theorem names_eraseFolded_sublist
    (fold : Name → Key) (members : List (Name × Value)) (name : Name) :
    (names (eraseFolded fold members name)).Sublist (names members) :=
  List.eraseP_sublist.map _

/-! ## Replacement -/

/-- Delete the first member with the folded name if the exact name is present,
then append the new value. -/
def replace
    (fold : Name → Key) (members : List (Name × Value))
    (name : Name) (value : Value) : List (Name × Value) :=
  (if (lookup members name).isSome then eraseFolded fold members name
    else members) ++ [(name, value)]

theorem replace_of_mem
    (fold : Name → Key) {members : List (Name × Value)} {name : Name}
    (present : name ∈ names members) (value : Value) :
    replace fold members name value =
      eraseFolded fold members name ++ [(name, value)] := by
  rw [replace, if_pos ((lookup_isSome_iff_mem_names members name).mpr present)]

theorem replace_of_notMem
    (fold : Name → Key) {members : List (Name × Value)} {name : Name}
    (absent : name ∉ names members) (value : Value) :
    replace fold members name value = members ++ [(name, value)] := by
  rw [replace, if_neg]
  rwa [lookup_isSome_iff_mem_names]

private theorem lookup_append_singleton_of_ne
    (members : List (Name × Value)) {name other : Name} (value : Value)
    (different : other ≠ name) :
    lookup (members ++ [(name, value)]) other = lookup members other := by
  simp [lookup_append, lookup_cons, Ne.symm different]

/-- Replacement commutes with mapping the values. -/
theorem replace_map_value {Other : Type*}
    (fold : Name → Key) (map : Value → Other) (members : List (Name × Value))
    (name : Name) (value : Value) :
    replace fold (members.map fun member => (member.1, map member.2)) name (map value) =
      (replace fold members name value).map fun member => (member.1, map member.2) := by
  unfold replace eraseFolded
  rw [lookup_map_value, Option.isSome_map]
  split
  · rw [List.map_append, List.eraseP_map]
    rfl
  · rw [List.map_append]
    rfl

/-- Replacing a member by different values gives different lists. -/
theorem eq_of_replace_eq
    {fold : Name → Key} {members : List (Name × Value)} {name : Name} {first second : Value}
    (same : replace fold members name first = replace fold members name second) :
    first = second := by
  have last := List.append_cancel_left same
  simpa using last

/-- Replacing leaves nothing but the member exactly where there was none, or
that one alone. -/
theorem names_replace_eq_singleton_iff
    (fold : Name → Key) (members : List (Name × Value)) (name : Name) (value : Value) :
    names (replace fold members name value) = [name] ↔
      names members = [] ∨ names members = [name] := by
  by_cases present : name ∈ names members
  · have erased := length_eraseFolded fold present
    have some : 0 < (names members).length := List.length_pos_of_mem present
    rw [List.length_map] at some
    rw [replace_of_mem fold present]
    constructor
    · intro alone
      have lengths := congrArg List.length alone
      simp only [names, List.map_append, List.length_append, List.length_map, erased,
        List.map_singleton, List.length_singleton] at lengths
      obtain ⟨single, rfl⟩ := List.length_eq_one_iff.mp (show members.length = 1 by omega)
      exact Or.inr (congrArg (· :: []) (List.mem_singleton.mp present).symm)
    · rintro (none | alone)
      · rw [none] at present
        exact absurd present List.not_mem_nil
      · have lengths := congrArg List.length alone
        rw [List.length_map, List.length_singleton] at lengths
        have nothing : eraseFolded fold members name = [] :=
          List.length_eq_zero_iff.mp (by omega)
        rw [nothing]
        rfl
  · rw [replace_of_notMem fold present]
    constructor
    · intro alone
      have lengths := congrArg List.length alone
      simp only [names, List.map_append, List.length_append, List.length_map,
        List.map_singleton, List.length_singleton] at lengths
      exact Or.inl (List.map_eq_nil_iff.mpr (List.length_eq_zero_iff.mp (by omega)))
    · rintro (none | alone)
      · rw [List.map_eq_nil_iff.mp none]
        rfl
      · rw [alone] at present
        exact absurd (List.mem_singleton_self name) present

/-- A member after a replacement was there before or is the new one. -/
theorem mem_of_mem_replace
    {fold : Name → Key} {members : List (Name × Value)} {name : Name} {value : Value}
    {member : Name × Value} (present : member ∈ replace fold members name value) :
    member ∈ members ∨ member = (name, value) := by
  rcases List.mem_append.mp present with kept | appended
  · refine Or.inl ?_
    split at kept
    · exact List.mem_of_mem_eraseP kept
    · exact kept
  · exact Or.inr (List.mem_singleton.mp appended)

/-- Replacement does not disturb a name that folds differently. -/
theorem lookup_replace_of_fold_ne
    (fold : Name → Key) (members : List (Name × Value)) {name other : Name}
    (value : Value) (different : fold other ≠ fold name) :
    lookup (replace fold members name value) other = lookup members other := by
  have unequal : other ≠ name := fun same => different (same ▸ rfl)
  unfold replace
  rw [lookup_append_singleton_of_ne _ value unequal]
  split
  · exact lookup_eraseFolded_of_fold_ne fold members different
  · rfl

/-- Replacement that hits the exact name does not disturb any other name. -/
theorem HitsExact.lookup_replace_of_ne
    {fold : Name → Key} {members : List (Name × Value)} {name other : Name}
    (hits : HitsExact fold members name)
    (value : Value) (different : other ≠ name) :
    lookup (replace fold members name value) other = lookup members other := by
  by_cases present : name ∈ names members
  · rw [replace_of_mem fold present,
      lookup_append_singleton_of_ne _ value different]
    exact hits.lookup_eraseFolded_of_ne present different
  · rw [replace_of_notMem fold present,
      lookup_append_singleton_of_ne _ value different]

/-- Replacement that hits the exact name is visible under that name. -/
theorem HitsExact.lookup_replace_self
    {fold : Name → Key} {members : List (Name × Value)} {name : Name}
    (hits : HitsExact fold members name)
    (distinct : (names members).Nodup) (value : Value) :
    lookup (replace fold members name value) name = some value := by
  by_cases present : name ∈ names members
  · have gone := hits.notMem_eraseFolded present distinct
    rw [replace_of_mem fold present, lookup_append,
      (lookup_eq_none_iff _ _).mpr gone]
    simp [lookup_cons]
  · rw [replace_of_notMem fold present, lookup_append,
      (lookup_eq_none_iff _ _).mpr present]
    simp [lookup_cons]

/-- What is found after a replacement that hits the exact name. -/
theorem HitsExact.lookup_replace
    {fold : Name → Key} {members : List (Name × Value)} {name : Name}
    (hits : HitsExact fold members name)
    (distinct : (names members).Nodup) (value : Value) (other : Name) :
    lookup (replace fold members name value) other =
      if other = name then some value else lookup members other := by
  split
  · rename_i same
    rw [same, hits.lookup_replace_self distinct]
  · rename_i different
    exact hits.lookup_replace_of_ne value different

/-- Replacement that hits the exact name keeps names distinct. -/
theorem HitsExact.nodup_names_replace
    {fold : Name → Key} {members : List (Name × Value)} {name : Name}
    (hits : HitsExact fold members name)
    (distinct : (names members).Nodup) (value : Value) :
    (names (replace fold members name value)).Nodup := by
  have append (rest : List (Name × Value))
      (restDistinct : (names rest).Nodup) (absent : name ∉ names rest) :
      (names (rest ++ [(name, value)])).Nodup := by
    rw [names, List.map_append]
    exact List.Nodup.append restDistinct (by simp) (by simpa using absent)
  by_cases present : name ∈ names members
  · rw [replace_of_mem fold present]
    exact append _ ((names_eraseFolded_sublist fold members name).nodup distinct)
      (hits.notMem_eraseFolded present distinct)
  · rw [replace_of_notMem fold present]
    exact append _ distinct present

omit [DecidableEq Name] [DecidableEq Key] in
/-- Mapping the values does not change whether folded names are distinct. -/
theorem foldDistinct_map_value_iff {Other : Type*}
    (fold : Name → Key) (map : Value → Other) (members : List (Name × Value)) :
    FoldDistinct fold (members.map fun member => (member.1, map member.2)) ↔
      FoldDistinct fold members := by
  simp [FoldDistinct, Function.comp_def]

/-- Replacing a member keeps folded names distinct. -/
theorem FoldDistinct.replace
    {fold : Name → Key} {members : List (Name × Value)} {name : Name}
    (distinct : FoldDistinct fold members) (present : name ∈ names members)
    (value : Value) :
    FoldDistinct fold (replace fold members name value) := by
  obtain ⟨before, erased, after, split, erase, _, folded, _⟩ := exists_eraseFolded fold present
  rw [replace_of_mem fold present, erase]
  rw [FoldDistinct, split, List.map_append, List.map_cons, List.nodup_middle, folded,
    ← List.map_append] at distinct
  rw [FoldDistinct, List.map_append, List.map_singleton]
  exact (List.perm_append_singleton _ _).nodup_iff.mpr distinct

/-- With distinct names, lookups tell the members up to their order. -/
theorem perm_of_lookup_eq
    {first second : List (Name × Value)}
    (firstDistinct : (names first).Nodup) (secondDistinct : (names second).Nodup)
    (same : ∀ name, lookup first name = lookup second name) :
    first.Perm second := by
  rw [List.perm_ext_iff_of_nodup firstDistinct.of_map secondDistinct.of_map]
  intro member
  rw [← lookup_eq_some_iff_mem firstDistinct, ← lookup_eq_some_iff_mem secondDistinct, same]

/-- Replacing a member that is hit exactly exchanges its value, up to the order. -/
theorem HitsExact.exists_perm
    {fold : Name → Key} {members : List (Name × Value)} {name : Name} {old : Value}
    (hits : HitsExact fold members name) (found : lookup members name = some old) :
    ∃ rest, members.Perm ((name, old) :: rest) ∧
      ∀ value, (replace fold members name value).Perm ((name, value) :: rest) := by
  have present := mem_names_of_lookup found
  obtain ⟨before, erased, after, split, erase, first, _, notBefore⟩ :=
    exists_eraseFolded fold present
  have isName : erased.1 = name := hits present erased first
  have isOld : erased.2 = old := by
    rw [split, lookup_append, (lookup_eq_none_iff _ _).mpr notBefore, Option.none_or,
      lookup_cons, if_pos isName] at found
    exact Option.some.inj found
  refine ⟨before ++ after, ?_, fun value => ?_⟩
  · rw [split, ← isName, ← isOld]
    exact List.perm_middle
  · rw [replace_of_mem fold present, erase]
    exact List.perm_append_singleton _ _

/-- Without it, two members of the same name result: the deletion missed. -/
theorem not_nodup_names_replace_of_not_hitsExact
    {fold : Name → Key} {members : List (Name × Value)} {name : Name}
    (misses : ¬HitsExact fold members name) (value : Value) :
    ¬(names (replace fold members name value)).Nodup := by
  obtain ⟨present, before, erased, after, split, erase, different⟩ :=
    exists_of_not_hitsExact misses
  have stillThere : name ∈ names (eraseFolded fold members name) := by
    rw [split] at present
    rw [erase]
    simpa [names, different.symm] using present
  rw [replace_of_mem fold present, names, List.map_append]
  intro distinct
  exact (List.nodup_append.mp distinct).2.2 name stillThere name (by simp) rfl

end Members
end Foundation
end Refuge
