import Refuge.Foundation.Members
import Mathlib.Data.List.Perm.Subperm

/-!
# Merging member lists

The members of a second list replace those of a first one by one, each
replacement with the two name equalities of `Members.replace`.  The result is
the right-biased union of the lists exactly when no deletion on the way hits
another spelling.  Whether one does can be told from the names alone: it is so
when, of two spellings in the first list, the later one is replaced before the
earlier one, or without it.
-/

namespace Refuge
namespace Foundation
namespace Members

variable {Name Key Value : Type*} [DecidableEq Name] [DecidableEq Key]

/-- Replace the members of the first list by those of the second, in order. -/
def merge
    (fold : Name → Key) (first second : List (Name × Value)) : List (Name × Value) :=
  second.foldl (fun merged member => replace fold merged member.1 member.2) first

@[simp] theorem merge_nil (fold : Name → Key) (first : List (Name × Value)) :
    merge fold first [] = first := rfl

theorem merge_cons
    (fold : Name → Key) (first second : List (Name × Value)) (member : Name × Value) :
    merge fold first (member :: second) =
      merge fold (replace fold first member.1 member.2) second := rfl

/-- The right-biased union of two lists as maps. -/
structure RightUnion (first second merged : List (Name × Value)) : Prop where
  /-- Names do not repeat. -/
  distinct : (names merged).Nodup
  /-- A name has its value in the second list, or else in the first. -/
  shows : ∀ name, lookup merged name = (lookup second name).or (lookup first name)

/-- Of two spellings in the first list, the later one is not replaced before
the earlier one, nor without it. -/
def Unshadowed (fold : Name → Key) (first second : List Name) : Prop :=
  ∀ name ∈ second, ∀ other ∈ first, other ≠ name → fold other = fold name →
    [other, name].Sublist first → [other, name].Sublist second

instance (fold : Name → Key) (first second : List Name) :
    Decidable (Unshadowed fold first second) :=
  inferInstanceAs (Decidable (∀ name ∈ second, ∀ other ∈ first, _))

omit [DecidableEq Name] [DecidableEq Key] in
/-- A list does not shadow itself. -/
theorem unshadowed_self (fold : Name → Key) (list : List Name) : Unshadowed fold list list :=
  fun _ _ _ _ _ _ before => before

/-! ## What a deletion hits, told from the names -/

omit [DecidableEq Name] in
/-- A member of another folded name is passed over. -/
theorem hitsExact_cons_of_fold_ne
    {fold : Name → Key} {member : Name × Value} {name : Name}
    (different : fold member.1 ≠ fold name) (members : List (Name × Value)) :
    HitsExact fold (member :: members) name ↔ HitsExact fold members name := by
  have notHead : name ≠ member.1 := fun same => different (same ▸ rfl)
  unfold HitsExact
  rw [List.find?_cons_of_neg (by simpa using different)]
  simp [names, notHead]

omit [DecidableEq Name] in
/-- A deletion hits the exact name exactly when no other spelling stands before
it. -/
theorem hitsExact_iff_of_nodup
    (fold : Name → Key) {members : List (Name × Value)} (name : Name)
    (distinct : (names members).Nodup) :
    HitsExact fold members name ↔
      ∀ other, other ≠ name → fold other = fold name → ¬[other, name].Sublist (names members) := by
  induction members with
  | nil => simp [HitsExact]
  | cons member members inductionHypothesis =>
      obtain ⟨absent, restDistinct⟩ := List.nodup_cons.mp distinct
      by_cases folded : fold member.1 = fold name
      · have found : (member :: members).find? (matchesFolded fold name) = some member :=
          List.find?_cons_of_pos (by simpa using folded)
        by_cases same : member.1 = name
        · refine iff_of_true (fun _ other first => ?_) fun other different _ before => ?_
          · obtain rfl := Option.some.inj (found.symm.trans first)
            exact same
          · rw [names, List.map_cons, same] at before
            have inRest : name ∈ names members :=
              ((List.cons_sublist_cons'.mp before).resolve_right fun both =>
                different both.1).subset (by simp)
            exact absent (same ▸ inRest)
        · constructor
          · intro hits other different sameFold before
            exact same (hits (before.subset (by simp)) member found)
          · intro unshadowed present
            have inRest : name ∈ names members := by
              simpa [names, Ne.symm same] using present
            refine absurd ?_ (unshadowed member.1 same folded)
            exact List.cons_sublist_cons.mpr (List.singleton_sublist.mpr inRest)
      · rw [hitsExact_cons_of_fold_ne folded, inductionHypothesis restDistinct]
        refine forall₃_congr fun other different sameFold => not_congr ?_
        have otherHead : other ≠ member.1 := fun same => folded (same ▸ sameFold)
        constructor
        · exact fun before => before.cons member.1
        · intro before
          exact (List.cons_sublist_cons'.mp before).resolve_right fun both => otherHead both.1

/-- A deletion that hits exactly erases the name. -/
theorem HitsExact.names_eraseFolded
    {fold : Name → Key} {members : List (Name × Value)} {name : Name}
    (hits : HitsExact fold members name) (present : name ∈ names members) :
    names (eraseFolded fold members name) = (names members).erase name := by
  obtain ⟨before, erased, after, split, erase, first, _, notBefore⟩ :=
    exists_eraseFolded fold present
  have isName : erased.1 = name := hits present erased first
  rw [erase, split, names, names, List.map_append, List.map_append, List.map_cons, isName,
    List.erase_append_right _ notBefore, List.erase_cons_head]

/-- A replacement that hits exactly moves the name to the end. -/
theorem HitsExact.names_replace
    {fold : Name → Key} {members : List (Name × Value)} {name : Name}
    (hits : HitsExact fold members name) (value : Value) :
    names (replace fold members name value) = (names members).erase name ++ [name] := by
  by_cases present : name ∈ names members
  · rw [replace_of_mem fold present, names, List.map_append]
    exact congrArg (· ++ [name]) (hits.names_eraseFolded present)
  · rw [replace_of_notMem fold present, List.erase_of_not_mem present, names, List.map_append]
    rfl

/-- Moving a name to the end keeps the order of two others. -/
theorem sublist_erase_append_iff
    {list : List Name} (distinct : list.Nodup) {other name moved : Name} (different : name ≠ moved) :
    [other, name].Sublist (list.erase moved ++ [moved]) ↔
      other ≠ moved ∧ [other, name].Sublist list := by
  constructor
  · intro before
    have kept : [other, name].Sublist (list.erase moved) := by
      obtain ⟨front, back, split, frontKept, backMoved⟩ := List.sublist_append_iff.mp before
      rcases List.sublist_singleton.mp backMoved with rfl | rfl
      · rw [List.append_nil] at split
        exact split ▸ frontKept
      · have last := congrArg List.getLast? split
        simp only [List.getLast?_append, List.getLast?_singleton] at last
        exact absurd (Option.some.inj last) different
    exact ⟨fun same => distinct.not_mem_erase (same ▸ kept.subset (by simp)),
      kept.trans List.erase_sublist⟩
  · rintro ⟨otherDifferent, before⟩
    have kept := before.erase moved
    rw [List.erase_cons_tail (by simpa using otherDifferent),
      List.erase_cons_tail (by simpa using different), List.erase_nil] at kept
    exact kept.trans (List.sublist_append_left _ _)

/-- A list is not shadowed by a second one exactly when the first replacement
hits, and what it leaves is not shadowed by the rest. -/
theorem unshadowed_cons_iff
    {fold : Name → Key} {members : List (Name × Value)} {name : Name} {rest : List Name}
    (distinct : (names members).Nodup) (restDistinct : (name :: rest).Nodup) (value : Value) :
    Unshadowed fold (names members) (name :: rest) ↔
      HitsExact fold members name ∧
        Unshadowed fold (names (replace fold members name value)) rest := by
  obtain ⟨notLater, _⟩ := List.nodup_cons.mp restDistinct
  -- What stands before another name in the second list stands in its rest.
  have inRest {other last : Name} (different : other ≠ name)
      (before : [other, last].Sublist (name :: rest)) : [other, last].Sublist rest :=
    (List.cons_sublist_cons'.mp before).resolve_right fun both => different both.1
  have kept (hits : HitsExact fold members name) {other last : Name} (different : last ≠ name) :
      [other, last].Sublist (names (replace fold members name value)) ↔
        other ≠ name ∧ [other, last].Sublist (names members) := by
    rw [hits.names_replace]
    exact sublist_erase_append_iff distinct different
  constructor
  · intro unshadowed
    have hits : HitsExact fold members name := by
      rw [hitsExact_iff_of_nodup fold name distinct]
      intro other different sameFold before
      have shadow := unshadowed name List.mem_cons_self other (before.subset (by simp))
        different sameFold before
      exact notLater ((inRest different shadow).subset (by simp))
    refine ⟨hits, fun last present other _ different sameFold before => ?_⟩
    have lastDifferent : last ≠ name := fun same => notLater (same ▸ present)
    obtain ⟨otherDifferent, stood⟩ := (kept hits lastDifferent).mp before
    exact inRest otherDifferent (unshadowed last (List.mem_cons_of_mem _ present) other
      (stood.subset (by simp)) different sameFold stood)
  · rintro ⟨hits, unshadowed⟩ last present other otherPresent different sameFold before
    rcases List.mem_cons.mp present with rfl | later
    · exact absurd before
        ((hitsExact_iff_of_nodup fold last distinct).mp hits other different sameFold)
    · have lastDifferent : last ≠ name := fun same => notLater (same ▸ later)
      by_cases first : other = name
      · subst first
        exact List.cons_sublist_cons.mpr (List.singleton_sublist.mpr later)
      · have stands := (kept hits lastDifferent).mpr ⟨first, before⟩
        exact (unshadowed last later other (stands.subset (by simp)) different sameFold
          stands).cons name

/-! ## The union -/

/-- Unshadowed lists are merged to their right-biased union. -/
theorem rightUnion_merge
    {fold : Name → Key} {first second : List (Name × Value)}
    (firstDistinct : (names first).Nodup) (secondDistinct : (names second).Nodup)
    (unshadowed : Unshadowed fold (names first) (names second)) :
    RightUnion first second (merge fold first second) := by
  induction second generalizing first with
  | nil => exact ⟨firstDistinct, fun name => by simp⟩
  | cons member second inductionHypothesis =>
      obtain ⟨hits, rest⟩ :=
        (unshadowed_cons_iff firstDistinct secondDistinct member.2).mp unshadowed
      obtain ⟨absent, laterDistinct⟩ := List.nodup_cons.mp secondDistinct
      obtain ⟨distinct, shows⟩ := inductionHypothesis
        (hits.nodup_names_replace firstDistinct member.2) laterDistinct rest
      refine ⟨distinct, fun name => (shows name).trans ?_⟩
      rw [lookup_cons]
      split
      · rename_i same
        rw [← same, (lookup_eq_none_iff second member.1).mpr absent, Option.none_or,
          hits.lookup_replace_self firstDistinct]
        rfl
      · rename_i different
        rw [hits.lookup_replace_of_ne member.2 (Ne.symm different)]

/-- Putting the first member of a list into another adds no name to the two. -/
theorem names_replace_append_subset
    (fold : Name → Key) (first second : List (Name × Value)) (member : Name × Value) :
    names (replace fold first member.1 member.2) ++ names second ⊆
      names first ++ names (member :: second) := by
  intro name present
  rcases List.mem_append.mp present with replaced | later
  · obtain ⟨source, sourcePresent, rfl⟩ := List.mem_map.mp replaced
    rcases mem_of_mem_replace sourcePresent with kept | rfl
    · exact List.mem_append_left _ (List.mem_map_of_mem kept)
    · exact List.mem_append_right _ List.mem_cons_self
  · exact List.mem_append_right _ (List.mem_cons_of_mem _ later)

/-- Merging adds no name that neither list has. -/
theorem names_merge_subset
    (fold : Name → Key) (first second : List (Name × Value)) :
    names (merge fold first second) ⊆ names first ++ names second := by
  induction second generalizing first with
  | nil => simp
  | cons member second inductionHypothesis =>
      exact List.Subset.trans (inductionHypothesis _)
        (names_replace_append_subset fold first second member)

/-- The names of a list that another one lacks. -/
def lacking (first : List (Name × Value)) (second : List Name) : List Name :=
  second.filter fun name => name ∉ names first

/-- A merge has no other names than those of the first list and those it lacks. -/
theorem names_merge_subset_lacking
    (fold : Name → Key) (first second : List (Name × Value)) :
    names (merge fold first second) ⊆ names first ++ lacking first (names second) := by
  intro name present
  by_cases inFirst : name ∈ names first
  · exact List.mem_append_left _ inFirst
  · have later :=
      (List.mem_append.mp (names_merge_subset fold first second present)).resolve_left inFirst
    exact List.mem_append_right _ (List.mem_filter.mpr ⟨later, by simpa using inFirst⟩)

/-- A list with fewer names lacks more. -/
theorem lacking_sublist
    {first smaller : List (Name × Value)} (fewer : names smaller ⊆ names first)
    (second : List Name) : (lacking first second).Sublist (lacking smaller second) := by
  refine List.monotone_filter_right second fun name missing => ?_
  rw [decide_eq_true_eq] at missing ⊢
  exact fun present => missing (fewer present)

/-- Replacing a member that is there adds no name. -/
theorem names_replace_subset
    {fold : Name → Key} {members : List (Name × Value)} {name : Name}
    (present : name ∈ names members) (value : Value) :
    names (replace fold members name value) ⊆ names members := by
  intro other otherPresent
  obtain ⟨member, memberPresent, rfl⟩ := List.mem_map.mp otherPresent
  rcases mem_of_mem_replace memberPresent with kept | rfl
  · exact List.mem_map_of_mem kept
  · exact present

/-- Replacing a member that is there keeps the length. -/
theorem length_replace_of_mem
    {fold : Name → Key} {members : List (Name × Value)} {name : Name}
    (present : name ∈ names members) (value : Value) :
    (replace fold members name value).length = members.length := by
  have some : 0 < (names members).length := List.length_pos_of_mem present
  rw [List.length_map] at some
  rw [replace_of_mem fold present, List.length_append, length_eraseFolded fold present,
    List.length_singleton]
  omega

/-- Merging keeps the length of the first list and adds every name it lacks. -/
theorem length_le_length_merge
    (fold : Name → Key) (first : List (Name × Value)) {second : List (Name × Value)}
    (secondDistinct : (names second).Nodup) :
    first.length + (lacking first (names second)).length ≤ (merge fold first second).length := by
  induction second generalizing first with
  | nil => simp [lacking]
  | cons member second inductionHypothesis =>
      obtain ⟨absent, laterDistinct⟩ := List.nodup_cons.mp secondDistinct
      refine Nat.le_trans ?_
        (inductionHypothesis (replace fold first member.1 member.2) laterDistinct)
      by_cases present : member.1 ∈ names first
      · have skipped : lacking first (names (member :: second)) = lacking first (names second) :=
          List.filter_cons_of_neg (by simpa using present)
        have fewer := lacking_sublist (@names_replace_subset _ _ _ _ _ fold _ _ present member.2)
          (names second)
        rw [skipped, length_replace_of_mem present]
        exact Nat.add_le_add_left fewer.length_le _
      · have added : lacking first (names (member :: second)) =
            member.1 :: lacking first (names second) :=
          List.filter_cons_of_pos (by simpa using present)
        have same : lacking (replace fold first member.1 member.2) (names second) =
            lacking first (names second) := by
          refine List.filter_congr fun name later => ?_
          have different : name ≠ member.1 := fun same => absent (same ▸ later)
          rw [replace_of_notMem fold present, names, List.map_append]
          simp [different]
        rw [same, added, replace_of_notMem fold present, List.length_append, List.length_cons,
          List.length_singleton]
        omega

/-- A deletion that misses takes another spelling away. -/
theorem exists_notMem_names_replace
    {fold : Name → Key} {members : List (Name × Value)} {name : Name}
    (distinct : (names members).Nodup) (misses : ¬HitsExact fold members name) (value : Value) :
    name ∈ names members ∧
      ∃ other ∈ names members, other ∉ names (replace fold members name value) := by
  obtain ⟨present, before, erased, after, split, erase, different⟩ :=
    exists_of_not_hitsExact misses
  refine ⟨present, erased.1, ?_, ?_⟩
  · rw [split]
    exact List.mem_map_of_mem (List.mem_append_right _ List.mem_cons_self)
  · rw [split, names, List.map_append, List.map_cons, List.nodup_middle,
      ← List.map_append] at distinct
    rw [replace_of_mem fold present, erase, names, List.map_append]
    simpa [different] using (List.nodup_cons.mp distinct).1

/-- A merge with every name of both lists, none of them twice, is of unshadowed
lists. -/
theorem unshadowed_of_names_merge
    {fold : Name → Key} {first second : List (Name × Value)}
    (firstDistinct : (names first).Nodup) (secondDistinct : (names second).Nodup)
    (distinct : (names (merge fold first second)).Nodup)
    (whole : names first ++ names second ⊆ names (merge fold first second)) :
    Unshadowed fold (names first) (names second) := by
  induction second generalizing first with
  | nil => simp [Unshadowed]
  | cons member second inductionHypothesis =>
      obtain ⟨_, laterDistinct⟩ := List.nodup_cons.mp secondDistinct
      by_cases hits : HitsExact fold first member.1
      · refine (unshadowed_cons_iff firstDistinct secondDistinct member.2).mpr ⟨hits,
          inductionHypothesis (hits.nodup_names_replace firstDistinct member.2) laterDistinct
            distinct (List.Subset.trans (names_replace_append_subset fold first second member)
              whole)⟩
      · -- The other spelling comes back only as a name too many.
        exfalso
        obtain ⟨present, other, otherPresent, gone⟩ :=
          exists_notMem_names_replace firstDistinct hits member.2
        have otherLater : other ∈ names second :=
          (List.mem_append.mp (names_merge_subset fold _ second
            (whole (List.mem_append_left _ otherPresent)))).resolve_left gone
        have fewer := lacking_sublist (@names_replace_subset _ _ _ _ _ fold _ _ present member.2)
          (names second)
        have more : (lacking first (names second)).length <
            (lacking (replace fold first member.1 member.2) (names second)).length := by
          refine Nat.lt_of_le_of_ne fewer.length_le fun same => ?_
          have inLacking : other ∈ lacking first (names second) := by
            rw [fewer.eq_of_length same]
            exact List.mem_filter.mpr ⟨otherLater, by simpa using gone⟩
          exact absurd otherPresent (by simpa using (List.mem_filter.mp inLacking).2)
        have atLeast := length_le_length_merge fold
          (replace fold first member.1 member.2) laterDistinct
        have skipped : lacking first (names (member :: second)) = lacking first (names second) :=
          List.filter_cons_of_neg (by simpa using present)
        have atMost := (List.Nodup.subperm distinct
          (names_merge_subset_lacking fold first (member :: second))).length_le
        rw [skipped, merge_cons, List.length_map, List.length_append, List.length_map] at atMost
        rw [length_replace_of_mem present] at atLeast
        omega

omit [DecidableEq Key] in
/-- Right-biased union is associative as an operation on maps. -/
theorem RightUnion.assoc
    {first second third firstSecond secondThird left right : List (Name × Value)}
    (both : RightUnion first second firstSecond) (leftUnion : RightUnion firstSecond third left)
    (others : RightUnion second third secondThird)
    (rightUnion : RightUnion first secondThird right) (name : Name) :
    lookup left name = lookup right name := by
  rw [leftUnion.shows, both.shows, rightUnion.shows, others.shows, Option.or_assoc]

end Members
end Foundation
end Refuge
