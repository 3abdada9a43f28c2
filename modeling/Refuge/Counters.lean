import Refuge.Sections

/-!
# Counting alerts

Any sequence of `add_entry_to_json` on a document whose alerts are counters.
A call counts its entry if there is one of that name, and fails otherwise; the
rest of the document is printed again.  Every file operation succeeds here.
-/

namespace Refuge

open Foundation

/-- The members of counters. -/
def counterMembers (counters : List (Text × Nat)) : List (Text × Json) :=
  counters.map fun counter => (counter.1, .number (.ofInt counter.2))

@[simp] theorem lookup_counterMembers (counters : List (Text × Nat)) (name : Text) :
    Members.lookup (counterMembers counters) name =
      (Members.lookup counters name).map fun count : Nat => .number (.ofInt count) :=
  Members.lookup_map_value (fun count : Nat => Json.number (.ofInt count)) counters name

theorem replace_counterMembers
    (counters : List (Text × Nat)) (name : Text) (count : Nat) :
    Members.replace lowercase (counterMembers counters) name (.number (.ofInt count)) =
      counterMembers (Members.replace lowercase counters name count) :=
  Members.replace_map_value lowercase (fun count : Nat => Json.number (.ofInt count)) counters
    name count

/-- Printing keeps counters. -/
theorem reprint_counterMembers
    {counters : List (Text × Nat)} (small : ∀ counter ∈ counters, counter.2 < 2 ^ 31) :
    Json.reprintMembers (counterMembers counters) = counterMembers counters := by
  rw [Json.reprintMembers_eq_map, counterMembers, List.map_map]
  refine List.map_congr_left fun counter present => ?_
  have := small counter present
  have exact : (counter.2 : Int).natAbs ≤ 2 ^ 53 := by
    rw [Int.natAbs_natCast]
    omega
  simp only [Function.comp_apply, reprint_number_ofInt exact]

/-- A root whose alerts are these counters, all of them `int`; no two names of the
root or of the alerts are equal when case is ignored. -/
structure HoldsAlerts (members : List (Text × Json)) (counters : List (Text × Nat)) : Prop where
  distinct : Members.FoldDistinct lowercase members
  found : Members.lookup members K_ALERTS = some (.object (counterMembers counters))
  counters_distinct : Members.FoldDistinct lowercase counters
  small : ∀ counter ∈ counters, counter.2 < 2 ^ 31

section

variable {cJSON : CJson} {counters : List (Text × Nat)} {entry : Text}

/-- An entry that is not there is no text to count. -/
theorem sectionAfter_addEntry_of_absent
    (lawful : cJSON.Lawful) (small : ∀ counter ∈ counters, counter.2 < 2 ^ 31)
    (absent : Members.lookup counters entry = none) :
    (Update.addEntry entry).sectionAfter cJSON (.object (counterMembers counters)) = none := by
  have parsed : cJSON.parse (cJSON.print (.object (counterMembers counters))) =
      some (.object (counterMembers counters)) := by
    rw [lawful.parse_print, Json.reprint_object, reprint_counterMembers small]
  have got : getValueOfKeyFromJsonString cJSON
      (cJSON.print (.object (counterMembers counters))) entry = .error 1 := by
    simp [getValueOfKeyFromJsonString, getValueOfKeyFromJsonObject, parsed, absent]
  simp [Update.sectionAfter, Update.sectionEdit, countEntry, got, bind, Except.bind,
    Except.toOption]

/-- One that is there is given the next number. -/
theorem sectionAfter_addEntry
    (lawful : cJSON.Lawful) (small : ∀ counter ∈ counters, counter.2 < 2 ^ 31)
    {count : Nat} (found : Members.lookup counters entry = some count)
    (room : count + 1 < 2 ^ 31) :
    (Update.addEntry entry).sectionAfter cJSON (.object (counterMembers counters)) =
      some (.object (Json.reprintMembers
        (counterMembers (Members.replace lowercase counters entry (count + 1))))) := by
  have parsed : cJSON.parse (cJSON.print (.object (counterMembers counters))) =
      some (.object (counterMembers counters)) := by
    rw [lawful.parse_print, Json.reprint_object, reprint_counterMembers small]
  have got : getValueOfKeyFromJsonString cJSON
      (cJSON.print (.object (counterMembers counters))) entry = .ok (sprintfF (.ofInt count)) := by
    simp [getValueOfKeyFromJsonString, getValueOfKeyFromJsonObject, parsed, found, textOfValue]
  have added : countEntry cJSON entry (cJSON.print (.object (counterMembers counters))) =
      .ok (cJSON.print (.object
        (counterMembers (Members.replace lowercase counters entry (count + 1))))) := by
    simp only [countEntry, got, bind, Except.bind]
    rw [sprintfD_atoi_sprintfF_ofInt room]
    rw [cjsonAddKeyValueToJsonString_object parsed (by decide), encodeValue_intparse,
      storedValue_decimal (by omega) (by omega), ← replace_counterMembers]
  rw [Update.sectionAfter, Update.sectionEdit, added, Except.toOption, Option.bind_some,
    lawful.parse_print, Json.reprint_object]

/-- What a call makes of the counters. -/
def tally (counters : List (Text × Nat)) (entry : Text) : List (Text × Nat) :=
  match Members.lookup counters entry with
  | none => counters
  | some count => Members.replace lowercase counters entry (count + 1)

theorem tally_of_absent (absent : Members.lookup counters entry = none) :
    tally counters entry = counters := by
  rw [tally, absent]

theorem tally_of_found {count : Nat} (found : Members.lookup counters entry = some count) :
    tally counters entry = Members.replace lowercase counters entry (count + 1) := by
  rw [tally, found]

theorem foldDistinct_tally
    (distinct : Members.FoldDistinct lowercase counters) (entry : Text) :
    Members.FoldDistinct lowercase (tally counters entry) := by
  cases found : Members.lookup counters entry with
  | none => rwa [tally_of_absent found]
  | some count =>
      rw [tally_of_found found]
      exact distinct.replace (Members.mem_names_of_lookup found) _

/-- A call adds one to the counter it names. -/
theorem lookup_tally
    (distinct : Members.FoldDistinct lowercase counters) (entry name : Text) :
    Members.lookup (tally counters entry) name =
      (Members.lookup counters name).map (· + [entry].count name) := by
  by_cases same : name = entry
  · subst same
    rw [List.count_singleton_self]
    cases found : Members.lookup counters name with
    | none => rw [tally_of_absent found, found, Option.map_none]
    | some count =>
        rw [tally_of_found found,
          (distinct.hitsExact name).lookup_replace_self distinct.nodup_names, Option.map_some]
  · have unnamed : [entry].count name = 0 := List.count_eq_zero.mpr (by simpa using same)
    simp only [unnamed, Nat.add_zero, Option.map_id']
    cases found : Members.lookup counters entry with
    | none => rw [tally_of_absent found]
    | some count =>
        rw [tally_of_found found, (distinct.hitsExact entry).lookup_replace_of_ne _ same]

theorem mem_names_tally_iff
    (distinct : Members.FoldDistinct lowercase counters) (entry name : Text) :
    name ∈ Members.names (tally counters entry) ↔ name ∈ Members.names counters := by
  rw [← Members.lookup_isSome_iff_mem_names, ← Members.lookup_isSome_iff_mem_names,
    lookup_tally distinct, Option.isSome_map]

/-- Calls add to a counter their number that name it. -/
theorem lookup_foldl_tally
    (distinct : Members.FoldDistinct lowercase counters) (entries : List Text) (name : Text) :
    Members.lookup (entries.foldl tally counters) name =
      (Members.lookup counters name).map (· + entries.count name) := by
  induction entries generalizing counters with
  | nil => simp
  | cons entry entries inductionHypothesis =>
      have split : (entry :: entries).count name = [entry].count name + entries.count name := by
        rw [← List.count_append, List.singleton_append]
      rw [List.foldl_cons, inductionHypothesis (foldDistinct_tally distinct entry),
        lookup_tally distinct, Option.map_map, split]
      congr 1
      funext count
      exact Nat.add_assoc _ _ _

/-- A call fails and changes nothing if there is no such counter, and otherwise
succeeds, counts it, and prints the other members of the root again. -/
theorem updateStep_addEntry
    (lawful : cJSON.Lawful) {file : Text} {members : List (Text × Json)}
    (parsed : cJSON.parse file = some (.object members))
    (holds : HoldsAlerts members counters)
    (room : ∀ count, Members.lookup counters entry = some count → count + 1 < 2 ^ 31) :
    ∃ next nextMembers,
      updateStep cJSON file (.addEntry entry) =
          (next, if entry ∈ Members.names counters then 0 else 1) ∧
        cJSON.parse next = some (.object nextMembers) ∧
          HoldsAlerts nextMembers (tally counters entry) ∧
            ∀ name, name ≠ K_ALERTS →
              Members.lookup nextMembers name =
                if entry ∈ Members.names counters
                then (Members.lookup members name).map Json.reprint
                else Members.lookup members name := by
  have cases := updateStep_cases lawful parsed holds.distinct (.addEntry entry) holds.found
  cases found : Members.lookup counters entry with
  | none =>
      have missing : entry ∉ Members.names counters :=
        (Members.lookup_eq_none_iff _ _).mp found
      simp only [if_neg missing, tally_of_absent found]
      rcases cases with ⟨_, stepped⟩ | ⟨after, _, _, made, _⟩
      · exact ⟨file, members, stepped, parsed, holds, fun _ _ => rfl⟩
      · rw [sectionAfter_addEntry_of_absent lawful holds.small found] at made
        cases made
  | some count =>
      have present := Members.mem_names_of_lookup found
      have made := sectionAfter_addEntry lawful holds.small found (room count found)
      have small : ∀ counter ∈ Members.replace lowercase counters entry (count + 1),
          counter.2 < 2 ^ 31 := by
        intro counter kept
        rcases Members.mem_of_mem_replace kept with kept | rfl
        · exact holds.small counter kept
        · exact room count found
      rw [made, reprint_counterMembers small, ← tally_of_found found] at cases
      simp only [if_pos present]
      rcases cases with ⟨fails, _⟩ | ⟨after, next, nextMembers, same, _, stepped, parsedNext,
        distinctNext, lookups⟩
      · cases fails
      · obtain rfl := Json.object.inj (Option.some.inj same)
        refine ⟨next, nextMembers, stepped, parsedNext,
          { distinct := distinctNext
            found := (lookups _).trans (if_pos rfl)
            counters_distinct := foldDistinct_tally holds.counters_distinct entry
            small := tally_of_found found ▸ small }, fun name other => ?_⟩
        rw [lookups]
        exact if_neg other

/-- No counter outgrows `int` when it is given the calls still to come. -/
def CountsWithin (counters : List (Text × Nat)) (entries : List Text) : Prop :=
  ∀ counter ∈ counters, counter.2 + entries.count counter.1 < 2 ^ 31

instance (counters : List (Text × Nat)) (entries : List Text) :
    Decidable (CountsWithin counters entries) :=
  inferInstanceAs
    (Decidable (∀ counter ∈ counters, counter.2 + entries.count counter.1 < 2 ^ 31))

theorem CountsWithin.tail
    {entries : List Text} (within : CountsWithin counters (entry :: entries)) :
    CountsWithin counters entries := fun counter present =>
  lt_of_le_of_lt (Nat.add_le_add_left List.count_le_count_cons _) (within counter present)

theorem CountsWithin.room
    {entries : List Text} (within : CountsWithin counters (entry :: entries))
    {count : Nat} (found : Members.lookup counters entry = some count) :
    count + 1 + entries.count entry < 2 ^ 31 := by
  have bound : count + (entry :: entries).count entry < 2 ^ 31 :=
    within _ (Members.mem_of_lookup found)
  rw [List.count_cons_self] at bound
  omega

/-- A call takes one of its counter's calls away and adds one to its count. -/
theorem CountsWithin.tally
    {entries : List Text} (within : CountsWithin counters (entry :: entries)) :
    CountsWithin (tally counters entry) entries := by
  cases found : Members.lookup counters entry with
  | none =>
      rw [tally_of_absent found]
      exact within.tail
  | some count =>
      rw [tally_of_found found]
      intro counter present
      rcases Members.mem_of_mem_replace present with kept | rfl
      · exact within.tail counter kept
      · exact within.room found

/-- The run lemma: the calls of a run are counted, and the rest of the document is printed
again once one of them has found its counter. -/
theorem trace_addEntry
    (lawful : cJSON.Lawful) {file : Text} {members : List (Text × Json)}
    (parsed : cJSON.parse file = some (.object members))
    (holds : HoldsAlerts members counters) (entries : List Text)
    (within : CountsWithin counters entries) :
    ∃ last lastMembers,
      trace (updateStep cJSON) file (entries.map .addEntry) =
          (last, entries.map fun entry =>
            (.addEntry entry, if entry ∈ Members.names counters then 0 else 1)) ∧
        cJSON.parse last = some (.object lastMembers) ∧
          HoldsAlerts lastMembers (entries.foldl tally counters) ∧
            ∀ name, name ≠ K_ALERTS →
              Members.lookup lastMembers name =
                if ∃ entry ∈ entries, entry ∈ Members.names counters
                then (Members.lookup members name).map Json.reprint
                else Members.lookup members name := by
  induction entries generalizing file members counters with
  | nil => exact ⟨file, members, rfl, parsed, holds, fun name _ => by simp⟩
  | cons entry entries inductionHypothesis =>
      have room : ∀ count, Members.lookup counters entry = some count → count + 1 < 2 ^ 31 :=
        fun count found => by have := within.room found; omega
      have named := mem_names_tally_iff holds.counters_distinct entry
      obtain ⟨next, nextMembers, stepped, parsedNext, holdsNext, others⟩ :=
        updateStep_addEntry lawful parsed holds room
      obtain ⟨last, lastMembers, run, parsedLast, holdsLast, rest⟩ :=
        inductionHypothesis parsedNext holdsNext within.tally
      simp only [named] at run rest
      refine ⟨last, lastMembers, ?_, parsedLast, holdsLast, fun name other => ?_⟩
      · rw [List.map_cons, trace_cons, stepped, run, List.map_cons]
      · rw [rest name other, others name other]
        simp only [List.mem_cons, exists_eq_or_imp]
        by_cases present : entry ∈ Members.names counters
        · simp only [present, true_or, ↓reduceIte, Option.map_map, Json.reprint_comp_reprint,
            ite_self]
        · simp only [present, false_or, ↓reduceIte]

/-- Any sequence of calls that no counter outgrows: a call returns 0 exactly if its
entry is an alert, every counter has grown by the number of calls naming it, no
alert has come or gone, and the other members are printed again once a call has
returned 0 and are left alone until then. -/
theorem alerts_count
    (lawful : cJSON.Lawful) {file : Text} {members : List (Text × Json)}
    (parsed : cJSON.parse file = some (.object members))
    (holds : HoldsAlerts members counters) (entries : List Text)
    (within : CountsWithin counters entries) :
    let run := trace (updateStep cJSON) file (entries.map .addEntry)
    run.2.map Prod.snd =
        entries.map (fun entry => if entry ∈ Members.names counters then 0 else 1) ∧
      ∃ last counted,
        cJSON.parse run.1 = some (.object last) ∧
          HoldsAlerts last counted ∧
            (∀ name, Members.lookup counted name =
              (Members.lookup counters name).map (· + entries.count name)) ∧
              ∀ name, name ≠ K_ALERTS →
                Members.lookup last name =
                  if ∃ entry ∈ entries, entry ∈ Members.names counters
                  then (Members.lookup members name).map Json.reprint
                  else Members.lookup members name := by
  obtain ⟨last, lastMembers, run, parsedLast, holdsLast, others⟩ :=
    trace_addEntry lawful parsed holds entries within
  rw [run]
  refine ⟨?_, lastMembers, _, parsedLast, holdsLast,
    lookup_foldl_tally holds.counters_distinct entries, others⟩
  rw [List.map_map]
  rfl

end

/-! ## A number that is not finite -/

def overflowCounters : List (Text × Nat) := [("NORTH".toList, 1)]

theorem holdsAlerts_overflowMembers : HoldsAlerts overflowMembers overflowCounters where
  distinct := by decide
  found := rfl
  counters_distinct := by decide
  small := by decide

/-- Counting one alert turns the limit of the supplies into null. -/
theorem limit_changed_by_count :
    HoldsAlerts overflowMembers overflowCounters ∧
      CountsWithin overflowCounters ["NORTH".toList] ∧
        Members.lookup overflowMembers SUPPLIES =
            some (limitedSupplies (.number (.infinity false))) ∧
          ∃ next last,
            trace (updateStep .reference) overflowFile [.addEntry "NORTH".toList] =
                (next, [(.addEntry "NORTH".toList, 0)]) ∧
              CJson.reference.parse next = some (.object last) ∧
                Members.lookup last SUPPLIES = some (limitedSupplies .null) := by
  refine ⟨holdsAlerts_overflowMembers, by decide, rfl, ?_⟩
  have room : ∀ count, Members.lookup overflowCounters "NORTH".toList = some count →
      count + 1 < 2 ^ 31 := by
    intro count found
    obtain rfl := Option.some.inj found
    decide
  obtain ⟨next, nextMembers, stepped, parsedNext, _, others⟩ :=
    updateStep_addEntry CJson.reference_lawful parse_overflowFile holdsAlerts_overflowMembers room
  have present : "NORTH".toList ∈ Members.names overflowCounters := by decide
  rw [if_pos present] at stepped
  refine ⟨next, nextMembers, by rw [trace_cons, stepped, trace_nil], parsedNext, ?_⟩
  rw [others SUPPLIES (by decide), if_pos present, ← Json.lookup_reprintMembers,
    reprintMembers_overflowMembers]
  rfl

/-- Three calls on that document, one of them for no alert. -/
theorem alerts_count_overflow :
    let run := trace (updateStep .reference) overflowFile
      (["NORTH".toList, "UP".toList, "NORTH".toList].map .addEntry)
    run.2.map Prod.snd = [0, 1, 0] ∧
      ∃ last counted,
        CJson.reference.parse run.1 = some (.object last) ∧
          HoldsAlerts last counted ∧
            Members.lookup counted "NORTH".toList = some 3 := by
  obtain ⟨codes, last, counted, parsed, holds, counts, _⟩ :=
    alerts_count CJson.reference_lawful parse_overflowFile holdsAlerts_overflowMembers
      ["NORTH".toList, "UP".toList, "NORTH".toList] (by decide)
  exact ⟨codes, last, counted, parsed, holds, counts "NORTH".toList⟩

end Refuge
