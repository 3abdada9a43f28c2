import Refuge.State
import Refuge.Foundation.LastWrite
import Refuge.Json.Reference

/-!
# Runs of supply writes

`set_supply_status` called again and again on one state file.  The presence
test of `cjson_add_key_value_to_json_string` compares names exactly and its
deletion ignores case, so a call is only sure to replace the member it means
when no other spelling of the same name stands before it.  As long as that
holds at every call, the last write to a supply is the one that is read.
-/

namespace Refuge

open Foundation

/-- A call of `set_supply_status`: its arguments, and the file operations that
fail in it. -/
structure SupplyCall where
  category : Text
  key : Text
  value : Text
  faults : FileFaults
  deriving DecidableEq

namespace SupplyCall

/-- The supply a call writes, by category and key. -/
def supply (call : SupplyCall) : Text × Text :=
  (call.category, call.key)

/-- The path of a supply. -/
def location (supply : Text × Text) : List Text :=
  [SUPPLIES, supply.1, supply.2]

/-- The file after a call that returns 0. -/
def perform (cJSON : CJson) (file : Text) (call : SupplyCall) : Option Text :=
  let result := setSupplyStatus cJSON call.faults call.category call.key call.value file
  if result.code = 0 then some result.file else none

/-- The value of a supply in the parsed file. -/
def shows (cJSON : CJson) (file : Text) (supply : Text × Text) : Option Json :=
  (cJSON.parse file).bind (Json.path (location supply))

/-- The value a call encodes, as it is read back. -/
def encoded (call : SupplyCall) : Json :=
  (storedValue call.value).reprint

/-- The category of a call is an object, and each of the three deletions the
call may make hits the member it means: no other spelling of `supplies`, of
the category or of the key stands before it. -/
def HitsExactly (cJSON : CJson) (file : Text) (call : SupplyCall) : Prop :=
  ∃ document, cJSON.parse file = some document ∧
    Json.Reaches (location call.supply) document ∧
      Json.HitsAlong (location call.supply) document

/-! ## One call -/

/-- The update a call makes. -/
def update (call : SupplyCall) : Update :=
  .setSupply call.category call.key call.value

variable {cJSON : CJson}

/-- A call whose category is an object, that returns 0 and whose output is
flushed, writes its value. -/
theorem perform_eq_some
    (lawful : cJSON.Lawful) {file next : Text} {call : SupplyCall} {document : Json}
    (parsed : cJSON.parse file = some document)
    (reaches : Json.Reaches (location call.supply) document)
    (flushed : call.faults.lost = 0)
    (performed : call.perform cJSON file = some next) :
    cJSON.parse next =
      some (Json.writeAt (location call.supply) (storedValue call.value) document).reprint := by
  change (if (call.update.apply cJSON call.faults file).code = 0 then
    some (call.update.apply cJSON call.faults file).file else none) = some next at performed
  split_ifs at performed with code
  obtain ⟨text, applied, parsedText⟩ :=
    call.update.apply_of_reaches lawful parsed reaches rfl code flushed
  rw [applied] at performed
  rw [← Option.some.inj performed]
  exact parsedText

/-- With every file operation succeeding such a call returns 0. -/
theorem exists_perform
    (lawful : cJSON.Lawful) {file : Text} {call : SupplyCall} {document : Json}
    (parsed : cJSON.parse file = some document)
    (reaches : Json.Reaches (location call.supply) document)
    (faultless : call.faults = .none) :
    ∃ next, call.perform cJSON file = some next := by
  obtain ⟨text, applied, _⟩ := call.update.apply_none_of_reaches lawful parsed reaches rfl
  have result : setSupplyStatus cJSON .none call.category call.key call.value file =
      { code := 0, buffer := text, file := text } := applied
  exact ⟨text, by simp [perform, faultless, result]⟩

end SupplyCall

/-! ## Runs -/

section

variable {cJSON : CJson}

/-- What runs keep: the file parses to a document of the shape, and no supply
is a number that printing turns into null; nor does a run make names of the
document collide when `deep` says that none do. -/
structure Orderly (cJSON : CJson) (deep : Prop) (file : Text) (document : Json) : Prop where
  parsed : cJSON.parse file = some document
  shaped : Part.supplies.Shaped document
  finite : ∀ supply item,
    Json.path (SupplyCall.location supply) document = some item → item.Finite
  distinct : deep → document.NamesDistinct

theorem namesDistinct_storedValue (value : Text) : (storedValue value).NamesDistinct := by
  unfold storedValue
  split <;> simp [Json.NamesDistinct]

/-- Two supplies are at incomparable paths unless they are the same. -/
private theorem location_incomparable
    {supply other : Text × Text} (different : supply ≠ other) :
    ¬SupplyCall.location supply <+: SupplyCall.location other := by
  intro isPrefix
  have same := isPrefix.eq_of_length rfl
  simp only [SupplyCall.location, List.cons.injEq, and_true, true_and] at same
  exact different (Prod.ext same.1 same.2)

/-- The step lemma: a call that hits exactly keeps the file orderly and shows
its value at its supply and nothing new at any other. -/
theorem Orderly.perform
    (lawful : cJSON.Lawful) {deep : Prop} {file next : Text} {document : Json}
    {call : SupplyCall}
    (orderly : Orderly cJSON deep file document)
    (hits : call.HitsExactly cJSON file) (flushed : call.faults.lost = 0)
    (performed : call.perform cJSON file = some next) :
    ∃ written, Orderly cJSON deep next written ∧
      ∀ supply, Json.path (SupplyCall.location supply) written =
        if call.supply = supply then some call.encoded
        else Json.path (SupplyCall.location supply) document := by
  obtain ⟨_, parsed, reaches, hitsAlong⟩ := hits
  obtain rfl := Option.some.inj (orderly.parsed.symm.trans parsed)
  have writable : Json.Writable (SupplyCall.location call.supply) document :=
    @Update.writable call.update _ orderly.shaped reaches hitsAlong
  have parsedNext :=
    SupplyCall.perform_eq_some lawful parsed reaches flushed performed
  have shapedNext := @Update.shaped_writeAt call.update _ orderly.shaped reaches hitsAlong
    (storedValue call.value) (fun isAlerts => nomatch isAlerts) _ orderly.shaped
  refine ⟨_, ⟨parsedNext, shapedNext.reprint, ?_, ?_⟩, ?_⟩
  · intro supply item found
    rw [Json.path_reprint] at found
    obtain ⟨source, _, rfl⟩ := Option.map_eq_some_iff.mp found
    exact Json.finite_reprint source
  · intro deep
    exact (writable.namesDistinct_writeAt (orderly.distinct deep)
      (namesDistinct_storedValue call.value)).reprint
  · intro supply
    rw [Json.path_reprint]
    split
    · rename_i same
      rw [← same, writable.path_writeAt_self]
      rfl
    · rename_i different
      rw [writable.path_writeAt_of_incomparable _
        (location_incomparable (Ne.symm different)) (location_incomparable different)]
      cases found : Json.path (SupplyCall.location supply) document with
      | none => rfl
      | some item =>
          rw [Option.map_some, (orderly.finite supply item found).reprint_eq]

/-- In every run of calls that return 0, flush their output and hit exactly,
names stay distinct, every supply that was written holds the value of its last
write, and every other supply is as it was. -/
theorem setSupplyStatus_last_write_wins
    (lawful : cJSON.Lawful) {file final : Text} {calls : List SupplyCall} {document : Json}
    (parsed : cJSON.parse file = some document)
    (shaped : Part.supplies.Shaped document)
    (finite : ∀ supply item,
      Json.path (SupplyCall.location supply) document = some item → item.Finite)
    (exact : Along (SupplyCall.perform cJSON)
      (fun file call => call.HitsExactly cJSON file ∧ call.faults.lost = 0) file calls)
    (reached : run (SupplyCall.perform cJSON) file calls = some final) :
    ∃ last, cJSON.parse final = some last ∧
      Part.supplies.Shaped last ∧ (document.NamesDistinct → last.NamesDistinct) ∧
        ∀ supply, Json.path (SupplyCall.location supply) last =
          (lastWrite SupplyCall.supply SupplyCall.encoded supply calls).or
            (Json.path (SupplyCall.location supply) document) := by
  let invariant (file : Text) : Prop :=
    ∃ document', Orderly cJSON document.NamesDistinct file document'
  have initially : invariant file := ⟨document, parsed, shaped, finite, id⟩
  have preserved (file : Text) (call : SupplyCall) (next : Text)
      (holds : invariant file) (admitted : call.HitsExactly cJSON file ∧ call.faults.lost = 0)
      (performed : call.perform cJSON file = some next) : invariant next := by
    obtain ⟨_, orderly⟩ := holds
    obtain ⟨written, orderlyNext, _⟩ := orderly.perform lawful admitted.1 admitted.2 performed
    exact ⟨written, orderlyNext⟩
  have shown (file : Text) (call : SupplyCall) (next : Text)
      (holds : invariant file) (admitted : call.HitsExactly cJSON file ∧ call.faults.lost = 0)
      (performed : call.perform cJSON file = some next) (supply : Text × Text) :
      SupplyCall.shows cJSON next supply =
        if call.supply = supply then some call.encoded
        else SupplyCall.shows cJSON file supply := by
    obtain ⟨_, orderly⟩ := holds
    obtain ⟨written, orderlyNext, writtenShows⟩ :=
      orderly.perform lawful admitted.1 admitted.2 performed
    simp only [SupplyCall.shows, orderlyNext.parsed, orderly.parsed, Option.bind_some,
      writtenShows]
  obtain ⟨last, orderly⟩ := run_invariant preserved initially exact reached
  refine ⟨last, orderly.parsed, orderly.shaped, orderly.distinct, fun supply => ?_⟩
  have view := run_view_eq preserved shown initially exact reached supply
  simpa [SupplyCall.shows, orderly.parsed, parsed] using view

end

/-! ## Two spellings of one name -/

/-- A document whose only category is `food`, holding amounts. -/
def foodHolding (amounts : List (Text × Nat)) : Json :=
  .object [(SUPPLIES, .object [("food".toList,
    .object (amounts.map fun item => (item.1, .number (.ofInt item.2))))])]

/-- Setting the amount of a kind of food. -/
def setFood (key : Text) (amount : Nat) : SupplyCall where
  category := "food".toList
  key := key
  value := decimal amount
  faults := .none

theorem finite_foodHolding
    {amounts : List (Text × Nat)} (small : ∀ item ∈ amounts, item.2 ≤ 2 ^ 53) :
    (foodHolding amounts).Finite := by
  simp only [foodHolding, Json.finite_object_iff, Json.FiniteMembers, and_true,
    Json.finiteMembers_iff, List.mem_map]
  rintro _ ⟨item, present, rfl⟩
  exact Binary64.isFinite_ofInt (by simpa using small item present)

theorem reaches_foodHolding (amounts : List (Text × Nat)) (key : Text) :
    Json.Reaches (SupplyCall.location ("food".toList, key)) (foodHolding amounts) := by
  simp [foodHolding, SupplyCall.location, Members.lookup_cons]

theorem shaped_foodHolding {amounts : List (Text × Nat)} (distinct : (Members.names amounts).Nodup) :
    Part.supplies.Shaped (foodHolding amounts) := by
  refine ⟨by simp [Members.names], _, rfl, ?_⟩
  refine (Json.objectOf_object_iff _ _).mpr ⟨by simp [Members.names], ?_⟩
  intro member present
  obtain rfl := List.mem_singleton.mp present
  exact (Json.objectOf_object_iff (fun _ => True) _).mpr
    ⟨by simpa [Members.names, Function.comp_def] using distinct, fun _ _ => trivial⟩

/-- Setting an amount returns 0 and replaces the member of the category. -/
theorem exists_perform_setFood
    {cJSON : CJson} (lawful : cJSON.Lawful)
    {file key : Text} {amount : Nat} {amounts : List (Text × Nat)}
    (positive : 0 < amount)
    (small : ∀ item ∈ Members.replace lowercase amounts key amount, item.2 ≤ 2 ^ 53)
    (parsed : cJSON.parse file = some (foodHolding amounts)) :
    ∃ next, (setFood key amount).perform cJSON file = some next ∧
      cJSON.parse next =
        some (foodHolding (Members.replace lowercase amounts key amount)) := by
  have reaches : Json.Reaches (SupplyCall.location (setFood key amount).supply)
      (foodHolding amounts) := reaches_foodHolding amounts key
  obtain ⟨next, performs⟩ := SupplyCall.exists_perform lawful parsed reaches rfl
  have parsedNext := SupplyCall.perform_eq_some lawful parsed reaches rfl performs
  have amountSmall : amount ≤ 2 ^ 53 :=
    small (key, amount) (List.mem_append_right _ List.mem_cons_self)
  have written : Json.writeAt (SupplyCall.location (setFood key amount).supply)
      (storedValue (decimal amount)) (foodHolding amounts) =
        foodHolding (Members.replace lowercase amounts key amount) := by
    rw [storedValue_decimal positive amountSmall, foodHolding, foodHolding,
      ← Members.replace_map_value lowercase fun amount : Nat => Json.number (.ofInt amount)]
    rfl
  refine ⟨next, performs, ?_⟩
  rw [parsedNext, show (setFood key amount).value = decimal amount from rfl, written,
    (finite_foodHolding small).reprint_eq]

theorem hitsExactly_setFood
    {cJSON : CJson} {file key : Text} {amount : Nat} {amounts : List (Text × Nat)}
    (parsed : cJSON.parse file = some (foodHolding amounts))
    (hits : Members.HitsExact lowercase amounts key) :
    (setFood key amount).HitsExactly cJSON file := by
  refine ⟨_, parsed, reaches_foodHolding amounts key, ?_⟩
  simp only [foodHolding, SupplyCall.location, SupplyCall.supply, setFood,
    Json.hitsAlong_cons_object_iff, Members.lookup_cons, ↓reduceIte, Option.some.injEq,
    forall_eq', Json.hitsAlong_nil, implies_true, and_true]
  refine ⟨Members.hitsExact_singleton _ _ _, Members.hitsExact_singleton _ _ _, ?_⟩
  exact (Members.hitsExact_map_value_iff lowercase
    (fun amount : Nat => Json.number (.ofInt amount)) amounts key).mpr hits

/-- Amounts under two spellings of one name. -/
def twoSpellings : Json :=
  foodHolding [("Water".toList, 1), ("water".toList, 2)]

/-- A write to the second spelling deletes the first, leaves two members of one
name, and the value that was there is still the one that is read. -/
theorem setSupplyStatus_last_write_lost :
    Part.supplies.Shaped twoSpellings ∧ twoSpellings.NamesDistinct ∧ twoSpellings.Finite ∧
      ∃ final last,
        run (SupplyCall.perform .reference) (CJson.reference.print twoSpellings)
            [setFood "water".toList 3] = some final ∧
          CJson.reference.parse final = some last ∧
            ¬last.NamesDistinct ∧
              Json.path [SUPPLIES, "food".toList, "water".toList] last =
                  some (.number (.ofInt 2)) ∧
                Json.path [SUPPLIES, "food".toList, "Water".toList] twoSpellings =
                    some (.number (.ofInt 1)) ∧
                  Json.path [SUPPLIES, "food".toList, "Water".toList] last = none := by
  have lawful := CJson.reference_lawful
  have finite : twoSpellings.Finite := finite_foodHolding (by decide)
  obtain ⟨final, performs, parsedFinal⟩ :=
    @exists_perform_setFood _ lawful _ "water".toList 3 _ (by decide) (by decide)
      (lawful.parse_print_of_finite finite)
  rw [show Members.replace lowercase _ "water".toList 3 =
    [("water".toList, 2), ("water".toList, 3)] by decide] at parsedFinal
  refine ⟨shaped_foodHolding (by decide), ?_, finite, final, _, ?_, parsedFinal, ?_, rfl, rfl, rfl⟩
  · simp [twoSpellings, foodHolding, Json.namesDistinct_object_iff, Members.names,
      Json.NamesDistinct, Json.NamesDistinctMembers]
  · rw [run_cons, twoSpellings, performs]
    rfl
  · simp [foodHolding, Json.namesDistinct_object_iff, Members.names]

/-- An amount under one spelling. -/
def oneSpelling : Json :=
  foodHolding [("water".toList, 1)]

/-- With one spelling the second of two writes is the one that is read. -/
theorem setSupplyStatus_last_write_wins_water :
    ∃ final last,
      run (SupplyCall.perform .reference) (CJson.reference.print oneSpelling)
          [setFood "water".toList 2, setFood "water".toList 3] = some final ∧
        CJson.reference.parse final = some last ∧
          Json.path (SupplyCall.location ("food".toList, "water".toList)) last =
            some (storedValue (decimal 3)).reprint := by
  have lawful := CJson.reference_lawful
  have whole : oneSpelling.Finite := finite_foodHolding (by decide)
  have parsed := lawful.parse_print_of_finite whole
  obtain ⟨first, performsFirst, parsedFirst⟩ :=
    @exists_perform_setFood _ lawful _ "water".toList 2 _ (by decide) (by decide) parsed
  obtain ⟨second, performsSecond, _⟩ :=
    @exists_perform_setFood _ lawful _ "water".toList 3 _ (by decide) (by decide) parsedFirst
  have reached : run (SupplyCall.perform .reference) (CJson.reference.print oneSpelling)
      [setFood "water".toList 2, setFood "water".toList 3] = some second := by
    simp only [run_cons, run_nil, performsFirst, performsSecond, Option.bind_some]
  have exact : Along (SupplyCall.perform .reference)
      (fun file call => call.HitsExactly .reference file ∧ call.faults.lost = 0)
      (CJson.reference.print oneSpelling)
      [setFood "water".toList 2, setFood "water".toList 3] :=
    .cons ⟨hitsExactly_setFood parsed (by decide), rfl⟩ performsFirst
      (.cons ⟨hitsExactly_setFood parsedFirst (by decide), rfl⟩ performsSecond (along_nil _ _ _))
  obtain ⟨last, parsedLast, _, _, shown⟩ :=
    setSupplyStatus_last_write_wins lawful parsed (shaped_foodHolding (by decide))
      (fun _ _ found => whole.path found) exact reached
  exact ⟨second, last, reached, parsedLast, by rw [shown]; rfl⟩

end Refuge
