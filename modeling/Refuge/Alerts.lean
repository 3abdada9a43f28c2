import Refuge.State
import Refuge.Json.Reference

/-!
# The alert module

`run_alert_module` reads the temperature at the four entries in turn.  A
reading above `HIGH_TEMPERATURE` puts a message in the queue and counts the
entry in the state file.  Every file and queue operation succeeds here.
-/

namespace Refuge

open Foundation

def NORT_ENTRY : Text := "NORTH".toList
def WEST_ENTRY : Text := "WEST".toList
def EAST_ENTRY : Text := "EAST".toList
def SOUTH_ENTRY : Text := "SOUTH".toList
def MIN_TEMPERATURE : Int := 16
def MAX_TEMPERATURE : Int := 38
def HIGH_TEMPERATURE : Int := 38

/-- The entries. -/
inductive Entry
  | north
  | east
  | west
  | south
  deriving DecidableEq

namespace Entry

/-- What an entry is called. -/
def name : Entry → Text
  | .north => NORT_ENTRY
  | .east => EAST_ENTRY
  | .west => WEST_ENTRY
  | .south => SOUTH_ENTRY

/-- The entry that `run_alert_module` reads after another. -/
def next : Entry → Entry
  | .north => .east
  | .east => .west
  | .west => .south
  | .south => .north

theorem name_injective : Function.Injective name := by
  intro first second same
  cases first <;> cases second <;> first | rfl | exact absurd same (by decide)

end Entry

/-- What `rand` returns: an `int` that is not negative. -/
abbrev Rand := Fin (2 ^ 31)

/-- `get_temperature`: a whole number of degrees. -/
def getTemperature (rand : Rand) : Int :=
  ((rand : Int) / 10) % (MAX_TEMPERATURE - MIN_TEMPERATURE) + MIN_TEMPERATURE

/-- A temperature that was read at an entry. -/
structure Reading where
  entry : Entry
  temperature : Int
  deriving DecidableEq

/-- A reading that raises an alert. -/
def Reading.alarms (reading : Reading) : Bool :=
  HIGH_TEMPERATURE < reading.temperature

/-- The message of a reading as it is logged; `%.1f` of a whole number. -/
def Reading.message (reading : Reading) : Text :=
  reading.entry.name ++ " ENTRY, ".toList ++ sprintfD reading.temperature ++
    ".0 \xc2\xb0C\n".toList

/-- The message as it is queued. -/
def Reading.alertMessage (reading : Reading) : Text :=
  reading.message ++ "\n\xc2\xa1\xc2\xa1\xc2\xa1 ALERTA !!!\n".toList

/-- The message is about an entry. -/
def mentions (entry : Entry) (message : Text) : Bool :=
  (entry.name ++ " ENTRY, ".toList).isPrefixOf message

/-- The state file, the readings in the log, the messages put in the queue, and
the entry that is read next. -/
structure AlertModule where
  file : Text
  log : List Reading
  queued : List Text
  entry : Entry

namespace AlertModule

/-- The module at its start. -/
def start (file : Text) : AlertModule where
  file := file
  log := []
  queued := []
  entry := .north

/-- The readings of an entry above the limit. -/
def alarms (module : AlertModule) (entry : Entry) : Nat :=
  module.log.countP fun reading => reading.entry = entry && reading.alarms

/-- The messages queued for an entry. -/
def messages (module : AlertModule) (entry : Entry) : Nat :=
  module.queued.countP (mentions entry)

section

variable (cJSON : CJson)

/-- `simulate_temperature_sensor` with the temperature it got; what it builds
in `send_buffer` is not used. -/
def simulateTemperatureSensor (module : AlertModule) (reading : Reading) : AlertModule :=
  let module := { module with log := module.log ++ [reading] }
  if reading.alarms then
    { module with
      queued := module.queued ++ [reading.alertMessage]
      file := (addEntryToJson cJSON .none reading.entry.name module.file).file }
  else module

/-- One call in the loop of `run_alert_module`. -/
def call (module : AlertModule) (temperature : Int) : AlertModule :=
  { module.simulateTemperatureSensor cJSON { entry := module.entry, temperature } with
    entry := module.entry.next }

/-- `run_alert_module` for as many calls as there are results of `rand`. -/
def runAlertModule (module : AlertModule) (rands : List Rand) : AlertModule :=
  (rands.map getTemperature).foldl (call cJSON) module

end

end AlertModule

/-- The counter of an entry in a document. -/
def counter (document : Json) (entry : Entry) : Option Json :=
  Json.path [K_ALERTS, entry.name] document

/-- The document holds these counters; no names in its root or its alerts are
equal when case is ignored. -/
def HoldsCounters (document : Json) (counts : Entry → Int) : Prop :=
  ∃ members inner, document = .object members ∧ Members.FoldDistinct lowercase members ∧
    Members.lookup members K_ALERTS = some (.object inner) ∧
      Members.FoldDistinct lowercase inner ∧
        ∀ entry, Members.lookup inner entry.name = some (.number (.ofInt (counts entry)))

section

variable (cJSON : CJson)

/-- In every run from a file each counter rises by the messages queued for its
entry, and by the readings of the entry above the limit. -/
def CountsAlarms (file : Text) (counts : Entry → Int) : Prop :=
  ∀ rands, let module := (AlertModule.start file).runAlertModule cJSON rands
    (∀ entry, counts entry + module.alarms entry < 2 ^ 31) →
      ∃ document, cJSON.parse module.file = some document ∧
        ∀ entry, counter document entry =
            some (.number (.ofInt (counts entry + module.messages entry))) ∧
          counter document entry =
            some (.number (.ofInt (counts entry + module.alarms entry)))

/-- There is a run in which the counters rise by these increments. -/
def Raises (file : Text) (counts : Entry → Int) (increments : Entry → Nat) : Prop :=
  ∃ rands document,
    cJSON.parse ((AlertModule.start file).runAlertModule cJSON rands).file = some document ∧
      ∀ entry, counter document entry =
        some (.number (.ofInt (counts entry + increments entry)))

end

/-- The greatest temperature is one below `MAX_TEMPERATURE`. -/
theorem getTemperature_bounds (rand : Rand) :
    MIN_TEMPERATURE ≤ getTemperature rand ∧ getTemperature rand < MAX_TEMPERATURE := by
  simp only [getTemperature, MIN_TEMPERATURE, MAX_TEMPERATURE]
  omega

/-- So it raises no alert: the limit is `MAX_TEMPERATURE`. -/
theorem alarms_getTemperature (entry : Entry) (rand : Rand) :
    Reading.alarms { entry, temperature := getTemperature rand } = false := by
  have limit : HIGH_TEMPERATURE = MAX_TEMPERATURE := rfl
  have below := (getTemperature_bounds rand).2
  refine decide_eq_false fun above => ?_
  rw [limit] at above
  exact lt_asymm above below

/-- A message is about the entry of its reading. -/
theorem mentions_alertMessage (entry : Entry) (reading : Reading) :
    mentions entry reading.alertMessage = decide (reading.entry = entry) := by
  obtain ⟨other, temperature⟩ := reading
  cases entry <;> cases other <;> rfl

/-- A counter that is in a document can be raised. -/
theorem HoldsCounters.writable
    {document : Json} {counts : Entry → Int} (holds : HoldsCounters document counts)
    (entry : Entry) :
    Json.Reaches [K_ALERTS, entry.name] document ∧
      counter document entry = some (.number (.ofInt (counts entry))) := by
  obtain ⟨members, inner, rfl, _, found, _, each⟩ := holds
  refine ⟨fun _ => ⟨_, found, fun deeper => absurd rfl deeper⟩, ?_⟩
  rw [counter, Json.path_cons_object, found, Option.bind_some, Json.path_cons_object, each]
  rfl

/-- Raising one counter leaves the others. -/
theorem HoldsCounters.writeAt
    {document : Json} {counts : Entry → Int} (holds : HoldsCounters document counts)
    (entry : Entry) (next : Int) :
    HoldsCounters (Json.writeAt [K_ALERTS, entry.name] (.number (.ofInt next)) document)
      (Function.update counts entry next) := by
  obtain ⟨members, inner, rfl, distinct, found, innerDistinct, each⟩ := holds
  have present := Members.mem_names_of_lookup found
  have entryPresent := Members.mem_names_of_lookup (each entry)
  rw [Json.writeAt_cons_object, found, Option.getD_some, Json.writeAt_cons_object, Json.writeAt_nil]
  refine ⟨_, _, rfl, distinct.replace present _,
    (distinct.hitsExact _).lookup_replace_self distinct.nodup_names _,
    innerDistinct.replace entryPresent _, fun other => ?_⟩
  by_cases same : other = entry
  · subst same
    rw [(innerDistinct.hitsExact _).lookup_replace_self innerDistinct.nodup_names,
      Function.update_self]
  · rw [(innerDistinct.hitsExact _).lookup_replace_of_ne _ (Entry.name_injective.ne same), each,
      Function.update_of_ne same]

/-- Printing keeps the counters. -/
theorem HoldsCounters.reprint
    {document : Json} {counts : Entry → Int} (holds : HoldsCounters document counts)
    (small : ∀ entry, (counts entry).natAbs ≤ 2 ^ 53) :
    HoldsCounters document.reprint counts := by
  obtain ⟨members, inner, rfl, distinct, found, innerDistinct, each⟩ := holds
  rw [Json.reprint_object]
  refine ⟨_, Json.reprintMembers inner, rfl, ?_, ?_, ?_, fun entry => ?_⟩
  · rw [Json.reprintMembers_eq_map]
    exact (Members.foldDistinct_map_value_iff lowercase Json.reprint members).mpr distinct
  · rw [Json.lookup_reprintMembers, found, Option.map_some, Json.reprint_object]
  · rw [Json.reprintMembers_eq_map]
    exact (Members.foldDistinct_map_value_iff lowercase Json.reprint inner).mpr innerDistinct
  · rw [Json.lookup_reprintMembers, each, Option.map_some, reprint_number_ofInt (small entry)]

section

variable {cJSON : CJson}

/-- `add_entry_to_json` raises the counter of its entry. -/
theorem HoldsCounters.addEntryToJson
    (lawful : cJSON.Lawful) {file : Text} {document : Json} {counts : Entry → Int}
    (parsed : cJSON.parse file = some document) (holds : HoldsCounters document counts)
    (entry : Entry) {count : Nat} (isCount : counts entry = count) (room : count + 1 < 2 ^ 31)
    (small : ∀ other, (counts other).natAbs ≤ 2 ^ 53) :
    ∃ after, cJSON.parse (addEntryToJson cJSON .none entry.name file).file = some after ∧
      HoldsCounters after (Function.update counts entry (counts entry + 1)) := by
  obtain ⟨reaches, found⟩ := holds.writable entry
  rw [isCount] at found
  have stores := @Update.newValue_addEntry cJSON _ _ _ found room
  obtain ⟨text, applied, textParsed⟩ :=
    Update.apply_none_of_reaches lawful (.addEntry entry.name) parsed reaches stores
  have written : (Refuge.addEntryToJson cJSON .none entry.name file).file = text :=
    congrArg Updated.file applied
  refine ⟨_, by rw [written, textParsed], ?_⟩
  rw [isCount]
  refine (holds.writeAt entry _).reprint fun other => ?_
  by_cases same : other = entry
  · subst same
    simp only [Function.update_self]
    omega
  · rw [Function.update_of_ne same]
    exact small other

/-- What a run has made of the counters: each rose by the readings of its entry
above the limit, and by the messages queued for it. -/
def Counting (cJSON : CJson) (counts : Entry → Int) (module : AlertModule) : Prop :=
  (∃ document, cJSON.parse module.file = some document ∧
    HoldsCounters document fun entry => counts entry + module.alarms entry) ∧
    ∀ entry, module.messages entry = module.alarms entry

/-- The counters that rise are not negative, and none passes the greatest
`int`. -/
def Within (counts : Entry → Int) (module : AlertModule) : Prop :=
  ∀ entry, counts entry + module.alarms entry < 2 ^ 31 ∧
    (module.alarms entry ≠ 0 → 0 ≤ counts entry)

/-- A call adds its reading to the alarms of its entry if it is one. -/
theorem alarms_call
    (module : AlertModule) (temperature : Int) (entry : Entry) :
    (module.call cJSON temperature).alarms entry =
      module.alarms entry +
        if module.entry = entry ∧ HIGH_TEMPERATURE < temperature then 1 else 0 := by
  have log : (module.call cJSON temperature).log =
      module.log ++ [{ entry := module.entry, temperature }] := by
    unfold AlertModule.call AlertModule.simulateTemperatureSensor
    dsimp only
    split
    · rfl
    · rfl
  rw [AlertModule.alarms, log, List.countP_append, List.countP_singleton]
  simp [AlertModule.alarms, Reading.alarms]

/-- It adds a message for its entry in the same case. -/
theorem messages_call
    (module : AlertModule) (temperature : Int) (entry : Entry) :
    (module.call cJSON temperature).messages entry =
      module.messages entry +
        if module.entry = entry ∧ HIGH_TEMPERATURE < temperature then 1 else 0 := by
  unfold AlertModule.messages AlertModule.call AlertModule.simulateTemperatureSensor
  by_cases above : HIGH_TEMPERATURE < temperature
  · simp [Reading.alarms, above, List.countP_append, mentions_alertMessage, List.countP_cons]
  · simp [Reading.alarms, above]

/-- It writes the state file in the same case. -/
theorem file_call
    (module : AlertModule) (temperature : Int) :
    (module.call cJSON temperature).file =
      if HIGH_TEMPERATURE < temperature then
        (addEntryToJson cJSON .none module.entry.name module.file).file
      else module.file := by
  unfold AlertModule.call AlertModule.simulateTemperatureSensor
  by_cases above : HIGH_TEMPERATURE < temperature
  · simp [Reading.alarms, above]
  · simp [Reading.alarms, above]

theorem alarms_le_call
    (module : AlertModule) (temperature : Int) (entry : Entry) :
    module.alarms entry ≤ (module.call cJSON temperature).alarms entry := by
  rw [alarms_call]
  exact Nat.le_add_right _ _

theorem Within.of_le
    {counts : Entry → Int} {module later : AlertModule} (within : Within counts later)
    (fewer : ∀ entry, module.alarms entry ≤ later.alarms entry) : Within counts module := by
  intro entry
  obtain ⟨below, nonnegative⟩ := within entry
  have := fewer entry
  refine ⟨by omega, fun some => nonnegative ?_⟩
  omega

/-- The step lemma. -/
theorem Counting.call
    (lawful : cJSON.Lawful) {counts : Entry → Int} {module : AlertModule} {temperature : Int}
    (lower : ∀ entry, -2 ^ 31 ≤ counts entry) (counting : Counting cJSON counts module)
    (within : Within counts (module.call cJSON temperature)) :
    Counting cJSON counts (module.call cJSON temperature) := by
  obtain ⟨⟨document, parsed, holds⟩, same⟩ := counting
  refine ⟨?_, fun entry => by rw [messages_call, alarms_call, same]⟩
  have before := within.of_le fun entry => alarms_le_call module temperature entry
  by_cases above : HIGH_TEMPERATURE < temperature
  · obtain ⟨below, nonnegative⟩ := within module.entry
    have raised (entry : Entry) : (module.call cJSON temperature).alarms entry =
        module.alarms entry + if module.entry = entry then 1 else 0 := by
      rw [alarms_call]
      simp only [above, and_true]
    have own := raised module.entry
    rw [if_pos rfl] at own
    rw [own] at below nonnegative
    obtain ⟨count, isCount⟩ := Int.eq_ofNat_of_zero_le (nonnegative (Nat.succ_ne_zero _))
    have reached : counts module.entry + module.alarms module.entry =
        ((count + module.alarms module.entry : Nat) : Int) := by
      rw [isCount]
      rfl
    have small (other : Entry) : (counts other + module.alarms other).natAbs ≤ 2 ^ 53 := by
      have := lower other
      have := (before other).1
      omega
    obtain ⟨after, afterParsed, afterHolds⟩ :=
      holds.addEntryToJson lawful parsed module.entry reached (by omega) small
    refine ⟨after, by rw [file_call, if_pos above]; exact afterParsed, ?_⟩
    convert afterHolds using 1
    funext entry
    rw [raised]
    by_cases isEntry : entry = module.entry
    · subst isEntry
      simp only [if_pos, Function.update_self]
      omega
    · rw [Function.update_of_ne isEntry, if_neg (Ne.symm isEntry)]
      rfl
  · refine ⟨document, by rw [file_call, if_neg above]; exact parsed, ?_⟩
    convert holds using 1
    funext entry
    rw [alarms_call, if_neg fun both => above both.2]
    rfl

/-- The run lemma. -/
theorem Counting.foldl_call
    (lawful : cJSON.Lawful) {counts : Entry → Int} {module : AlertModule}
    (lower : ∀ entry, -2 ^ 31 ≤ counts entry) (temperatures : List Int)
    (counting : Counting cJSON counts module)
    (within : Within counts (temperatures.foldl (AlertModule.call cJSON) module)) :
    Counting cJSON counts (temperatures.foldl (AlertModule.call cJSON) module) := by
  induction temperatures using List.reverseRecOn with
  | nil => exact counting
  | append_singleton before temperature inductionHypothesis =>
      rw [List.foldl_concat] at within ⊢
      refine (inductionHypothesis (within.of_le fun entry => ?_)).call lawful lower within
      exact alarms_le_call _ temperature entry

/-- Nothing has been counted when the module starts. -/
theorem counting_start
    {file : Text} {document : Json} {counts : Entry → Int}
    (parsed : cJSON.parse file = some document) (holds : HoldsCounters document counts) :
    Counting cJSON counts (.start file) := by
  refine ⟨⟨document, parsed, ?_⟩, fun _ => rfl⟩
  simpa [AlertModule.alarms, AlertModule.start] using holds

/-- No run raises an alarm. -/
theorem alarms_runAlertModule (file : Text) (rands : List Rand) (entry : Entry) :
    ((AlertModule.start file).runAlertModule cJSON rands).alarms entry = 0 := by
  rw [AlertModule.runAlertModule, List.foldl_map]
  induction rands using List.reverseRecOn with
  | nil => rfl
  | append_singleton before rand inductionHypothesis =>
      rw [List.foldl_concat, alarms_call, inductionHypothesis, if_neg]
      intro both
      have quiet := alarms_getTemperature entry rand
      rw [Reading.alarms, decide_eq_false_iff_not] at quiet
      exact quiet both.2

section

variable
  (lawful : cJSON.Lawful) {file : Text} {document : Json} {counts : Entry → Int}
  (parsed : cJSON.parse file = some document) (holds : HoldsCounters document counts)
  (inInt : ∀ entry, -2 ^ 31 ≤ counts entry ∧ counts entry < 2 ^ 31)

include lawful parsed holds inInt

/-- A run counts its alarms, of which there are none. -/
theorem counting_runAlertModule (rands : List Rand) :
    Counting cJSON counts ((AlertModule.start file).runAlertModule cJSON rands) := by
  refine Counting.foldl_call lawful (fun entry => (inInt entry).1) _
    (counting_start parsed holds) fun entry => ?_
  have none := @alarms_runAlertModule cJSON file rands entry
  rw [AlertModule.runAlertModule] at none
  rw [none]
  exact ⟨by simpa using (inInt entry).2, fun some => absurd rfl some⟩

theorem countsAlarms : CountsAlarms cJSON file counts := by
  intro rands module _
  obtain ⟨⟨after, afterParsed, afterHolds⟩, same⟩ :=
    counting_runAlertModule lawful parsed holds inInt rands
  refine ⟨after, afterParsed, fun entry => ?_⟩
  have counted := (afterHolds.writable entry).2
  exact ⟨by rw [same]; exact counted, counted⟩

/-- The only increments a run leads to are none. -/
theorem raises_iff
    {increments : Entry → Nat}
    (room : ∀ entry, counts entry + increments entry < 2 ^ 31) :
    Raises cJSON file counts increments ↔ ∀ entry, increments entry = 0 := by
  constructor
  · rintro ⟨rands, after, afterParsed, raised⟩ entry
    obtain ⟨⟨other, otherParsed, otherHolds⟩, _⟩ :=
      counting_runAlertModule lawful parsed holds inInt rands
    obtain rfl := Option.some.inj (otherParsed.symm.trans afterParsed)
    have counted := (otherHolds.writable entry).2
    rw [alarms_runAlertModule, raised, Option.some.injEq, Json.number.injEq] at counted
    have := room entry
    have := inInt entry
    have same := Binary64.ofInt_injective (by omega) (by omega) counted
    omega
  · intro none
    refine ⟨[], document, parsed, fun entry => ?_⟩
    rw [(holds.writable entry).2, none]
    simp

/-- Alarms are counted in every run, and a vector of increments is attained
exactly when it is zero. -/
theorem counts_and_raises_iff :
    CountsAlarms cJSON file counts ∧
      ∀ increments : Entry → Nat, (∀ entry, counts entry + increments entry < 2 ^ 31) →
        (Raises cJSON file counts increments ↔ ∀ entry, increments entry = 0) :=
  ⟨countsAlarms lawful parsed holds inInt, fun _ => raises_iff lawful parsed holds inInt⟩

end

end

/-! ## Counters that stay -/

/-- Earlier alerts at three of the entries. -/
def quietCounts : Entry → Int
  | .north => 5
  | .east => 2
  | .west => 0
  | .south => 7

/-- A document with those counters. -/
def quietDocument : Json :=
  .object [(K_ALERTS, .object
    [(NORT_ENTRY, .number (.ofInt 5)), (EAST_ENTRY, .number (.ofInt 2)),
      (WEST_ENTRY, .number (.ofInt 0)), (SOUTH_ENTRY, .number (.ofInt 7))])]

private theorem holdsCounters_quietDocument : HoldsCounters quietDocument quietCounts := by
  refine ⟨_, _, rfl, List.nodup_singleton _, rfl, by decide, fun entry => ?_⟩
  cases entry <;> rfl

private theorem inInt_quietCounts (entry : Entry) :
    -2 ^ 31 ≤ quietCounts entry ∧ quietCounts entry < 2 ^ 31 := by
  cases entry <;> decide

private theorem parse_quietDocument :
    CJson.reference.parse (CJson.reference.print quietDocument) = some quietDocument := by
  refine CJson.reference_lawful.parse_print_of_finite ?_
  have whole : ∀ count : Int, count.natAbs ≤ 2 ^ 53 → (Binary64.ofInt count).isFinite = true :=
    fun count small => Binary64.isFinite_ofInt small
  simp [quietDocument, Json.FiniteMembers, Json.Finite, whole]

/-- Its alarms are counted, and it can stay as it is. -/
theorem counts_and_raises_none :
    CountsAlarms .reference (CJson.reference.print quietDocument) quietCounts ∧
      Raises .reference (CJson.reference.print quietDocument) quietCounts fun _ => 0 := by
  obtain ⟨counted, raised⟩ := counts_and_raises_iff CJson.reference_lawful parse_quietDocument
    holdsCounters_quietDocument inInt_quietCounts
  refine ⟨counted, (raised _ fun entry => ?_).mpr fun _ => rfl⟩
  simpa using (inInt_quietCounts entry).2

/-- No alert is ever raised at the north entry. -/
theorem not_raises_north :
    ¬Raises .reference (CJson.reference.print quietDocument) quietCounts
      (Pi.single Entry.north 1) := by
  rw [raises_iff CJson.reference_lawful parse_quietDocument holdsCounters_quietDocument
    inInt_quietCounts]
  · intro none
    exact Nat.one_ne_zero (none .north)
  · intro entry
    cases entry <;> decide

end Refuge
