import Refuge.State
import Refuge.Foundation.LastWrite
import Refuge.Json.Reference

/-!
# The processes that share the state file

Admin connections, the alert module and the emergency processes update one
file.  An update reads the whole file, edits its copy and writes the whole
copy back, and the steps of different processes interleave freely: the
semaphore an admin process takes is initialised with `pshared` 0 in an
ordinary global before the forks, so every process has one of its own and
never waits for another.
-/

namespace Refuge

open Foundation

/-- What a process does. -/
inductive Role
  | admin
  | alert
  | emergency
  deriving DecidableEq

/-- The updates a process of this role makes: `set_and_send_suply_status`,
`add_entry_to_json` and `add_event_to_json`. -/
def Role.makes : Role → Update → Bool
  | .admin, .setSupply .. => true
  | .alert, .addEntry _ => true
  | .emergency, .addEvent .. => true
  | _, _ => false

/-- How far a process is in its update. -/
inductive Phase
  | idle
  | started (update : Update)
  /-- The file is read; `seen` updates had completed by then. -/
  | read (update : Update) (buffer : Text) (seen : Nat)
  | returned (code : Int)
  | ended

/-- A process with its own copy of `mutex_state`. -/
structure Process where
  mutexState : Nat
  phase : Phase

/-- The processes, their file, and the updates that returned 0 so far. -/
structure System (Pid : Type) where
  file : Text
  process : Pid → Process
  completed : List Update

/-- A step of one process. -/
inductive Action
  | start (update : Update)
  | read
  | write
  | finish

section

variable {Pid : Type} [DecidableEq Pid]

/-- Replace one process. -/
def System.setProcess (system : System Pid) (pid : Pid) (process : Process) : System Pid :=
  { system with process := Function.update system.process pid process }

variable (cJSON : CJson) (role : Pid → Role)

/-- One step of one process. -/
def System.step (system : System Pid) : Pid × Action → Option (System Pid)
  | (pid, .start update) =>
      let process := system.process pid
      match process.phase with
      | .idle =>
          if (role pid).makes update then
            -- Only the admin processes call `sem_wait`.
            if role pid = .admin then
              if 0 < process.mutexState then
                some (system.setProcess pid
                  { mutexState := process.mutexState - 1, phase := .started update })
              else none
            else some (system.setProcess pid { process with phase := .started update })
          else none
      | _ => none
  | (pid, .read) =>
      let process := system.process pid
      match process.phase with
      | .started update =>
          match readFile .none system.file with
          | .error _ => some (system.setProcess pid { process with phase := .returned 1 })
          | .ok buffer =>
              some (system.setProcess pid
                { process with phase := .read update buffer system.completed.length })
      | _ => none
  | (pid, .write) =>
      let process := system.process pid
      match process.phase with
      | .read update buffer _ =>
          match update.edit cJSON buffer with
          | .error _ => some (system.setProcess pid { process with phase := .returned 1 })
          | .ok text =>
              let (code, file) := writeFile .none system.file text
              some
                { (system.setProcess pid { process with phase := .returned code }) with
                  file
                  completed :=
                    if code = 0 then system.completed ++ [update] else system.completed }
      | _ => none
  | (pid, .finish) =>
      let process := system.process pid
      match process.phase with
      | .returned code =>
          if role pid = .admin then
            -- A failed update ends the admin process, after `sem_post`.
            some (system.setProcess pid
              { mutexState := process.mutexState + 1
                phase := if code = 0 then .idle else .ended })
          else some (system.setProcess pid { process with phase := .idle })
      | _ => none

end

/-- Every process is idle and its semaphore is at 1. -/
def System.Fresh {Pid : Type} (system : System Pid) : Prop :=
  (∀ pid, system.process pid = { mutexState := 1, phase := .idle }) ∧
    system.completed = []

/-! ## What a step can do -/

/-- Between `sem_wait` and `sem_post`. -/
def Phase.busy : Phase → Bool
  | .started _ => true
  | .read .. => true
  | .returned _ => true
  | _ => false

/-- The semaphore of an admin process is taken exactly while it is busy; the
other processes never take theirs. -/
def HoldsOwn (role : Role) (process : Process) : Prop :=
  process.mutexState = if role = .admin ∧ process.phase.busy then 0 else 1

section

variable {Pid : Type} [DecidableEq Pid] {cJSON : CJson} {role : Pid → Role}

@[simp] theorem System.setProcess_file
    (system : System Pid) (pid : Pid) (process : Process) :
    (system.setProcess pid process).file = system.file := rfl

@[simp] theorem System.setProcess_completed
    (system : System Pid) (pid : Pid) (process : Process) :
    (system.setProcess pid process).completed = system.completed := rfl

theorem System.setProcess_process
    (system : System Pid) (pid : Pid) (process : Process) (other : Pid) :
    (system.setProcess pid process).process other =
      if other = pid then process else system.process other := by
  simp [System.setProcess, Function.update_apply]

/-- A step changes the phase of its process, which has read the file if it is
now in the reading phase, and keeps its semaphore as its phase demands; or it
is a write whose edit succeeded. -/
theorem System.step_cases
    {system next : System Pid} {pid : Pid} {action : Action}
    (stepped : system.step cJSON role (pid, action) = some next) :
    (∃ process, next = system.setProcess pid process ∧
      (HoldsOwn (role pid) (system.process pid) → HoldsOwn (role pid) process) ∧
        ∀ update buffer seen, process.phase = .read update buffer seen →
          buffer = system.file ∧ seen = system.completed.length) ∨
    ∃ update buffer seen text,
      action = .write ∧ (system.process pid).phase = .read update buffer seen ∧
        update.edit cJSON buffer = .ok text ∧
          next =
            { (system.setProcess pid
                { system.process pid with
                  phase := .returned (writeFile .none system.file text).1 }) with
              file := (writeFile .none system.file text).2
              completed :=
                if (writeFile .none system.file text).1 = 0 then
                  system.completed ++ [update]
                else system.completed } := by
  cases action with
  | start update =>
      simp only [System.step] at stepped
      cases phase : (system.process pid).phase with
      | idle =>
          simp only [phase] at stepped
          split_ifs at stepped <;>
            refine .inl ⟨_, (Option.some.inj stepped).symm, fun own => ?_, by simp⟩ <;>
              simp_all [HoldsOwn, Phase.busy]
      | _ => simp [phase] at stepped
  | read =>
      simp only [System.step] at stepped
      cases phase : (system.process pid).phase with
      | started update =>
          simp only [phase] at stepped
          cases read : readFile .none system.file with
          | error code =>
              simp only [read] at stepped
              refine .inl ⟨_, (Option.some.inj stepped).symm, fun own => ?_, by simp⟩
              simp_all [HoldsOwn, Phase.busy]
          | ok buffer =>
              simp only [read] at stepped
              refine .inl ⟨_, (Option.some.inj stepped).symm, fun own => ?_, ?_⟩
              · simp_all [HoldsOwn, Phase.busy]
              intro update' buffer' seen same
              obtain ⟨rfl, rfl, rfl⟩ := Phase.read.inj same
              exact ⟨(readFile_eq_ok read).1, rfl⟩
      | _ => simp [phase] at stepped
  | write =>
      simp only [System.step] at stepped
      cases phase : (system.process pid).phase with
      | read update buffer seen =>
          simp only [phase] at stepped
          cases edited : update.edit cJSON buffer with
          | error code =>
              simp only [edited] at stepped
              refine .inl ⟨_, (Option.some.inj stepped).symm, fun own => ?_, by simp⟩
              simp_all [HoldsOwn, Phase.busy]
          | ok text =>
              simp only [edited] at stepped
              exact .inr ⟨update, buffer, seen, text, rfl, rfl, edited,
                (Option.some.inj stepped).symm⟩
      | _ => simp [phase] at stepped
  | finish =>
      simp only [System.step] at stepped
      cases phase : (system.process pid).phase with
      | returned code =>
          simp only [phase] at stepped
          split_ifs at stepped <;>
            refine .inl ⟨_, (Option.some.inj stepped).symm, fun own => ?_, by simp⟩ <;>
              simp_all [HoldsOwn, Phase.busy]
      | _ => simp [phase] at stepped

/-! ## Runs without stale writes -/

/-- The value an update leaves at a supply or an emergency entry. -/
def Update.stored : Update → Json
  | .setSupply _ _ value => (storedValue value).reprint
  | .addEvent _ value => (storedValue value).reprint
  | .addEntry _ => .null

/-- Overwriting an update loses nothing: it wrote the same supply or the same
emergency entry. -/
def Update.Supersedes (update other : Update) : Prop :=
  other.target = update.target ∧ other.part ≠ .alerts

/-- A write that is not stale: every update that completed since its process
read the file is one the write supersedes.  The names on the way to its entry
are hit exactly, and a counter is not at its limit. -/
def Undisturbed (cJSON : CJson) (system : System Pid) (event : Pid × Action) : Prop :=
  ∀ update buffer seen text document,
    event.2 = .write → (system.process event.1).phase = .read update buffer seen →
      update.edit cJSON buffer = .ok text → cJSON.parse buffer = some document →
        (∀ other ∈ system.completed.drop seen, update.Supersedes other) ∧
          Json.HitsAlong update.target document ∧ update.InRange document

/-- A document of the shape shows what the completed updates made of the
initial one. -/
structure Shows (initial : Json) (completed : List Update) (document : Json) : Prop where
  shaped : StateShaped document
  finite : document.Finite
  counts : ∀ entry (count : Nat), count < 2 ^ 31 →
    Json.path [K_ALERTS, entry] initial = some (.number (.ofInt count)) →
      count + completed.count (.addEntry entry) < 2 ^ 31 ∧
        Json.path [K_ALERTS, entry] document =
          some (.number (.ofInt (count + completed.count (.addEntry entry) : Nat)))
  entries : ∀ update : Update, update.part ≠ .alerts →
    Json.path update.target document =
      (lastWrite Update.target Update.stored update.target completed).or
        (Json.path update.target initial)

/-- What a process has read agrees with the file, as long as the updates that
completed since are superseded by its own. -/
def UpToDate
    (cJSON : CJson) (completed : List Update) (document : Json) (process : Process) : Prop :=
  ∀ update buffer seen, process.phase = .read update buffer seen →
    seen ≤ completed.length ∧
      ∃ copy, cJSON.parse buffer = some copy ∧ StateShaped copy ∧ copy.Finite ∧
        ((∀ other ∈ completed.drop seen, update.Supersedes other) →
          ∀ other : Update, update.target ≠ other.target ∨ update.part = .alerts →
            Json.path other.target copy = Json.path other.target document)

/-- The invariant of runs without stale writes. -/
def Consistent (cJSON : CJson) (initial : Json) (system : System Pid) : Prop :=
  ∃ document, cJSON.parse system.file = some document ∧
    Shows initial system.completed document ∧
      ∀ pid, UpToDate cJSON system.completed document (system.process pid)

theorem Update.target_eq_addEntry_iff (update : Update) (entry : Text) :
    update.target = [K_ALERTS, entry] ↔ update = .addEntry entry := by
  cases update with
  | addEntry other => simp [target]
  | setSupply category key value => simp [target]
  | addEvent key value =>
      simp only [target, List.cons.injEq, reduceCtorEq, iff_false, not_and]
      intro same
      exact absurd same (by decide)

/-- Reading the file keeps the invariant: the copy is the file. -/
theorem Consistent.setProcess
    {initial : Json} {system : System Pid} (consistent : Consistent cJSON initial system)
    (pid : Pid) {process : Process}
    (reads : ∀ update buffer seen, process.phase = .read update buffer seen →
      buffer = system.file ∧ seen = system.completed.length) :
    Consistent cJSON initial (system.setProcess pid process) := by
  obtain ⟨document, parsed, shows, upToDate⟩ := consistent
  refine ⟨document, parsed, shows, fun other => ?_⟩
  rw [System.setProcess_process]
  split
  · intro update buffer seen phase
    obtain ⟨rfl, rfl⟩ := reads update buffer seen phase
    exact ⟨le_rfl, document, parsed, shows.shaped, shows.finite, fun _ _ _ => rfl⟩
  · exact upToDate other

/-- What an update other than a count leaves at its entry is its stored value. -/
theorem Update.reprint_newValue
    {update : Update} {document value : Json} (notCount : update.part ≠ .alerts)
    (stores : update.newValue cJSON document = some value) :
    value.reprint = update.stored := by
  cases update with
  | addEntry entry => exact absurd rfl notCount
  | setSupply category key text => exact congrArg Json.reprint (Option.some.inj stores).symm
  | addEvent key text => exact congrArg Json.reprint (Option.some.inj stores).symm

/-- Writing one entry, from a copy that agrees with the document on it if it is
a counter, keeps what the document shows. -/
theorem Shows.write
    {initial document copy written value : Json} {completed : List Update} {update : Update}
    (shows : Shows initial completed document)
    (shaped : StateShaped written) (finite : written.Finite)
    (stores : update.newValue cJSON copy = some value)
    (inRange : update.InRange copy)
    (agrees : update.part = .alerts →
      Json.path update.target copy = Json.path update.target document)
    (self : Json.path update.target written = some value.reprint)
    (others : ∀ other : Update, update.target ≠ other.target →
      Json.path other.target written = Json.path other.target document) :
    Shows initial (completed ++ [update]) written := by
  refine ⟨shaped, finite, ?_, ?_⟩
  · intro entry count countSmall initially
    obtain ⟨bound, before⟩ := shows.counts entry count countSmall initially
    rw [List.count_append]
    by_cases same : update = .addEntry entry
    · subst same
      have copied : Json.path [K_ALERTS, entry] copy = _ := (agrees rfl).trans before
      have small := inRange.succ_lt rfl bound copied
      rw [Update.newValue_addEntry copied small] at stores
      obtain rfl := Option.some.inj stores
      rw [show [K_ALERTS, entry] = (Update.addEntry entry).target from rfl, self,
        reprint_number_ofInt (by simp; omega), List.count_singleton_self, ← Nat.add_assoc]
      exact ⟨small, rfl⟩
    · have different : update.target ≠ (Update.addEntry entry).target := by
        intro sameTarget
        exact same ((update.target_eq_addEntry_iff entry).mp sameTarget)
      rw [show [K_ALERTS, entry] = (Update.addEntry entry).target from rfl,
        others _ different, List.count_singleton, beq_eq_false_iff_ne.mpr same]
      exact ⟨bound, before⟩
  · intro other notCount
    rw [lastWrite_append, lastWrite_cons, lastWrite_nil, Option.none_or]
    split
    · rename_i same
      have isSupply : update.part ≠ .alerts := by
        intro isCount
        obtain ⟨entry, rfl⟩ := update.part_eq_alerts_iff.mp isCount
        have otherCounts := (other.target_eq_addEntry_iff entry).mp same.symm
        exact notCount (otherCounts ▸ rfl)
      rw [← same, self, Update.reprint_newValue isSupply stores]
      rfl
    · rename_i different
      rw [others _ different, shows.entries other notCount, Option.none_or]

/-- A process that waits stays up to date when another update completes. -/
theorem UpToDate.write
    {document written : Json} {completed : List Update} {update : Update} {process : Process}
    (upToDate : UpToDate cJSON completed document process)
    (others : ∀ other : Update, update.target ≠ other.target →
      Json.path other.target written = Json.path other.target document) :
    UpToDate cJSON (completed ++ [update]) written process := by
  intro waiting buffer seen phase
  obtain ⟨seenBound, copy, parsed, shaped, finite, agrees⟩ := upToDate waiting buffer seen phase
  refine ⟨by rw [List.length_append]; omega, copy, parsed, shaped, finite, ?_⟩
  intro supersedes other differs
  rw [List.drop_append_of_le_length seenBound] at supersedes
  obtain ⟨sameTarget, notCount⟩ :=
    supersedes update (List.mem_append_right _ List.mem_cons_self)
  have before := agrees
    (fun earlier present => supersedes earlier (List.mem_append_left _ present)) other differs
  rw [before]
  refine (others other ?_).symm
  rcases differs with different | isCount
  · rwa [sameTarget]
  · exfalso
    obtain ⟨entry, rfl⟩ := waiting.part_eq_alerts_iff.mp isCount
    exact notCount (by rw [(update.target_eq_addEntry_iff entry).mp sameTarget]; rfl)

/-- The step lemma: a step that is not a stale write keeps the invariant. -/
theorem Consistent.step
    (lawful : cJSON.Lawful) {initial : Json} {system next : System Pid}
    {event : Pid × Action}
    (consistent : Consistent cJSON initial system)
    (undisturbed : Undisturbed cJSON system event)
    (stepped : system.step cJSON role event = some next) :
    Consistent cJSON initial next := by
  obtain ⟨pid, action⟩ := event
  rcases System.step_cases stepped with
    ⟨process, rfl, _, reads⟩ | ⟨update, buffer, seen, text, rfl, phase, edits, rfl⟩
  · exact consistent.setProcess pid reads
  · obtain ⟨document, parsed, shows, upToDate⟩ := consistent
    obtain ⟨_, copy, parsedCopy, shaped, finite, agrees⟩ := upToDate pid update buffer seen phase
    obtain ⟨supersedes, hits, inRange⟩ :=
      undisturbed update buffer seen text copy rfl phase edits parsedCopy
    obtain ⟨value, written, stores, parsedWritten, shapedWritten, finiteWritten, paths⟩ :=
      Update.edit_spec lawful parsedCopy shaped finite hits inRange edits
    have nonempty := lawful.ne_nil_of_parse parsedWritten
    have others (other : Update) (different : update.target ≠ other.target) :
        Json.path other.target written = Json.path other.target document := by
      rw [paths, if_neg different]
      exact agrees supersedes other (.inl different)
    rw [writeFile_none _ nonempty, if_pos rfl]
    refine ⟨written, parsedWritten, ?_, fun other => ?_⟩
    · refine shows.write shapedWritten finiteWritten stores inRange (fun isCount => ?_) ?_ others
      · exact agrees supersedes update (.inr isCount)
      · rw [paths, if_pos rfl]
    · change UpToDate cJSON _ written ((system.setProcess pid _).process other)
      rw [System.setProcess_process]
      split
      · intro update' buffer' seen' reading
        simp at reading
      · exact (upToDate other).write others

/-- In every run of the processes without stale writes, every completed update
is in the file: the counters have counted every increment, and every supply
and emergency entry holds what the last completed update wrote to it. -/
theorem completed_updates_kept
    (lawful : cJSON.Lawful)
    {system final : System Pid} {events : List (Pid × Action)} {document : Json}
    (fresh : system.Fresh)
    (parsed : cJSON.parse system.file = some document)
    (shaped : StateShaped document) (finite : document.Finite)
    (undisturbed : Along (System.step cJSON role) (Undisturbed cJSON) system events)
    (reached : run (System.step cJSON role) system events = some final) :
    ∃ last, cJSON.parse final.file = some last ∧ StateShaped last ∧
      (∀ entry (count : Nat), count < 2 ^ 31 →
        Json.path [K_ALERTS, entry] document = some (.number (.ofInt count)) →
          Json.path [K_ALERTS, entry] last =
            some (.number (.ofInt (count + final.completed.count (.addEntry entry) : Nat)))) ∧
      ∀ update : Update, update.part ≠ .alerts →
        Json.path update.target last =
          (lastWrite Update.target Update.stored update.target final.completed).or
            (Json.path update.target document) := by
  have initially : Consistent cJSON document system := by
    refine ⟨document, parsed, ?_, fun pid => ?_⟩
    · rw [fresh.2]
      exact ⟨shaped, finite, fun _ _ small found => ⟨by simpa using small, by simpa using found⟩,
        by simp⟩
    · intro update buffer seen reading
      rw [fresh.1 pid] at reading
      simp at reading
  obtain ⟨last, parsedLast, shows, _⟩ :=
    run_invariant (fun _ _ _ => Consistent.step lawful) initially undisturbed reached
  exact ⟨last, parsedLast, shows.shaped,
    fun entry count small found => (shows.counts entry count small found).2, shows.entries⟩

/-! ## The semaphore -/

/-- Every process keeps its own semaphore. -/
theorem HoldsOwn.step
    {system next : System Pid} {event : Pid × Action}
    (holds : ∀ pid, HoldsOwn (role pid) (system.process pid))
    (stepped : system.step cJSON role event = some next) (other : Pid) :
    HoldsOwn (role other) (next.process other) := by
  obtain ⟨pid, action⟩ := event
  have kept {process : Process} (own : HoldsOwn (role pid) process) :
      HoldsOwn (role other) ((system.setProcess pid process).process other) := by
    rw [System.setProcess_process]
    split
    · rename_i same
      exact same ▸ own
    · exact holds other
  rcases System.step_cases stepped with
    ⟨process, rfl, keeps, _⟩ | ⟨update, buffer, seen, text, rfl, phase, _, rfl⟩
  · exact kept (keeps (holds pid))
  · apply kept
    have before := holds pid
    rw [HoldsOwn, phase] at before
    exact before

/-- The semaphore excludes nothing: in every state the processes can reach, an
idle process can start an update, whatever the others are doing. -/
theorem start_of_idle
    {system final : System Pid} {events : List (Pid × Action)}
    (fresh : system.Fresh)
    (reached : run (System.step cJSON role) system events = some final)
    {pid : Pid} {update : Update}
    (idle : (final.process pid).phase = .idle) (makes : (role pid).makes update = true) :
    ∃ next, final.step cJSON role (pid, .start update) = some next := by
  have initially (pid : Pid) : HoldsOwn (role pid) (system.process pid) := by
    rw [fresh.1 pid]
    simp [HoldsOwn, Phase.busy]
  have preserved (before : System Pid) (event : Pid × Action) (next : System Pid)
      (holds : ∀ pid, HoldsOwn (role pid) (before.process pid))
      (stepped : before.step cJSON role event = some next) :
      ∀ pid, HoldsOwn (role pid) (next.process pid) :=
    HoldsOwn.step holds stepped
  have own := run_preserved preserved initially reached pid
  rw [HoldsOwn, idle] at own
  simp only [System.step, idle, makes, ↓reduceIte, own, Phase.busy]
  split_ifs <;> simp_all

end

/-! ## A lost count -/

/-- A document with one supply, one alert counter and no emergency entry. -/
def northState : Json :=
  .object [(SUPPLIES, .object [("food".toList, .object [("water".toList, .number (.ofInt 1))])]),
    (K_ALERTS, .object [("NORTH".toList, .number (.ofInt 0))]),
    (K_EMERGENCY, .object [])]

def countNorth : Update := .addEntry "NORTH".toList
def setWater : Update := .setSupply "food".toList "water".toList (decimal 5)

theorem stateShaped_northState : StateShaped northState := by
  intro part
  refine ⟨by decide, ?_⟩
  cases part with
  | supplies =>
      refine ⟨_, rfl, by simp [Members.names], ?_⟩
      simp [Part.MemberKind, Members.names]
  | alerts =>
      refine ⟨_, rfl, by simp [Members.names], ?_⟩
      intro member present
      obtain rfl := List.mem_singleton.mp present
      exact ⟨0, by decide, rfl⟩
  | emergency => exact ⟨_, rfl, by simp [Members.names], by simp⟩

theorem finite_northState : northState.Finite := by
  simp [northState, Json.FiniteMembers, Json.Finite]

theorem path_northState :
    Json.path [K_ALERTS, "NORTH".toList] northState = some (.number (.ofInt (0 : Nat))) := rfl

theorem path_northState_ne :
    Json.path [K_ALERTS, "NORTH".toList] northState ≠
      some (.number (.ofInt (2 ^ 31 - 1 : Nat))) := by
  rw [path_northState]
  intro same
  have equal := Binary64.ofInt_injective (by decide) (by decide)
    (Json.number.inj (Option.some.inj same))
  exact absurd equal (by decide)

theorem newValue_countNorth (cJSON : CJson) :
    countNorth.newValue cJSON northState = some (.number (.ofInt 1)) :=
  Update.newValue_addEntry path_northState (by decide)

theorem reaches_countNorth : Json.Reaches countNorth.target northState :=
  fun _ => ⟨_, rfl, fun proper => absurd rfl proper⟩

theorem reaches_setWater : Json.Reaches setWater.target northState :=
  fun _ => ⟨_, rfl, fun _ => ⟨_, rfl, fun proper => absurd rfl proper⟩⟩

theorem hitsAlong_countNorth : Json.HitsAlong countNorth.target northState := by
  refine ⟨Members.FoldDistinct.hitsExact (by decide) _, fun child found => ?_⟩
  obtain rfl : Json.object [("NORTH".toList, .number (.ofInt 0))] = child :=
    Option.some.inj found
  exact ⟨Members.hitsExact_singleton _ _ _, by simp⟩

theorem hitsAlong_setWater : Json.HitsAlong setWater.target northState := by
  refine ⟨Members.FoldDistinct.hitsExact (by decide) _, fun child found => ?_⟩
  obtain rfl : Json.object [("food".toList, .object [("water".toList, .number (.ofInt 1))])] =
    child := Option.some.inj found
  refine ⟨Members.hitsExact_singleton _ _ _, fun child found => ?_⟩
  obtain rfl : Json.object [("water".toList, .number (.ofInt 1))] = child := Option.some.inj found
  exact ⟨Members.hitsExact_singleton _ _ _, by simp⟩

/-- The alert process and one admin process. -/
def alertAndAdmin : Bool → Role
  | true => .alert
  | false => .admin

/-- Both idle, with the document in the file. -/
def northSystem (cJSON : CJson) : System Bool where
  file := cJSON.print northState
  process := fun _ => { mutexState := 1, phase := .idle }
  completed := []

private theorem alertAndAdmin_makes : (alertAndAdmin true).makes countNorth = true := rfl

private theorem admin_makes : Role.admin.makes setWater = true := rfl

private theorem alertAndAdmin_true_ne : alertAndAdmin true ≠ .admin := by decide

private theorem alertAndAdmin_false : alertAndAdmin false = .admin := rfl

/-- The count is made in the text of the document. -/
private theorem exists_edit_countNorth :
    ∃ counted, countNorth.edit .reference (CJson.reference.print northState) =
      .ok (CJson.reference.print (.object counted)) := by
  have parsed := CJson.reference_lawful.parse_print_of_finite finite_northState
  obtain ⟨counted, countEdit, _⟩ := Update.edits_edit CJson.reference_lawful countNorth
    reaches_countNorth (newValue_countNorth _) _ parsed
  exact ⟨counted, countEdit⟩

/-- Both read the file before either writes it. -/
def bothRead : List (Bool × Action) :=
  [(true, .start countNorth), (false, .start setWater), (true, .read), (false, .read),
    (true, .write), (false, .write)]

/-- Both updates return 0, and the count of the alert process is lost. -/
theorem completed_update_lost :
    (northSystem .reference).Fresh ∧
      CJson.reference.parse (northSystem .reference).file = some northState ∧
        StateShaped northState ∧ northState.Finite ∧
          ∃ final last,
            run (System.step .reference alertAndAdmin) (northSystem .reference) bothRead =
                some final ∧
              final.completed = [countNorth, setWater] ∧
                CJson.reference.parse final.file = some last ∧
                  Json.path [K_ALERTS, "NORTH".toList] northState =
                      some (.number (.ofInt 0)) ∧
                    Json.path [K_ALERTS, "NORTH".toList] last =
                      some (.number (.ofInt 0)) := by
  have lawful := CJson.reference_lawful
  have parsed := lawful.parse_print_of_finite finite_northState
  obtain ⟨counted, countEdit⟩ := exists_edit_countNorth
  obtain ⟨set, setEdit, _⟩ := Update.edits_edit lawful setWater
    reaches_setWater rfl _ parsed
  obtain ⟨value, last, _, parsedLast, _, _, paths⟩ :=
    Update.edit_spec lawful parsed stateShaped_northState finite_northState
      hitsAlong_setWater (fun isCount => nomatch isCount) setEdit
  have nonempty := lawful.print_ne_nil
  refine ⟨⟨fun _ => rfl, rfl⟩, parsed, stateShaped_northState, finite_northState,
    { file := CJson.reference.print (.object set)
      process := fun pid => { mutexState := if pid then 1 else 0, phase := .returned 0 }
      completed := [countNorth, setWater] }, last, ?_, rfl, parsedLast, rfl, ?_⟩
  · simp [bothRead, System.step, northSystem, System.setProcess, alertAndAdmin_makes,
      admin_makes, alertAndAdmin_true_ne, alertAndAdmin_false, nonempty, countEdit, setEdit]
    funext pid
    cases pid <;> rfl
  · exact (paths countNorth).trans (by rw [if_neg (by decide)]; rfl)

/-- The alert process updates the file while the admin process waits. -/
def alertAlone : List (Bool × Action) :=
  [(true, .start countNorth), (false, .start setWater), (true, .read), (true, .write)]

private theorem run_alertAlone
    {counted : List (Text × Json)}
    (countEdit : countNorth.edit .reference (CJson.reference.print northState) =
      .ok (CJson.reference.print (.object counted))) :
    run (System.step .reference alertAndAdmin) (northSystem .reference) alertAlone = some
      { file := CJson.reference.print (.object counted)
        process := fun pid =>
          if pid then { mutexState := 1, phase := .returned 0 }
          else { mutexState := 0, phase := .started setWater }
        completed := [countNorth] } := by
  simp [alertAlone, System.step, northSystem, System.setProcess, alertAndAdmin_makes,
    admin_makes, alertAndAdmin_true_ne, alertAndAdmin_false,
    CJson.reference_lawful.print_ne_nil, countEdit]
  funext pid
  cases pid <;> rfl

/-- The one write finds the file as it was read. -/
private theorem undisturbed_alertAlone :
    Along (System.step .reference alertAndAdmin) (Undisturbed .reference)
      (northSystem .reference) alertAlone := by
  have notWriting {system : System Bool} {event : Bool × Action} (other : event.2 ≠ .write) :
      Undisturbed .reference system event :=
    fun _ _ _ _ _ writes => absurd writes other
  refine ⟨notWriting nofun, fun first stepped => ⟨notWriting nofun, fun second stepped' =>
    ⟨notWriting nofun, fun third stepped'' => ⟨?_, fun _ _ => along_nil _ _ _⟩⟩⟩⟩
  simp [System.step, northSystem, System.setProcess, alertAndAdmin_makes,
    alertAndAdmin_true_ne] at stepped
  subst stepped
  simp [System.step, System.setProcess, admin_makes, alertAndAdmin_false] at stepped'
  subst stepped'
  simp [System.step, System.setProcess, CJson.reference_lawful.print_ne_nil] at stepped''
  subst stepped''
  intro update buffer seen text document _ phase _ parsedBuffer
  obtain ⟨rfl, rfl, rfl⟩ : countNorth = update ∧ CJson.reference.print northState = buffer ∧
      0 = seen := by simpa using phase
  have parsed := CJson.reference_lawful.parse_print_of_finite finite_northState
  obtain rfl := Option.some.inj (parsed.symm.trans parsedBuffer)
  exact ⟨by simp, hitsAlong_countNorth, fun _ => path_northState_ne⟩

/-- Without a stale write the count is kept. -/
theorem completed_updates_kept_north :
    ∃ final last,
      run (System.step .reference alertAndAdmin) (northSystem .reference) alertAlone =
          some final ∧
        CJson.reference.parse final.file = some last ∧
          Json.path [K_ALERTS, "NORTH".toList] last = some (.number (.ofInt 1)) := by
  have lawful := CJson.reference_lawful
  have parsed := lawful.parse_print_of_finite finite_northState
  obtain ⟨counted, countEdit⟩ := exists_edit_countNorth
  have reached := run_alertAlone countEdit
  have fresh : (northSystem .reference).Fresh := ⟨fun _ => rfl, rfl⟩
  obtain ⟨last, parsedLast, _, counts, _⟩ :=
    completed_updates_kept lawful fresh parsed stateShaped_northState
      finite_northState undisturbed_alertAlone reached
  have once : [countNorth].count (.addEntry "NORTH".toList) = 1 := by decide
  have counted := counts "NORTH".toList 0 (by decide) path_northState
  rw [once] at counted
  exact ⟨_, last, reached, parsedLast, counted⟩

end Refuge
