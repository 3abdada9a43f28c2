import Refuge.StateFile
import Refuge.Foundation.Run
import Mathlib.Logic.Function.Basic

/-!
# Readers and writers of one file

`read_file` opens the file, measures it and reads that many bytes;
`write_file` truncates it on opening and puts its buffer at the start.  The
steps of calls in different processes interleave freely.  A reader that
measures between the two steps of a writer finds nothing, and one that reads
after the file has grown gets a part of it.
-/

namespace Refuge

open Foundation

/-- How far a process is in a call of `read_file` or `write_file`. -/
inductive FilePhase
  | idle
  /-- `read_file` has opened the file. -/
  | opened
  /-- `read_file` has found the size. -/
  | measured (fsize : Nat)
  /-- `write_file` has opened the file. -/
  | truncated (buffer : Text)
  deriving DecidableEq

/-- The file, how far every process is, the buffers given to calls of
`write_file` that opened the file, and what the completed calls of `read_file`
returned. -/
structure SharedFile (Pid : Type) where
  file : Text
  phase : Pid → FilePhase
  given : List Text
  returned : List (Except Int Text)

/-- A step of one call. -/
inductive FileAction
  | openRead
  | measure
  | read
  | openWrite (buffer : Text)
  | put
  deriving DecidableEq

namespace SharedFile

section

variable {Pid : Type} [DecidableEq Pid]

/-- Move one process on. -/
def setPhase (shared : SharedFile Pid) (pid : Pid) (phase : FilePhase) : SharedFile Pid :=
  { shared with phase := Function.update shared.phase pid phase }

/-- One step of one process. -/
def step (shared : SharedFile Pid) : Pid × FileAction → Option (SharedFile Pid)
  | (pid, .openRead) =>
      match shared.phase pid with
      | .idle => some (shared.setPhase pid .opened)
      | _ => none
  | (pid, .measure) =>
      match shared.phase pid with
      | .opened =>
          if shared.file.length = 0 then
            some { shared.setPhase pid .idle with returned := shared.returned ++ [.error 1] }
          else some (shared.setPhase pid (.measured shared.file.length))
      | _ => none
  | (pid, .read) =>
      match shared.phase pid with
      | .measured fsize =>
          let string := shared.file.take fsize
          some
            { shared.setPhase pid .idle with
              returned := shared.returned ++
                [if string.length ≠ fsize then .error 1 else .ok string] }
      | _ => none
  | (pid, .openWrite buffer) =>
      match shared.phase pid with
      | .idle =>
          if buffer.length = 0 then some shared
          else
            some
              { shared.setPhase pid (.truncated buffer) with
                file := []
                given := shared.given ++ [buffer] }
      | _ => none
  | (pid, .put) =>
      match shared.phase pid with
      | .truncated buffer =>
          -- What another process has put meanwhile stays behind a shorter buffer.
          some
            { shared.setPhase pid .idle with
              file := buffer ++ shared.file.drop buffer.length }
      | _ => none

@[simp] theorem setPhase_file (shared : SharedFile Pid) (pid : Pid) (phase : FilePhase) :
    (shared.setPhase pid phase).file = shared.file := rfl

@[simp] theorem setPhase_given (shared : SharedFile Pid) (pid : Pid) (phase : FilePhase) :
    (shared.setPhase pid phase).given = shared.given := rfl

@[simp] theorem setPhase_returned (shared : SharedFile Pid) (pid : Pid) (phase : FilePhase) :
    (shared.setPhase pid phase).returned = shared.returned := rfl

@[simp] theorem setPhase_phase_self (shared : SharedFile Pid) (pid : Pid) (phase : FilePhase) :
    (shared.setPhase pid phase).phase pid = phase := by
  simp [setPhase]

theorem setPhase_phase (shared : SharedFile Pid) (pid : Pid) (phase : FilePhase) (other : Pid) :
    (shared.setPhase pid phase).phase other =
      if other = pid then phase else shared.phase other := by
  simp [setPhase, Function.update_apply]

/-! ## A call that is not interrupted -/

/-- Without other steps between its own, a call of `read_file` on a file that
is not empty returns what it returns on the content. -/
theorem run_read_alone
    {shared : SharedFile Pid} {pid : Pid}
    (idle : shared.phase pid = .idle) (nonempty : shared.file ≠ []) :
    (run step shared [(pid, .openRead), (pid, .measure), (pid, .read)]).map
        (fun next => (next.file, next.returned)) =
      some (shared.file, shared.returned ++ [readFile .none shared.file]) := by
  simp [step, idle, nonempty]

/-- Without other steps between its own, a call of `write_file` leaves the
content it leaves. -/
theorem run_write_alone
    {shared : SharedFile Pid} {pid : Pid} {buffer : Text}
    (idle : shared.phase pid = .idle) (nonempty : buffer ≠ []) :
    (run step shared [(pid, .openWrite buffer), (pid, .put)]).map SharedFile.file =
      some (writeFile .none shared.file buffer).2 := by
  simp [step, idle, nonempty]

/-! ## Runs without a race -/

/-- A step that meets no half-written file: the size is taken of a file that is
not empty, the file still has it when it is read, and a buffer is put over
nothing longer. -/
def Unraced (shared : SharedFile Pid) (event : Pid × FileAction) : Prop :=
  (event.2 = .measure → shared.file ≠ []) ∧
    (∀ fsize, event.2 = .read → shared.phase event.1 = .measured fsize →
      shared.file.length = fsize) ∧
      ∀ buffer, event.2 = .put → shared.phase event.1 = .truncated buffer →
        shared.file.length ≤ buffer.length

/-- The file is empty or a whole document, and every call of `read_file` has
returned a whole document. -/
structure Whole (initial : Text) (shared : SharedFile Pid) : Prop where
  content : shared.file = [] ∨ shared.file ∈ initial :: shared.given
  pending : ∀ pid buffer, shared.phase pid = .truncated buffer → buffer ∈ shared.given
  size : ∀ pid fsize, shared.phase pid = .measured fsize → fsize ≠ 0
  documents : ∀ result ∈ shared.returned, ∃ document ∈ initial :: shared.given,
    result = .ok document

/-- Moving a process keeps the invariant, when its new phase does. -/
theorem Whole.setPhase
    {initial : Text} {shared : SharedFile Pid} (whole : Whole initial shared)
    (pid : Pid) {phase : FilePhase}
    (pending : ∀ buffer, phase = .truncated buffer → buffer ∈ shared.given)
    (size : ∀ fsize, phase = .measured fsize → fsize ≠ 0) :
    Whole initial (shared.setPhase pid phase) where
  content := whole.content
  pending := by
    intro other buffer found
    rw [setPhase_phase] at found
    split at found
    · exact pending buffer found
    · exact whole.pending other buffer found
  size := by
    intro other fsize found
    rw [setPhase_phase] at found
    split at found
    · exact size fsize found
    · exact whole.size other fsize found
  documents := whole.documents

/-- Moving a process out of its call keeps the invariant. -/
theorem Whole.setIdle
    {initial : Text} {shared : SharedFile Pid} (whole : Whole initial shared) (pid : Pid) :
    Whole initial (shared.setPhase pid .idle) :=
  whole.setPhase pid (by simp) (by simp)

/-- Truncating the file for a buffer keeps the invariant. -/
theorem Whole.truncate
    {initial : Text} {shared : SharedFile Pid} (whole : Whole initial shared)
    (pid : Pid) (buffer : Text) :
    Whole initial
      { shared.setPhase pid (.truncated buffer) with
        file := []
        given := shared.given ++ [buffer] } where
  content := .inl rfl
  pending := by
    intro other otherBuffer found
    change (shared.setPhase pid (.truncated buffer)).phase other = _ at found
    rw [setPhase_phase] at found
    split at found
    · obtain rfl := FilePhase.truncated.inj found
      exact List.mem_append_right _ List.mem_cons_self
    · exact List.mem_append_left _ (whole.pending other otherBuffer found)
  size := by
    intro other fsize found
    change (shared.setPhase pid (.truncated buffer)).phase other = _ at found
    rw [setPhase_phase] at found
    split at found
    · exact absurd found (by simp)
    · exact whole.size other fsize found
  documents := by
    intro result present
    obtain ⟨document, known, returned⟩ := whole.documents result present
    refine ⟨document, ?_, returned⟩
    rcases List.mem_cons.mp known with rfl | given
    · exact List.mem_cons_self
    · exact List.mem_cons_of_mem _ (List.mem_append_left _ given)

/-- The step lemma: a step without a race keeps documents whole. -/
theorem Whole.step
    {initial : Text} {shared next : SharedFile Pid} {event : Pid × FileAction}
    (whole : Whole initial shared) (unraced : Unraced shared event)
    (stepped : shared.step event = some next) : Whole initial next := by
  obtain ⟨pid, action⟩ := event
  obtain ⟨notEmpty, sameSize, notLonger⟩ := unraced
  cases action with
  | openRead =>
      simp only [SharedFile.step] at stepped
      cases phase : shared.phase pid with
      | idle =>
          simp only [phase] at stepped
          obtain rfl := Option.some.inj stepped
          exact whole.setPhase pid (by simp) (by simp)
      | _ => simp [phase] at stepped
  | measure =>
      simp only [SharedFile.step] at stepped
      cases phase : shared.phase pid with
      | opened =>
          have length : shared.file.length ≠ 0 := by simpa using notEmpty rfl
          simp only [phase, if_neg length] at stepped
          obtain rfl := Option.some.inj stepped
          exact whole.setPhase pid (by simp) (by simpa using length)
      | _ => simp [phase] at stepped
  | read =>
      simp only [SharedFile.step] at stepped
      cases phase : shared.phase pid with
      | measured fsize =>
          obtain rfl := sameSize fsize rfl phase
          simp only [phase, List.take_length, ne_eq, not_true_eq_false, ↓reduceIte] at stepped
          obtain rfl := Option.some.inj stepped
          have isDocument : shared.file ∈ initial :: shared.given := by
            refine whole.content.resolve_left fun empty => ?_
            exact whole.size pid _ phase (by rw [empty]; rfl)
          refine { whole.setIdle pid with documents := fun result present => ?_ }
          rcases List.mem_append.mp present with earlier | now
          · exact whole.documents result earlier
          · exact ⟨shared.file, isDocument, List.mem_singleton.mp now⟩
      | _ => simp [phase] at stepped
  | openWrite buffer =>
      simp only [SharedFile.step] at stepped
      cases phase : shared.phase pid with
      | idle =>
          simp only [phase] at stepped
          split_ifs at stepped with empty
          · exact Option.some.inj stepped ▸ whole
          · obtain rfl := Option.some.inj stepped
            exact whole.truncate pid buffer
      | _ => simp [phase] at stepped
  | put =>
      simp only [SharedFile.step] at stepped
      cases phase : shared.phase pid with
      | truncated buffer =>
          simp only [phase] at stepped
          obtain rfl := Option.some.inj stepped
          have covered : shared.file.drop buffer.length = [] :=
            List.drop_eq_nil_of_le (notLonger buffer rfl phase)
          refine { whole.setIdle pid with content := .inr ?_ }
          rw [covered, List.append_nil]
          exact List.mem_cons_of_mem _ (whole.pending pid buffer phase)
      | _ => simp [phase] at stepped

/-- No call has started, and the file is not empty. -/
def Fresh (shared : SharedFile Pid) : Prop :=
  (∀ pid, shared.phase pid = .idle) ∧ shared.given = [] ∧ shared.returned = [] ∧
    shared.file ≠ []

/-- In every run without a race, every completed call of `read_file` returned 0
and one whole document: the initial one or one that was given to a call of
`write_file`. -/
theorem reads_are_whole
    {shared final : SharedFile Pid} {events : List (Pid × FileAction)}
    (fresh : shared.Fresh) (unraced : Along step Unraced shared events)
    (reached : run step shared events = some final) :
    ∀ result ∈ final.returned, ∃ document ∈ shared.file :: final.given,
      result = .ok document := by
  obtain ⟨idle, notGiven, notReturned, _⟩ := fresh
  have initially : Whole shared.file shared := by
    refine ⟨.inr List.mem_cons_self, fun pid buffer found => ?_, fun pid fsize found => ?_, ?_⟩
    · rw [idle] at found
      exact absurd found (by simp)
    · rw [idle] at found
      exact absurd found (by simp)
    · simp [notReturned]
  exact (run_invariant (fun _ _ _ => Whole.step) initially unraced reached).documents

end

/-! ## A race -/

/-- A short document in the file, and a writer and a reader that wait. -/
def shortFile : SharedFile Nat where
  file := "[]".toList
  phase := fun _ => .idle
  given := []
  returned := []

/-- The reader measures between the two steps of the writer. -/
def racingCalls : List (Nat × FileAction) :=
  [(0, .openWrite "[1,2]".toList), (1, .openRead), (1, .measure), (0, .put)]

/-- The reader fails. -/
theorem reads_race :
    shortFile.Fresh ∧
      ∃ final, run step shortFile racingCalls = some final ∧
        final.given = ["[1,2]".toList] ∧ final.returned = [.error 1] :=
  ⟨⟨fun _ => rfl, rfl, rfl, by decide⟩, _, rfl, rfl, rfl⟩

/-- The first reader starts when the writer is done. -/
def orderlyCalls : List (Nat × FileAction) :=
  [(0, .openWrite "[1,2]".toList), (0, .put), (1, .openRead), (1, .measure), (1, .read)]

/-- It gets a whole document. -/
theorem reads_are_whole_orderly :
    ∃ final, run step shortFile orderlyCalls = some final ∧
      ∀ result ∈ final.returned, ∃ document ∈ shortFile.file :: final.given,
        result = .ok document := by
  have fresh : shortFile.Fresh := ⟨fun _ => rfl, rfl, rfl, by decide⟩
  have opened : Unraced shortFile (0, .openWrite "[1,2]".toList) := ⟨nofun, nofun, nofun⟩
  have unraced : Along step Unraced shortFile orderlyCalls := by
    refine .cons opened rfl (.cons ⟨nofun, nofun, ?_⟩ rfl (.cons ⟨nofun, nofun, nofun⟩ rfl
      (.cons ⟨?_, nofun, nofun⟩ rfl (.cons ⟨nofun, ?_, nofun⟩ rfl trivial))))
    · intro buffer _ _
      exact Nat.zero_le _
    · intro _
      decide
    · intro fsize _ phase
      exact FilePhase.measured.inj phase
  exact ⟨_, rfl, reads_are_whole fresh unraced rfl⟩

end SharedFile

end Refuge
