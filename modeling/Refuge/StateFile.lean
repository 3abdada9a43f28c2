import Refuge.CText

/-!
# Reading and writing the state file

`read_file` and `write_file` of `lib_handler.c` on the content of one file,
with every file operation that may fail.  Opening for writing truncates at
once; `fwrite` buffers what it accepts and `fclose` flushes it, and the result
of `fclose` is not looked at.
-/

namespace Refuge

/-- The file operations of one update that fail. -/
structure FileFaults where
  /-- `fopen` for reading fails. -/
  openRead : Bool
  /-- Seeking to the end fails. -/
  seekEnd : Bool
  /-- `ftell` fails. -/
  tell : Bool
  /-- Seeking to the start fails. -/
  seekStart : Bool
  /-- `fread` returns fewer bytes than the file has. -/
  shortRead : Bool
  /-- `fopen` for writing fails. -/
  openWrite : Bool
  /-- The number of bytes that `fwrite` does not accept. -/
  refused : Nat
  /-- The number of accepted bytes that flushing does not put into the file. -/
  lost : Nat
  deriving DecidableEq

/-- Every file operation succeeds. -/
def FileFaults.none : FileFaults where
  openRead := false
  seekEnd := false
  tell := false
  seekStart := false
  shortRead := false
  openWrite := false
  refused := 0
  lost := 0

/-- Some operation of `read_file` fails. -/
def FileFaults.reading (faults : FileFaults) : Bool :=
  faults.openRead || faults.seekEnd || faults.tell || faults.seekStart ||
    faults.shortRead

/-- `read_file`: an empty file is an error. -/
def readFile (faults : FileFaults) (file : Text) : Except Int Text :=
  if faults.openRead then .error 1
  else if faults.seekEnd then .error 1
  else if faults.tell then .error 1
  else if file.length = 0 then .error 1
  else if faults.seekStart then .error 1
  else if faults.shortRead then .error 1
  else .ok file

/-- `write_file`: the code returned and the content left in the file.  An empty
buffer is reported as written and leaves the file alone. -/
def writeFile (faults : FileFaults) (file buffer : Text) : Int × Text :=
  if buffer.length = 0 then (0, file)
  else if faults.openWrite then (1, file)
  else
    -- From here on the old content is gone.
    let bytesWritten := buffer.length - faults.refused
    let flushed := buffer.take (bytesWritten - faults.lost)
    if bytesWritten ≠ buffer.length then (1, flushed) else (0, flushed)

/-- `read_file` returns the whole content or an error, and nothing else. -/
theorem readFile_eq (faults : FileFaults) (file : Text) :
    readFile faults file =
      if faults.reading ∨ file = [] then .error 1 else .ok file := by
  unfold readFile FileFaults.reading
  rcases faults with ⟨openRead, seekEnd, tell, seekStart, shortRead, _, _, _⟩
  cases openRead <;> cases seekEnd <;> cases tell <;> cases seekStart <;>
    cases shortRead <;> simp

@[simp] theorem readFile_none {file : Text} (nonempty : file ≠ []) :
    readFile .none file = .ok file := by
  rw [readFile_eq]
  simp [FileFaults.reading, FileFaults.none, nonempty]

theorem readFile_eq_ok
    {faults : FileFaults} {file buffer : Text}
    (read : readFile faults file = .ok buffer) :
    buffer = file ∧ file ≠ [] := by
  rw [readFile_eq] at read
  split at read
  · simp at read
  · rename_i readable
    simp only [not_or] at readable
    exact ⟨(Except.ok.inj read).symm, readable.2⟩

/-- A write that returns 0 and loses nothing when it is flushed puts the whole
buffer into the file. -/
theorem writeFile_of_code_eq_zero
    {faults : FileFaults} {file buffer : Text}
    (code : (writeFile faults file buffer).1 = 0) (kept : faults.lost = 0)
    (nonempty : buffer ≠ []) :
    writeFile faults file buffer = (0, buffer) := by
  have length : buffer.length ≠ 0 := by simpa using nonempty
  simp only [writeFile, length, ↓reduceIte] at code ⊢
  split_ifs at code ⊢ with failed written
  · simp at code
  · simp at code
  · simp only [not_not] at written
    simp [kept, written]

@[simp] theorem writeFile_none (file : Text) {buffer : Text} (nonempty : buffer ≠ []) :
    writeFile .none file buffer = (0, buffer) := by
  have length : buffer.length ≠ 0 := by simpa using nonempty
  simp [writeFile, FileFaults.none, length]

end Refuge
