import BoltLoad.FileWriter.MmapWriter
import BoltLoad.Library.Machine

/-! The file backends: how each opens the file and executes the writes handed to it. Workers
write to the file in any order and interleaving; the operating system may write less than it
was asked to, be interrupted, or fail.
-/

namespace BoltLoad

/-- `FileRangeWriterKind`, of the backends that write a file. -/
inductive FileRangeWriterKind
  | mmap
  | pool
  | compio
  deriving DecidableEq, Repr

/-- What the operating system answers to one `write_at`. -/
inductive WriteAnswer
  | wrote (count : Nat)
  | interrupted
  | failed
  deriving DecidableEq, Repr

/-- At most as much is written as was asked for. -/
def WriteAnswer.fits (left : Nat) : WriteAnswer → Bool
  | .wrote count => count ≤ left
  | _ => true

/-- Where the execution of a write stands. -/
inductive WriteState
  | queued
  /-- A worker executes it; `written` bytes of it are in the file. -/
  | writing (written : Nat)
  | completed (ok : Bool)
  deriving DecidableEq, Repr

/-- A write handed to the backend. -/
structure HandedWrite where
  chunk : Chunk
  state : WriteState
  deriving DecidableEq, Repr

/-- `open_file`: the file is created where there is none, and its size set. -/
def openFile (prior : Option Bytes) (size : Nat) : Bytes := Segment.resize 0 (prior.getD []) size

/-- The file `FileWriter::new_with_kind` leaves; `none` where it cannot be mapped. -/
def openedWithKind (usizeSize : Nat) (kind : FileRangeWriterKind) (prior : Option Bytes)
    (size : Nat)
    : Option Bytes :=
  match kind with
  | .mmap => if MmapWriter.isSupported usizeSize size then some (openFile prior size) else none
  | .pool => some (openFile prior size)
  -- Opened with `create` only.
  | .compio => some (prior.getD [])

/-- A backend, its file and the writes handed to it. -/
structure FileRun where
  kind : FileRangeWriterKind
  file : Bytes
  writes : List HandedWrite
  finalized : Bool
  deriving DecidableEq, Repr

inductive FileEvent
  /-- A worker takes a write from the queue. -/
  | take (index : Nat)
  /-- `write_all_at`: one `write_at` of what is left of a write. -/
  | writeAt (index : Nat) (answer : WriteAnswer)
  /-- `write_all_at` returns. -/
  | written (index : Nat)
  /-- The worker of the mapped file copies a whole write. -/
  | copy (index : Nat)
  | finalize
  deriving DecidableEq, Repr

namespace FileRun

/-- The writes handed to an opened backend, none of them executed yet. -/
def new (kind : FileRangeWriterKind) (file : Bytes) (chunks : List Chunk) : FileRun where
  kind
  file
  writes := chunks.map (⟨·, .queued⟩)
  finalized := false

/-- The bytes of a write that is being executed and is not in the file yet. -/
def pending (run : FileRun) (index : Nat) : Option (Chunk × Nat) :=
  match run.writes[index]? with
  | some ⟨chunk, .writing written⟩ => some (chunk, written)
  | _ => none

/-- A write goes on to another state. -/
def progress (run : FileRun) (index : Nat) (chunk : Chunk) (state : WriteState) : FileRun :=
  { run with writes := run.writes.set index ⟨chunk, state⟩ }

/-- One `write_at` of the bytes from `written` on; no progress is an error. -/
def writeAt (run : FileRun) (index : Nat) (chunk : Chunk) (written : Nat)
    : WriteAnswer → FileRun
  | .wrote 0 => run.progress index chunk (.completed false)
  | .wrote count =>
      let buf := (chunk.data.drop written).take count
      { run with file := Segment.writeAt 0 run.file (chunk.range.start + written) buf }.progress
        index chunk (.writing (written + count))
  | .interrupted => run
  | .failed => run.progress index chunk (.completed false)

/-- `execute_write` of the mapped file; a worker that panics reports the write as failed. -/
def copy (usizeSize : Nat) (run : FileRun) (index : Nat) (chunk : Chunk) : FileRun :=
  match MmapWriter.executeWrite usizeSize run.file chunk with
  | .ok file => { run with file }.progress index chunk (.completed true)
  | .error _ => run.progress index chunk (.completed false)

def Enabled (run : FileRun) : FileEvent → Prop
  | .take index =>
      run.kind ≠ .mmap ∧ (run.writes[index]?).map HandedWrite.state = some .queued
  | .writeAt index answer =>
      ∃ asked ∈ run.pending index,
        asked.2 < asked.1.data.length ∧ answer.fits (asked.1.data.length - asked.2) = true
  | .written index => ∃ asked ∈ run.pending index, asked.2 = asked.1.data.length
  | .copy index => run.kind = .mmap ∧ (run.writes[index]?).map HandedWrite.state = some .queued
  | .finalize => run.writes.all (fun write => write.state matches .completed _) = true

instance (run : FileRun) : ∀ event, Decidable (run.Enabled event)
  | .take _ => inferInstanceAs (Decidable (_ ∧ _))
  | .writeAt index answer =>
      inferInstanceAs (Decidable (∃ asked ∈ run.pending index,
        asked.2 < asked.1.data.length
          ∧ answer.fits (asked.1.data.length - asked.2) = true))
  | .written index =>
      inferInstanceAs (Decidable (∃ asked ∈ run.pending index, asked.2 = asked.1.data.length))
  | .copy _ => inferInstanceAs (Decidable (_ ∧ _))
  | .finalize => inferInstanceAs (Decidable (_ = _))

def next (usizeSize : Nat) (run : FileRun) (event : FileEvent) : FileRun :=
  match event with
  | .take index =>
      match run.writes[index]? with
      | some write => run.progress index write.chunk (.writing 0)
      | none => run
  | .writeAt index answer =>
      match run.pending index with
      | some (chunk, written) => run.writeAt index chunk written answer
      | none => run
  | .written index =>
      match run.pending index with
      | some (chunk, _) => run.progress index chunk (.completed true)
      | none => run
  | .copy index =>
      match run.writes[index]? with
      | some write => run.copy usizeSize index write.chunk
      | none => run
  -- Syncing changes neither the size nor the content.
  | .finalize => { run with finalized := true }

/-- The backends over every order and interleaving of their writes. -/
def machine (usizeSize : Nat) : Machine FileRun FileEvent Panic where
  Initial run := ∃ kind file chunks, run = .new kind file chunks
  Enabled := Enabled
  next run event := .ok (run.next usizeSize event)

instance (usizeSize : Nat) (run : FileRun) (event : FileEvent)
    : Decidable ((machine usizeSize).Enabled run event) :=
  inferInstanceAs (Decidable (run.Enabled event))

end FileRun

end BoltLoad
