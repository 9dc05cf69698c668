import BoltLoad.FileWriter.Backend
import BoltLoad.Task.OutputFile

/-! The concurrent transfer of an attempt, as its teardown sees it: the file writer is opened,
the download loop runs, and then, whatever its result, the runners are joined, the writes
flushed, and the writer's workers joined. How the loop ends is free.
-/

namespace BoltLoad

/-- Where `download_to` of the concurrent transfer stands. -/
inductive ConcurrentStage
  | creatingWriter
  | running
  /-- `finish` waits until every runner has exited. -/
  | joining (result : Except DownloadError Unit)
  /-- `finish` flushes the writes in flight. -/
  | flushing (result : Except DownloadError Unit)
  /-- `finalize` waits until every worker has exited. -/
  | finalizing (result : Except DownloadError Unit)
  | returned (result : Except DownloadError Unit)
  deriving DecidableEq

/-- How opening the file writer ends; an error leaves no worker behind. -/
inductive WriterCreation
  | opened (kind : FileRangeWriterKind) (workers : Nat)
  | openFailed (message : String)
  | allocateFailed (message : String)
  /-- The file is open, but the backend cannot be built on it. -/
  | buildFailed (kind : FileRangeWriterKind) (message : String)
  deriving DecidableEq

/-- One call of `download_to`. -/
structure ConcurrentRun where
  total : Nat
  progress : Progress
  stage : ConcurrentStage
  /-- The members of the runners' wait group. -/
  runners : Nat
  /-- The workers that have not exited yet. -/
  writers : Nat
  /-- What the temporary path holds. -/
  disk : Option Bytes

inductive ConcurrentEvent
  | created (outcome : WriterCreation)
  | spawn
  | runnerExits
  /-- A worker writes to the file. -/
  | write (start : Nat) (data : Bytes)
  | workerExits
  /-- `run` returns, and `finish` records the progress. -/
  | ran (result : Except DownloadError Unit) (downloaded : Nat) (downloadedChunks : List Range)
  | joined
  | flushed (result : Except DownloadError Unit)
  | finalized (result : Except String Unit)

/-- `Result::and`: the first error takes precedence. -/
def firstError (first second : Except DownloadError Unit) : Except DownloadError Unit :=
  match first with
  | .ok () => second
  | .error error => .error error

namespace ConcurrentRun

def new (total : Nat) (disk : Option Bytes) : ConcurrentRun where
  total
  progress := ⟨some total, 0, []⟩
  stage := .creatingWriter
  runners := 0
  writers := 0
  disk

/-- Whether a writer of a kind can be opened; the last two outcomes follow an opened file. -/
def creates (usizeSize : Nat) (run : ConcurrentRun) : WriterCreation → Bool
  | .opened kind workers =>
      (openedWithKind usizeSize kind run.disk run.total).isSome && decide (1 ≤ workers)
  | _ => true

def isFlushing : ConcurrentStage → Bool
  | .flushing _ => true
  | _ => false

def isJoining : ConcurrentStage → Bool
  | .joining _ => true
  | _ => false

def isFinalizing : ConcurrentStage → Bool
  | .finalizing _ => true
  | _ => false

def Enabled (usizeSize : Nat) (run : ConcurrentRun) : ConcurrentEvent → Prop
  | .created outcome => run.stage = .creatingWriter ∧ run.creates usizeSize outcome = true
  | .spawn => run.stage = .running
  | .runnerExits => 0 < run.runners
  | .write _ _ => 0 < run.writers
  | .workerExits => 0 < run.writers
  | .ran _ _ _ => run.stage = .running
  | .joined => isJoining run.stage = true ∧ run.runners = 0
  | .flushed _ => isFlushing run.stage = true
  | .finalized _ => isFinalizing run.stage = true ∧ run.writers = 0

instance (usizeSize : Nat) (run : ConcurrentRun)
    : (event : ConcurrentEvent) → Decidable (run.Enabled usizeSize event)
  | .created _ => inferInstanceAs (Decidable (_ ∧ _))
  | .spawn => inferInstanceAs (Decidable (_ = _))
  | .runnerExits => inferInstanceAs (Decidable (_ < _))
  | .write _ _ => inferInstanceAs (Decidable (_ < _))
  | .workerExits => inferInstanceAs (Decidable (_ < _))
  | .ran _ _ _ => inferInstanceAs (Decidable (_ = _))
  | .joined => inferInstanceAs (Decidable (_ ∧ _))
  | .flushed _ => inferInstanceAs (Decidable (_ = _))
  | .finalized _ => inferInstanceAs (Decidable (_ ∧ _))

/-- `create_file_writer`; its error is returned at once. -/
def create (usizeSize : Nat) (run : ConcurrentRun) : WriterCreation → ConcurrentRun
  | .opened kind workers =>
      { run with
        disk := openedWithKind usizeSize kind run.disk run.total
        writers := workers
        stage := .running }
  | .openFailed message => { run with stage := .returned (.error (.other message)) }
  | .allocateFailed message =>
      { run with
        disk := some (run.disk.getD [])
        stage := .returned (.error (.other message)) }
  | .buildFailed kind message =>
      { run with
        disk := (openedWithKind usizeSize kind run.disk run.total).or (some (run.disk.getD []))
        stage := .returned (.error (.other message)) }

def next (usizeSize : Nat) (run : ConcurrentRun) : ConcurrentEvent → ConcurrentRun
  | .created outcome => run.create usizeSize outcome
  | .spawn => { run with runners := run.runners + 1 }
  | .runnerExits => { run with runners := run.runners - 1 }
  | .write start data =>
      { run with disk := some (Segment.writeAt 0 (run.disk.getD []) start data) }
  | .workerExits => { run with writers := run.writers - 1 }
  | .ran result downloaded downloadedChunks =>
      { run with
        progress := { run.progress with downloaded, downloadedChunks }
        stage := .joining result }
  | .joined =>
      match run.stage with
      | .joining result => { run with stage := .flushing result }
      | _ => run
  | .flushed flush =>
      match run.stage with
      | .flushing result => { run with stage := .finalizing (firstError result flush) }
      | _ => run
  | .finalized final =>
      match run.stage with
      | .finalizing result =>
          { run with stage := .returned (firstError result (final.mapError DownloadError.other)) }
      | _ => run

end ConcurrentRun

end BoltLoad
