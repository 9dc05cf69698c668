import BoltLoad.Library.Segment
import BoltLoad.Runner.Run
import BoltLoad.Task.OutputFile

/-! The transfer over one connection as a machine. A loop selects among its timer, the runner
it drives inline, the data and the lifecycle events, in this order; it creates the temporary
file once the runner is connected, and writes each frame to it. The file is written through
a background writer, whose errors the next write or flush reports.
-/

namespace BoltLoad

/-- An open `async_fs::File`: what it accepted is stored later, in order. -/
structure AsyncFile where
  /-- Where the next byte is stored. -/
  position : Nat
  /-- The bytes accepted and not stored yet. -/
  buffered : Bytes
  /-- Whether storing failed. -/
  failed : Bool
  deriving DecidableEq, Repr

/-- A freshly opened file. -/
def AsyncFile.opened : AsyncFile := ⟨0, [], false⟩

/-- The fields of `SingletonTaskInner` its transfer decides by. -/
structure SingletonTaskInner where
  /-- The size, when it is known; otherwise the stream's end finishes the download. -/
  total : Option Nat
  downloaded : Nat
  output : OutputFile
  deriving DecidableEq, Repr

/-- Where `download_to` stands. -/
inductive SingletonStage
  | selecting
  | creatingFile
  | writing (frame : DataFrame)
  /-- The teardown flushes the file. -/
  | flushing (result : Except DownloadError Unit)
  | returned (result : Except DownloadError Unit)
  deriving DecidableEq

namespace SingletonStage

def isWriting : SingletonStage → Bool
  | writing _ => true
  | _ => false

def isFlushing : SingletonStage → Bool
  | flushing _ => true
  | _ => false

def isReturned : SingletonStage → Bool
  | returned _ => true
  | _ => false

theorem isWriting_iff {stage : SingletonStage}
    : stage.isWriting = true ↔ ∃ frame, stage = .writing frame := by
  cases stage <;> simp [isWriting]

theorem isFlushing_iff {stage : SingletonStage}
    : stage.isFlushing = true ↔ ∃ result, stage = .flushing result := by
  cases stage <;> simp [isFlushing]

theorem isReturned_eq_false_iff {stage : SingletonStage}
    : stage.isReturned = false ↔ ∀ result, stage ≠ .returned result := by
  cases stage <;> simp [isReturned]

end SingletonStage

/-- One call of `download_to`. -/
structure SingletonRun where
  task : SingletonTaskInner
  runner : RunnerRun
  meter : Nat
  isFinished : Bool
  runnerStopped : Bool
  dataDone : Bool
  lifecycleDone : Bool
  /-- Whether `file_ready_tx` was sent. -/
  fileReady : Bool
  /-- Whether the runner's future has completed. -/
  fused : Bool
  file : Option AsyncFile
  stage : SingletonStage
  /-- What the temporary path holds. -/
  disk : Option Bytes
  /-- The frames written so far, oldest first. -/
  written : List DataFrame
  /-- The lifecycle events taken so far, oldest first. -/
  seen : List LifecycleEvent

/-- How `create_file` ends. -/
inductive FileCreation
  | created
  | createFailed (source : String)
  | allocateFailed (source : String)
  deriving DecidableEq, Repr

/-- Whether the size of the file was set, or was to be. -/
def FileCreation.sizes : FileCreation → Bool
  | allocateFailed _ => true
  | _ => false

inductive SingletonEvent
  | timer
  /-- A turn of the runner, while its future is polled. -/
  | turn (sources : Sources)
  /-- The runner goes on once the file is ready. -/
  | ready
  /-- The runner's future completes. -/
  | fut
  | frame
  | dataEnd
  | lifecycle
  | lifecycleEnd
  | fileCreated (outcome : FileCreation)
  /-- `write_all` returns, on an error with a front of the frame accepted. -/
  | frameWritten (result : Except (Nat × String) Unit)
  /-- The background writer stores some of what the file accepted. -/
  | store (count : Nat)
  /-- The background writer fails. -/
  | fault
  | flushed (result : Except String Unit)

/-- The error of a runner that stopped before it connected. -/
def connectError : StoppedReason → DownloadError
  | .failed error => .ofTaskError error
  | .finished => .other "the runner finished before it connected"

namespace SingletonRun

def new (total : Option Nat) (output : OutputFile) (disk : Option Bytes) : SingletonRun where
  task := { total, downloaded := 0, output }
  runner := .new .untilStarted total .connecting
  meter := 0
  isFinished := false
  runnerStopped := false
  dataDone := false
  lifecycleDone := false
  fileReady := false
  fused := false
  file := none
  stage := .selecting
  disk
  written := []
  seen := []

-----------------------------------------------------------------------------------------
-- What is selected
-----------------------------------------------------------------------------------------

/-- The loop gets past a future that does not complete. -/
def PastRunner (run : SingletonRun) : Prop :=
  run.stage = .selecting ∧ (run.runner.loop.isStopped = true → run.fused = true)

/-- The data is not polled, or has nothing yet. -/
def DataPending (run : SingletonRun) : Prop :=
  run.dataDone = true
  ∨ run.file = none
  ∨ run.runner.data = [] ∧ run.runner.loop.runner.dataOpen = true

def Enabled (run : SingletonRun) : SingletonEvent → Prop
  | .timer => run.stage = .selecting
  -- The control sender outlives the runner and never sends.
  | .turn sources =>
      run.stage = .selecting ∧ sources.control = none ∧ run.runner.Enabled (.turn sources)
  | .ready => run.stage = .selecting ∧ run.fileReady = true ∧ run.runner.Enabled .ready
  | .fut => run.stage = .selecting ∧ run.runner.loop.isStopped = true ∧ run.fused = false
  | .frame =>
      run.PastRunner ∧ run.dataDone = false ∧ run.file.isSome = true ∧ run.runner.data ≠ []
  | .dataEnd =>
      run.PastRunner
      ∧ run.dataDone = false
      ∧ run.file.isSome = true
      ∧ run.runner.data = []
      ∧ run.runner.loop.runner.dataOpen = false
  | .lifecycle =>
      run.PastRunner
      ∧ run.DataPending
      ∧ run.lifecycleDone = false
      ∧ run.runner.lifecycle ≠ []
  -- The sender is a field of the runner, which outlives the loop.
  | .lifecycleEnd =>
      run.PastRunner
      ∧ run.DataPending
      ∧ run.lifecycleDone = false
      ∧ run.runner.lifecycle = []
      ∧ run.runner.loop.isStopped = true
  | .fileCreated outcome =>
      run.stage = .creatingFile
      ∧ (outcome.sizes = true → run.task.total.isSome = true)
  | .frameWritten _ => run.stage.isWriting = true
  | .store count =>
      run.stage.isReturned = false
      ∧ ∃ file ∈ run.file, file.failed = false ∧ 1 ≤ count ∧ count ≤ file.buffered.length
  | .fault => run.stage.isReturned = false ∧ run.file.isSome = true
  | .flushed (.ok ()) =>
      run.stage.isFlushing = true
      ∧ ∀ file ∈ run.file, file.buffered = [] ∧ file.failed = false
  | .flushed (.error _) => run.stage.isFlushing = true ∧ run.file.isSome = true

instance (run : SingletonRun) : Decidable run.PastRunner := inferInstanceAs (Decidable (_ ∧ _))

instance (run : SingletonRun) : Decidable run.DataPending :=
  inferInstanceAs (Decidable (_ ∨ _ ∨ _))

instance (run : SingletonRun) : (event : SingletonEvent) → Decidable (run.Enabled event)
  | .timer => inferInstanceAs (Decidable (_ = _))
  | .turn sources =>
      inferInstanceAs
        (Decidable (_ ∧ sources.control = none ∧ run.runner.Enabled (.turn sources)))
  | .ready => inferInstanceAs (Decidable (_ ∧ _ ∧ run.runner.Enabled .ready))
  | .fut => inferInstanceAs (Decidable (_ ∧ _ ∧ _))
  | .frame => inferInstanceAs (Decidable (run.PastRunner ∧ _ ∧ _ ∧ _))
  | .dataEnd => inferInstanceAs (Decidable (run.PastRunner ∧ _ ∧ _ ∧ _ ∧ _))
  | .lifecycle => inferInstanceAs (Decidable (run.PastRunner ∧ run.DataPending ∧ _ ∧ _))
  | .lifecycleEnd =>
      inferInstanceAs (Decidable (run.PastRunner ∧ run.DataPending ∧ _ ∧ _ ∧ _))
  | .fileCreated _ => inferInstanceAs (Decidable (_ ∧ (_ → _)))
  | .frameWritten _ => inferInstanceAs (Decidable (_ = _))
  | .store count =>
      inferInstanceAs (Decidable (_
        ∧ ∃ file ∈ run.file,
            file.failed = false ∧ 1 ≤ count ∧ count ≤ file.buffered.length))
  | .fault => inferInstanceAs (Decidable (_ ∧ _))
  | .flushed (.ok ()) =>
      inferInstanceAs
        (Decidable (_ ∧ ∀ file ∈ run.file, file.buffered = [] ∧ file.failed = false))
  | .flushed (.error _) => inferInstanceAs (Decidable (_ ∧ _))

-----------------------------------------------------------------------------------------
-- What follows
-----------------------------------------------------------------------------------------

/-- The loop is left, and the teardown begins: the runner is dropped, the file flushed. -/
def leave (run : SingletonRun) (result : Except DownloadError Unit) : SingletonRun :=
  { run with stage := .flushing result }

/-- `handle_data_frame`, up to the write. -/
def takeFrame (run : SingletonRun) (frame : DataFrame) : SingletonRun :=
  { run with
    task := { run.task with downloaded := run.task.downloaded + frame.data.length }
    runner := { run.runner with data := run.runner.data.tail }
    meter := run.meter + frame.data.length
    stage := .writing frame }

/-- The data has ended. -/
def endData (run : SingletonRun) : SingletonRun :=
  if run.runnerStopped then
    leave { run with dataDone := true } (.ok ())
  else
    { run with dataDone := true }

/-- `handle_lifecycle_event`, once the file is there. -/
def handleLifecycleEvent (run : SingletonRun)
    : LifecycleEvent → Except DownloadError SingletonRun
  | .stopped .finished => .ok { run with isFinished := true }
  | .stopped (.failed kind) => .error (.ofTaskError kind)
  | .started => .ok run

/-- A lifecycle event other than `Started`, which opens the file. -/
def onLifecycle (run : SingletonRun) (event : LifecycleEvent) : SingletonRun :=
  match event, run.file with
  | .started, _ => { run with stage := .creatingFile }
  | .stopped reason, none => run.leave (.error (connectError reason))
  | event, some _ =>
      match run.handleLifecycleEvent event with
      | .error error => run.leave (.error error)
      | .ok run =>
          if run.isFinished then
            let run := { run with runnerStopped := true }
            if run.dataDone then run.leave (.ok ()) else run
          else
            run

/-- The lifecycle events have ended. -/
def endLifecycle (run : SingletonRun) : SingletonRun :=
  let run := { run with lifecycleDone := true }
  if !run.runnerStopped then run.leave (.error (.ofTaskError .channelClosed))
  else if run.dataDone then run.leave (.ok ())
  else run

/-- `create_file`: the file is truncated, then sized when the total is known. -/
def createFile (run : SingletonRun) : FileCreation → SingletonRun
  | .createFailed source => run.leave (.error (.io .create run.task.output.tmp source))
  | .allocateFailed source =>
      leave { run with disk := some [] } (.error (.io .allocate run.task.output.tmp source))
  | .created =>
      { run with
        disk := some (Segment.resize 0 [] (run.task.total.getD 0))
        file := some .opened
        fileReady := true
        stage := .selecting }

/-- `write_all` accepted the frame, or a front of it before it failed. -/
def writeFrame (run : SingletonRun) (frame : DataFrame) : Except (Nat × String) Unit → SingletonRun
  | .ok () =>
      { run with
        file := run.file.map fun file => { file with buffered := file.buffered ++ frame.data }
        written := run.written ++ [frame]
        stage := .selecting }
  | .error (count, source) =>
      leave
        { run with
          file :=
            run.file.map fun file =>
              { file with buffered := file.buffered ++ frame.data.take count } }
        (.error (.io .write run.task.output.tmp source))

/-- The background writer stores the next bytes where the last ones ended. -/
def store (run : SingletonRun) (count : Nat) : SingletonRun :=
  match run.file, run.disk with
  | some file, some disk =>
      { run with
        disk := some (Segment.writeAt 0 disk file.position (file.buffered.take count))
        file :=
          some { file with
            position := file.position + (file.buffered.take count).length
            buffered := file.buffered.drop count } }
  | _, _ => run

/-- `result.and(flush)`. -/
def finish (run : SingletonRun) (result : Except DownloadError Unit)
    (flush : Except String Unit)
    : SingletonRun :=
  match result, flush with
  | .error error, _ => { run with stage := .returned (.error error) }
  | .ok (), .ok () => { run with stage := .returned (.ok ()) }
  | .ok (), .error source =>
      { run with stage := .returned (.error (.io .flush run.task.output.tmp source)) }

def next (usizeSize : Nat) (run : SingletonRun) : SingletonEvent → Checked SingletonRun
  -- A sample is published and the meter starts over.
  | .timer => pure (if run.file.isSome then { run with meter := 0 } else run)
  | .turn sources => do
      let runner ← run.runner.next usizeSize (.turn sources)
      pure { run with runner }
  | .ready => do
      let runner ← run.runner.next usizeSize .ready
      pure { run with runner }
  | .fut => pure { run with fused := true }
  | .frame => do
      let frame ← Checked.expect run.runner.data.head? "a frame is ready"
      pure (run.takeFrame frame)
  | .dataEnd => pure run.endData
  | .lifecycle => do
      let event ← Checked.expect run.runner.lifecycle.head? "an event is ready"
      pure (onLifecycle
        { run with
          runner := { run.runner with lifecycle := run.runner.lifecycle.tail }
          seen := run.seen ++ [event] }
        event)
  | .lifecycleEnd => pure run.endLifecycle
  | .fileCreated outcome => pure (run.createFile outcome)
  | .frameWritten result =>
      match run.stage with
      | .writing frame => pure (run.writeFrame frame result)
      | _ => pure run
  | .store count => pure (run.store count)
  | .fault =>
      pure { run with file := run.file.map fun file => { file with failed := true } }
  | .flushed flush =>
      match run.stage with
      | .flushing result => pure (run.finish result flush)
      | _ => pure run

/-- Every call of `download_to`, with or without a known total, whatever the path held. -/
def machine (usizeSize : Nat) : Machine SingletonRun SingletonEvent Panic where
  Initial run := ∃ total output disk, run = .new total output disk
  Enabled := Enabled
  next := next usizeSize

instance (usizeSize : Nat) (run : SingletonRun) (event : SingletonEvent)
    : Decidable ((machine usizeSize).Enabled run event) :=
  inferInstanceAs (Decidable (run.Enabled event))

end SingletonRun

end BoltLoad
