import BoltLoad.Attempt.Concurrent
import BoltLoad.DownloadLoop.Run

/-! The concurrent transfer with everything it owns: the download loop with its runners, the writes
it hands to the backend, and the file the backend executes them on. A write is told of as executed
only once it is; it ends with an error at any time, as a closing queue and a panicking worker make it.
-/

namespace BoltLoad

/-- Where `download_to` stands. -/
inductive DownloadStage
  | creatingWriter (disk : Option Bytes)
  /-- The loop runs, `finish` joins its runners and flushes its writes, and `finalize` joins the
  workers of the backend.
  -/
  | writing (loop : LoopRun) (backend : FileRun) (workers : Nat)
  | returned (result : Except DownloadError Unit) (progress : Progress) (disk : Option Bytes)

/-- One call of `download_to`, with its parts. -/
structure DownloadRun where
  total : Nat
  options : TaskOptions
  /-- The backend that was opened. -/
  kind : Option FileRangeWriterKind
  stage : DownloadStage

inductive DownloadEvent
  /-- The file writer is created, and with it the loop. -/
  | created (outcome : WriterCreation) (maxConcurrency : Nat) (now : Instant)
  | loop (event : LoopRunEvent)
  | backend (event : FileEvent)
  | workerExits
  | finalized (result : Except String Unit)

/-- How a write dispatched in a step ends at once, if it does. -/
def LoopRunEvent.immediate : LoopRunEvent → Immediate
  | .poll sources => sources.immediate
  | .join immediate => immediate
  | .flushStep immediate => immediate
  | _ => none

/-- The backend's writes are those that are outstanding, in their order. What ends at once was never
queued, so it failed.
-/
def FileRun.Tells (backend : FileRun) : LoopRunEvent → Prop
  | .complete index (.ok ()) =>
      (backend.writes[index]?).map HandedWrite.state = some (.completed true)
  | event => event.immediate ≠ some (.ok ())

instance (backend : FileRun) : (event : LoopRunEvent) → Decidable (backend.Tells event)
  | .complete _ (.ok ()) => inferInstanceAs (Decidable (_ = _))
  | .complete _ (.error _) => inferInstanceAs (Decidable (_ ≠ _))
  | .poll _ => inferInstanceAs (Decidable (_ ≠ _))
  | .turn _ _ => inferInstanceAs (Decidable (_ ≠ _))
  | .vanish _ => inferInstanceAs (Decidable (_ ≠ _))
  | .join _ => inferInstanceAs (Decidable (_ ≠ _))
  | .flushStep _ => inferInstanceAs (Decidable (_ ≠ _))

/-- The writes the backend holds after a step of the loop. -/
def FileRun.follow (backend : FileRun) (before after : LoopRun) : LoopRunEvent → FileRun
  | .complete index _ => { backend with writes := backend.writes.eraseIdx index }
  | _ =>
      let handed := after.loop.writer.outstanding.drop before.loop.writer.outstanding.length
      { backend with writes := backend.writes ++ handed.map (⟨·, .queued⟩) }

namespace DownloadRun

def new (total : Nat) (options : TaskOptions) (disk : Option Bytes) : DownloadRun where
  total
  options
  kind := none
  stage := .creatingWriter disk

/-- The progress before the loop has recorded any. -/
def started (run : DownloadRun) : Progress := ⟨some run.total, 0, []⟩

/-- `finish` has returned. -/
def isFinished : LoopStage → Bool
  | .finished _ _ => true
  | _ => false

/-- Whether a writer of a kind can be opened; the last two outcomes follow an opened file. -/
def creates (usizeSize : Nat) (run : DownloadRun) (disk : Option Bytes) : WriterCreation → Bool
  | .opened kind workers =>
      (openedWithKind usizeSize kind disk run.total).isSome && decide (1 ≤ workers)
  | _ => true

def Enabled (usizeSize : Nat) (run : DownloadRun) (event : DownloadEvent) : Prop :=
  match run.stage, event with
  | .creatingWriter disk, .created outcome maxConcurrency _ =>
      run.creates usizeSize disk outcome = true ∧ 0 < maxConcurrency
  | .writing loop backend _, .loop event => loop.Enabled event ∧ backend.Tells event
  | .writing _ backend workers, .backend event => 0 < workers ∧ backend.Enabled event
  | .writing _ _ workers, .workerExits => 0 < workers
  | .writing loop _ workers, .finalized _ => isFinished loop.stage = true ∧ workers = 0
  | _, _ => False

instance (usizeSize : Nat) (run : DownloadRun) (event : DownloadEvent)
    : Decidable (run.Enabled usizeSize event) := by
  obtain ⟨total, options, kind, stage⟩ := run
  cases stage <;> cases event <;> dsimp only [Enabled] <;> infer_instance

/-- `create_file_writer`; its error is returned at once. -/
def create (usizeSize : Nat) (run : DownloadRun) (disk : Option Bytes) (maxConcurrency : Nat)
    (now : Instant)
    : WriterCreation → DownloadRun
  | .opened kind workers =>
      match openedWithKind usizeSize kind disk run.total with
      | some file =>
          { run with
            kind := some kind
            stage :=
              .writing (.new run.total maxConcurrency run.options now) (.new kind file []) workers }
      | none => run
  | .openFailed message =>
      { run with stage := .returned (.error (.other message)) run.started disk }
  | .allocateFailed message =>
      { run with
        stage := .returned (.error (.other message)) run.started (some (disk.getD [])) }
  | .buildFailed kind message =>
      let left := (openedWithKind usizeSize kind disk run.total).or (some (disk.getD []))
      { run with stage := .returned (.error (.other message)) run.started left }

def next (usizeSize : Nat) (run : DownloadRun) (event : DownloadEvent) : Checked DownloadRun :=
  match run.stage, event with
  | .creatingWriter disk, .created outcome maxConcurrency now =>
      pure (run.create usizeSize disk maxConcurrency now outcome)
  | .writing loop backend workers, .loop event => do
      let after ← loop.next usizeSize event
      pure { run with stage := .writing after (backend.follow loop after event) workers }
  | .writing loop backend workers, .backend event =>
      pure { run with stage := .writing loop (backend.next usizeSize event) workers }
  | .writing loop backend workers, .workerExits =>
      pure { run with stage := .writing loop backend (workers - 1) }
  | .writing ⟨_, .finished result progress, _⟩ backend _, .finalized final =>
      let result := firstError result (final.mapError DownloadError.other)
      pure { run with stage := .returned result progress (some backend.file) }
  | _, _ => pure run

/-- Every call, for a size that is a `u64` and not zero. -/
def machine (usizeSize : Nat) : Machine DownloadRun DownloadEvent Panic where
  Initial run :=
    ∃ total options disk, 0 < total ∧ total < u64Size ∧ run = .new total options disk
  Enabled := Enabled usizeSize
  next := next usizeSize

instance (usizeSize : Nat) (run : DownloadRun) (event : DownloadEvent)
    : Decidable ((machine usizeSize).Enabled run event) :=
  inferInstanceAs (Decidable (run.Enabled usizeSize event))

end DownloadRun

end BoltLoad
