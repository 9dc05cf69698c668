import BoltLoad.Attempt.Concurrent
import BoltLoad.SingletonTask.Model
import BoltLoad.Task.Status

/-! One attempt as a machine: initialization, the transfer in its mode, the commit of its file,
the fallback to one connection, and the panic handler, with the status it publishes and the
files it leaves. File operations, the clock of the cancellation and the panics are events.
Nobody else changes the files.
-/

namespace BoltLoad

namespace Drive

/-- What one attempt needs. -/
structure Attempt where
  preferMode : Option DownloadMode
  /-- Retrieved or injected before spawning. -/
  metadata : Option BoltLoadAdapterMeta
  deriving DecidableEq, Repr

end Drive

/-- What initialization decided. -/
structure Initialized where
  metadata : BoltLoadAdapterMeta
  mode : DownloadMode
  fallback : Option FallbackReason
  path : Path

/-- What initialization is told. -/
structure InitSources where
  retrieved : Except AdapterError BoltLoadAdapterMeta
  rangeStream : Bool
  /-- The destination resolved with the metadata. -/
  resolved : Except DownloadError Path
  checked : Except DownloadError Unit

/-- The outcome of a transfer after its teardown. -/
structure Teardown where
  result : Except DownloadError Unit
  leftoverTempFile : Option Path

/-- How `remove_file` ends. -/
inductive Removal
  | removed
  | notFound
  | failed (message : String)
  deriving DecidableEq, Repr

/-- The transfer of one attempt in its mode. -/
inductive TransferRun
  | concurrent (run : ConcurrentRun)
  | singleton (run : SingletonRun)

inductive TransferRunEvent
  | concurrent (event : ConcurrentEvent)
  | singleton (event : SingletonEvent)

inductive AttemptStage
  | spawned
  | initializing
  /-- `download_to` runs, and then the commit rule looks at its result. -/
  | transferring (info : TaskInfo) (transfer : TransferRun)
  | publishing (info : TaskInfo) (transfer : TransferRun)
  | discarding (info : TaskInfo) (transfer : TransferRun) (error : DownloadError)
  | tornDown (info : TaskInfo) (transfer : TransferRun) (teardown : Teardown)
  | finished
  /-- The attempt panicked and was unwound. -/
  | panicked (message : String)
  | returned

structure AttemptRun where
  attempt : Drive.Attempt
  shared : Shared
  cancelled : Bool
  files : Path → Option Bytes
  stage : AttemptStage

inductive AttemptEvent
  | cancel
  /-- The attempt's thread runs, with a local runtime or without. -/
  | start (hasRuntime : Bool)
  | initialized (sources : InitSources)
  | transfer (event : TransferRunEvent)
  /-- A progress sample of the transfer's reporter. -/
  | report (progress : Progress)
  | commit
  | renamed (result : Except String Unit)
  | removed (removal : Removal)
  /-- The transfer returned and is dropped. -/
  | concluded
  | panic (message : String)
  | reportPanic (removal : Removal)
  | return

-----------------------------------------------------------------------------------------
-- Initialization
-----------------------------------------------------------------------------------------

/-- Select the mode and take the destination. -/
def initializeAttempt (attempt : Drive.Attempt) (sources : InitSources) : Except DownloadError Initialized := do
  let metadata ←
    match attempt.metadata with
    | some metadata => pure metadata
    | none => sources.retrieved.mapError DownloadError.metadata
  let (mode, fallback) :=
    if attempt.preferMode = some .singleton then (DownloadMode.singleton, none)
    else if metadata.contentEncoding.isSome then
      (DownloadMode.singleton, some FallbackReason.contentCoded)
    else if metadata.contentSize ≠ 0 ∧ sources.rangeStream = true then
      (DownloadMode.concurrent, none)
    else (DownloadMode.singleton, none)
  let path ← sources.resolved
  sources.checked
  pure { metadata, mode, fallback, path }

/-- Cancellation wins a tie. -/
def untilCancelled {α : Type} (cancelled : Bool) (result : Except DownloadError α)
    : Except DownloadError α :=
  if cancelled then .error .cancelled else result

-----------------------------------------------------------------------------------------
-- The transfer
-----------------------------------------------------------------------------------------

namespace TransferRun

/-- What the transfer has made of the temporary path. -/
def disk : TransferRun → Option Bytes
  | concurrent run => run.disk
  | singleton run => run.disk

/-- The result of `download_to`, once it has returned. -/
def result : TransferRun → Option (Except DownloadError Unit)
  | concurrent run =>
      match run.stage with
      | .returned result => some result
      | _ => none
  | singleton run =>
      match run.stage with
      | .returned result => some result
      | _ => none

/-- The progress published when the download starts, and on failure. -/
def progress : TransferRun → Progress
  | concurrent run => run.progress
  | singleton run => ⟨run.task.total, run.task.downloaded, [⟨0, run.task.downloaded⟩]⟩

/-- An unknown total is reported as the downloaded size once finished. -/
def finalProgress : TransferRun → Progress
  | concurrent run => run.progress
  | singleton run =>
      { progress (singleton run) with
        total := some (run.task.total.getD run.task.downloaded) }

/-- A cancelled runner needs a cancelled token. -/
def observes : SingletonEvent → Bool
  | .turn sources => sources.cancelled
  | _ => false

def Enabled (usizeSize : Nat) (cancelled : Bool) (transfer : TransferRun) (event : TransferRunEvent)
    : Prop :=
  match transfer, event with
  | concurrent run, .concurrent event => run.Enabled usizeSize event
  | singleton run, .singleton event =>
      run.Enabled event ∧ (observes event = true → cancelled = true)
  | _, _ => False

instance (usizeSize : Nat) (cancelled : Bool)
    : (transfer : TransferRun)
      → (event : TransferRunEvent)
      → Decidable (transfer.Enabled usizeSize cancelled event)
  | concurrent run, .concurrent event => inferInstanceAs (Decidable (run.Enabled usizeSize event))
  | singleton run, .singleton event => inferInstanceAs (Decidable (run.Enabled event ∧ (_ → _)))
  | concurrent _, .singleton _ => .isFalse id
  | singleton _, .concurrent _ => .isFalse id

def next (usizeSize : Nat) (transfer : TransferRun) (event : TransferRunEvent)
    : Checked TransferRun :=
  match transfer, event with
  | concurrent run, .concurrent event => pure (concurrent (run.next usizeSize event))
  | singleton run, .singleton event => do
      let run ← run.next usizeSize event
      pure (singleton run)
  | transfer, _ => pure transfer

end TransferRun

-----------------------------------------------------------------------------------------
-- The attempt
-----------------------------------------------------------------------------------------

namespace AttemptStage

/-- The transfer that is alive, and with it its progress reporter. -/
def transfer? : AttemptStage → Option (TaskInfo × TransferRun)
  | transferring info transfer => some (info, transfer)
  | publishing info transfer => some (info, transfer)
  | discarding info transfer _ => some (info, transfer)
  | tornDown info transfer _ => some (info, transfer)
  | _ => none

/-- The code of the attempt is left, one way or the other. -/
def isOver : AttemptStage → Bool
  | panicked _ => true
  | returned => true
  | _ => false

end AttemptStage

/-- The temporary file that could not be removed. -/
def removalFailed (tmp : Path) : Removal → Option Path
  | .removed => none
  | .notFound => none
  | .failed _ => some tmp

/-- A removal with this outcome can happen to a path. -/
def Removal.fits (content : Option Bytes) : Removal → Bool
  | removed => content.isSome
  | notFound => content.isNone
  | failed _ => true

/-- What a removal leaves. -/
def Removal.leaves (files : Path → Option Bytes) (tmp : Path) : Removal → Path → Option Bytes
  | removed => Function.update files tmp none
  | _ => files

namespace AttemptRun

def new (attempt : Drive.Attempt) (files : Path → Option Bytes) (cancelled : Bool) : AttemptRun where
  attempt
  shared := .new
  cancelled
  files
  stage := .spawned

def Enabled (usizeSize : Nat) (run : AttemptRun) : AttemptEvent → Prop
  | .cancel => True
  | .start _ =>
      match run.stage with
      | .spawned => True
      | _ => False
  | .initialized _ =>
      match run.stage with
      | .initializing => True
      | _ => False
  | .transfer event =>
      match run.stage with
      | .transferring _ transfer => transfer.Enabled usizeSize run.cancelled event
      | _ => False
  | .report _ => run.stage.transfer?.isSome = true
  | .commit =>
      match run.stage with
      | .transferring _ transfer => transfer.result.isSome = true
      | _ => False
  -- There must be a file to rename.
  | .renamed result =>
      match run.stage with
      | .publishing info _ => result.isOk = true → (run.files (tmpPathFor info.path)).isSome = true
      | _ => False
  | .removed removal =>
      match run.stage with
      | .discarding info _ _ => removal.fits (run.files (tmpPathFor info.path)) = true
      | _ => False
  | .concluded =>
      match run.stage with
      | .tornDown _ _ _ => True
      | _ => False
  | .panic _ => run.stage.isOver = false
  | .reportPanic removal =>
      match run.stage with
      | .panicked _ => ∀ tmp ∈ run.shared.tempFile, removal.fits (run.files tmp) = true
      | _ => False
  | .return =>
      match run.stage with
      | .finished => True
      | _ => False

instance (usizeSize : Nat) (run : AttemptRun) (event : AttemptEvent)
    : Decidable (run.Enabled usizeSize event) := by
  obtain ⟨attempt, shared, cancelled, files, stage⟩ := run
  cases event <;> cases stage <;> dsimp only [Enabled] <;> infer_instance

/-- Publish the terminal status of the attempt. -/
def finish (run : AttemptRun) (outcome : Except DownloadError Unit) (progress : Progress)
    (leftoverTempFile : Option Path)
    : Checked AttemptRun := do
  let shared ← run.shared.finish outcome progress leftoverTempFile
  pure { run with shared, stage := .finished }

/-- Publish the start of a transfer and run it. -/
def drive (run : AttemptRun) (info : TaskInfo) (transfer : TransferRun) : Checked AttemptRun := do
  let shared ← run.shared.downloading info (tmpPathFor info.path) transfer.progress
  pure { run with shared, stage := .transferring info transfer }

/-- The transfer of the selected mode. A zero size is unknown, and a coded size is not the
file's.
-/
def transferOf (run : AttemptRun) (info : TaskInfo) : Checked TransferRun :=
  let output := OutputFile.new info.path
  let disk := run.files output.tmp
  let total := info.metadata.contentSize
  match info.mode with
  | .singleton =>
      let known := total ≠ 0 ∧ info.metadata.contentEncoding.isNone = true
      pure (.singleton (.new (if known then some total else none) output disk))
  | .concurrent =>
      if 0 < total then pure (.concurrent (.new total disk))
      else .error (.assertion "a concurrent task needs a known size")

/-- Initialization is over, or was cancelled. -/
def onInitialized (run : AttemptRun) (sources : InitSources) : Checked AttemptRun :=
  match untilCancelled run.cancelled (initializeAttempt run.attempt sources) with
  | .error error => run.finish (.error error) .zero none
  | .ok initialized => do
      let info : TaskInfo :=
        { metadata := initialized.metadata
          mode := initialized.mode
          path := initialized.path
          fallback := initialized.fallback }
      let transfer ← run.transferOf info
      run.drive info transfer

/-- The commit rule: a cancellation observed before the rename discards the result. -/
def commit (run : AttemptRun) (info : TaskInfo) (transfer : TransferRun)
    : Except DownloadError Unit → AttemptRun
  | .ok () =>
      if run.cancelled then { run with stage := .discarding info transfer .cancelled }
      else { run with stage := .publishing info transfer }
  | .error error => { run with stage := .discarding info transfer error }

/-- `publish`: the rename decides; it is atomic. -/
def publish (run : AttemptRun) (info : TaskInfo) (transfer : TransferRun)
    : Except String Unit → AttemptRun
  | .ok () =>
      let tmp := tmpPathFor info.path
      let moved := Function.update (Function.update run.files info.path (run.files tmp)) tmp none
      { run with files := moved, stage := .tornDown info transfer ⟨.ok (), none⟩ }
  | .error message =>
      { run with stage := .discarding info transfer (.io .rename info.path message) }

/-- `discard`: the error stays the one that caused it. -/
def discard (run : AttemptRun) (info : TaskInfo) (transfer : TransferRun) (error : DownloadError)
    (removal : Removal)
    : AttemptRun :=
  let tmp := tmpPathFor info.path
  { run with
    files := removal.leaves run.files tmp
    stage := .tornDown info transfer ⟨.error error, removalFailed tmp removal⟩ }

/-- `drive` returns: fall back to one connection, or publish the outcome. -/
def conclude (run : AttemptRun) (info : TaskInfo) (transfer : TransferRun) (teardown : Teardown)
    : Checked AttemptRun :=
  let progress :=
    match teardown.result with
    | .ok () => transfer.finalProgress
    | .error _ => transfer.progress
  match transfer, teardown.result with
  | .concurrent _, .error (.rangeUnsupported reason _) =>
      let output := OutputFile.new info.path
      run.drive { info with mode := .singleton, fallback := some reason }
        (.singleton (.new none output (run.files output.tmp)))
  | _, result => run.finish result progress teardown.leftoverTempFile

/-- `report_panic`, unless the terminal status was already published. -/
def reportPanic (run : AttemptRun) (message : String) (removal : Removal) : Checked AttemptRun :=
  let run := { run with cancelled := true }
  if run.shared.terminal then
    pure { run with stage := .returned }
  else do
    let (files, leftover) :=
      match run.shared.tempFile with
      | some tmp => (removal.leaves run.files tmp, removalFailed tmp removal)
      | none => (run.files, none)
    let shared ←
      run.shared.finish (.error (.panicked message)) run.shared.progress leftover
    pure { run with files, shared, stage := .returned }

/-- The attempt's thread runs. -/
def start (run : AttemptRun) : Bool → Checked AttemptRun
  | true => do
      let shared ← run.shared.initializing
      pure { run with shared, stage := .initializing }
  | false =>
      let message :=
        "the threaded runtime cannot provide a local runtime; set "
          ++ "TaskBuilder::local_runtime_builder"
      run.finish (.error (.runtime message)) .zero none

/-- A step of the transfer, and what it makes of the temporary file. -/
def onTransfer (usizeSize : Nat) (run : AttemptRun) (info : TaskInfo) (transfer : TransferRun)
    (event : TransferRunEvent)
    : Checked AttemptRun := do
  let transfer ← transfer.next usizeSize event
  pure { run with
    files := Function.update run.files (tmpPathFor info.path) transfer.disk
    stage := .transferring info transfer }

def next (usizeSize : Nat) (run : AttemptRun) (event : AttemptEvent) : Checked AttemptRun :=
  match event, run.stage with
  | .cancel, _ => pure { run with cancelled := true }
  | .start hasRuntime, _ => run.start hasRuntime
  | .initialized sources, _ => run.onInitialized sources
  | .transfer event, .transferring info transfer => run.onTransfer usizeSize info transfer event
  | .report progress, _ => do
      let shared ← run.shared.report progress
      pure { run with shared }
  | .commit, .transferring info transfer =>
      match transfer.result with
      | some result => pure (run.commit info transfer result)
      | none => pure run
  | .renamed result, .publishing info transfer => pure (run.publish info transfer result)
  | .removed removal, .discarding info transfer error =>
      pure (run.discard info transfer error removal)
  | .concluded, .tornDown info transfer teardown => run.conclude info transfer teardown
  | .panic message, _ => pure { run with stage := .panicked message }
  | .reportPanic removal, .panicked message => run.reportPanic message removal
  | .return, _ => pure { run with stage := .returned }
  | _, _ => pure run

/-- Every attempt, whatever it is given and the files hold. -/
def machine (usizeSize : Nat) : Machine AttemptRun AttemptEvent Panic where
  Initial run := ∃ attempt files cancelled, run = .new attempt files cancelled
  Enabled := Enabled usizeSize
  next := next usizeSize

instance (usizeSize : Nat) (run : AttemptRun) (event : AttemptEvent)
    : Decidable ((machine usizeSize).Enabled run event) :=
  inferInstanceAs (Decidable (run.Enabled usizeSize event))

end AttemptRun

end BoltLoad
