import BoltLoad.Task.Basic

/-! The observable status of a task, published by its attempt. The channel keeps the newest
status only; what was published before is kept here as well. A publication is one step: it
runs on the attempt's thread, and a receiver sees it as a whole.
-/

namespace BoltLoad

namespace Status

/-- The lifecycle state of a task. -/
inductive TaskState
  | pending
  | initializing
  | downloading
  | finished
  | failed
  | cancelled
  deriving DecidableEq, Repr

def TaskState.isTerminal : TaskState → Bool
  | finished => true
  | failed => true
  | cancelled => true
  | _ => false

/-- The state and the error of an outcome. -/
def TaskState.ofOutcome : Except DownloadError Unit → TaskState × Option DownloadError
  | .ok () => (.finished, none)
  | .error .cancelled => (.cancelled, some .cancelled)
  | .error error => (.failed, some error)

theorem TaskState.ofOutcome_terminal (outcome : Except DownloadError Unit)
    : (ofOutcome outcome).1.isTerminal = true := by
  cases outcome with
  | ok => rfl
  | error error => cases error <;> rfl

theorem TaskState.ofOutcome_finished_iff {outcome : Except DownloadError Unit}
    : (ofOutcome outcome).1 = .finished ↔ outcome.isOk = true := by
  cases outcome with
  | ok => exact ⟨fun _ => rfl, fun _ => rfl⟩
  | error error =>
      refine ⟨fun finished => ?_, fun never => by cases never⟩
      cases error <;> cases finished

end Status

inductive DownloadMode
  | singleton
  | concurrent
  deriving DecidableEq, Repr

/-- What the adapter tells about the content; the suggested filename only resolves the
destination.
-/
structure BoltLoadAdapterMeta where
  contentSize : Nat
  contentEncoding : Option String
  deriving DecidableEq, Repr

/-- What initialization decided. -/
structure TaskInfo where
  metadata : BoltLoadAdapterMeta
  mode : DownloadMode
  path : Path
  fallback : Option FallbackReason
  deriving DecidableEq, Repr

/-- A snapshot of a task; its speed is left out. -/
structure TaskStatus where
  state : Status.TaskState
  progress : Progress
  info : Option TaskInfo
  error : Option DownloadError
  leftoverTempFile : Option Path
  deriving DecidableEq, Repr

/-- `Progress::default()`. -/
def Progress.zero : Progress := ⟨none, 0, []⟩

def TaskStatus.new (state : Status.TaskState) (progress : Progress) (info : Option TaskInfo)
    : TaskStatus where
  state
  progress
  info
  error := none
  leftoverTempFile := none

/-- What the publisher, its reporters and the panic handler share. -/
structure Shared where
  /-- The statuses published so far, oldest first; the channel holds the last one. -/
  published : List TaskStatus
  /-- Whether the terminal status was published. -/
  terminal : Bool
  info : Option TaskInfo
  /-- The temporary file of the transfer, set once. -/
  tempFile : Option Path
  deriving DecidableEq, Repr

namespace Shared

/-- A channel that holds the `Pending` status. -/
def new : Shared where
  published := [.new .pending .zero none]
  terminal := false
  info := none
  tempFile := none

/-- Publish a status, which must not follow the terminal one. -/
def publish (shared : Shared) (status : TaskStatus) : Checked Shared :=
  if shared.terminal then
    .error (.assertion "a status was published after the terminal one")
  else
    .ok { shared with published := shared.published ++ [status] }

def initializing (shared : Shared) : Checked Shared :=
  shared.publish (.new .initializing .zero none)

/-- The first `Downloading` status, or the first after a fallback. -/
def downloading (shared : Shared) (info : TaskInfo) (tempFile : Path) (progress : Progress)
    : Checked Shared :=
  let shared :=
    { shared with info := some info, tempFile := shared.tempFile.or (some tempFile) }
  shared.publish (.new .downloading progress (some info))

/-- A progress sample of a reporter. -/
def report (shared : Shared) (progress : Progress) : Checked Shared :=
  shared.publish (.new .downloading progress shared.info)

/-- The terminal status of an outcome. -/
def terminalStatus (shared : Shared) (outcome : Except DownloadError Unit) (progress : Progress)
    (leftoverTempFile : Option Path)
    : TaskStatus :=
  let (state, error) := Status.TaskState.ofOutcome outcome
  { TaskStatus.new state progress shared.info with error, leftoverTempFile }

/-- Publish the terminal status, which must be the only one. -/
def finish (shared : Shared) (outcome : Except DownloadError Unit) (progress : Progress)
    (leftoverTempFile : Option Path)
    : Checked Shared :=
  if shared.terminal then
    .error (.assertion "the terminal status was published twice")
  else
    .ok { shared with
      terminal := true
      published := shared.published ++ [shared.terminalStatus outcome progress leftoverTempFile] }

/-- The last published progress. -/
def progress (shared : Shared) : Progress :=
  match shared.published.getLast? with
  | some status => status.progress
  | none => .zero

end Shared

end BoltLoad
