import BoltLoad.ChunkPlanner.Model
import BoltLoad.Runner.Event
import BoltLoad.RunnerManager.Generator
import BoltLoad.Strategy.RunnerOutcomeSampler

/-! The runner manager: it allocates runners, owns the planner, and turns what the runners'
channels deliver into ticks. A channel end is the port of its runner; what a poll finds is an
argument. `debug_assert!` is compiled out, as in a release build.
-/

namespace BoltLoad

/-- The identity of a spawned runner, shared by both ends of its channels. -/
abbrev Port := Nat

structure DownloadedChunk where
  range : Range
  bytes : Bytes
  deriving DecidableEq, Repr

structure AttemptFailure where
  runnerId : RunnerId
  error : TaskError
  retryable : Bool
  deriving DecidableEq, Repr

structure MeterSnapshot where
  runners : Nat
  bytes : Nat
  deriving DecidableEq, Repr

inductive TaskState
  | downloading
  | paused
  | finished
  deriving DecidableEq, Repr

/-- The result of one tick. -/
structure RunnerTick where
  state : TaskState
  downloaded : Option DownloadedChunk
  failure : Option AttemptFailure
  deriving DecidableEq, Repr

namespace RunnerTick

def downloading : RunnerTick := ⟨.downloading, none, none⟩

def finished : RunnerTick := ⟨.finished, none, none⟩

def withChunk (chunk : DownloadedChunk) : RunnerTick := ⟨.downloading, some chunk, none⟩

def withFailure (failure : AttemptFailure) : RunnerTick := ⟨.downloading, none, some failure⟩

end RunnerTick

/-- Whether another attempt on the same range may succeed: a prematurely closed stream or
channel is transient, too.
-/
def isAttemptRetryable (error : TaskError) : Bool :=
  error.isRetryable || error == .smallerThanTotalSize || error == .channelClosed

/-- The receiving ends of a spawned runner. -/
structure RunnerChannels where
  lifecycleRx : Port
  dataRx : Port

structure SpawnFailed where
  message : String
  deriving DecidableEq, Repr

inductive SendError
  | runnerNotFound (runnerId : RunnerId)
  | receiverGone (runnerId : RunnerId)
  deriving DecidableEq, Repr

inductive ResizeError
  | planner (source : ChunkPlanner.Error)
  | limit (source : SendError)
  deriving DecidableEq, Repr

structure RunnerRegistration where
  runnerId : RunnerId
  limits : Port

/-- What the lifecycle aggregator delivers. -/
inductive LifecycleStreamEvent
  | event (runnerId : RunnerId) (item : LifecycleEvent)
  | closed (runnerId : RunnerId)
  deriving DecidableEq, Repr

/-- What the data aggregator delivers. -/
inductive DataStreamEvent
  | data (runnerId : RunnerId) (item : DataFrame)
  | closed (runnerId : RunnerId)
  deriving DecidableEq, Repr

/-- The manager. An aggregator is the map of its members: the stream group forgets a member
once removed.
-/
structure RunnerManager where
  idGenerator : Generator
  chunkPlanner : ChunkPlanner
  limitSenders : OrderedMap RunnerId Port
  spawnFailures : List (RunnerId × SpawnFailed)
  runnerOutcomeSampler : RunnerOutcomeSampler
  lifecycleAggregator : OrderedMap RunnerId Port
  connectingData : OrderedMap RunnerId Port
  dataAggregator : OrderedMap RunnerId Port
  meters : OrderedMap RunnerId Nat

/-- `Sender::send` to a limit mailbox; `false` when the receiver is gone. -/
def sendLimit (receiving : Bool) (value : Nat) : Checked Bool :=
  if value = u64Size - 1 then
    .error (.assertion "u64::MAX marks the empty slot")
  else
    .ok receiving

namespace RunnerManager

def new (total maxConcurrency : Nat) : RunnerManager where
  idGenerator := .new maxConcurrency
  chunkPlanner := .new total
  limitSenders := ∅
  spawnFailures := []
  runnerOutcomeSampler := .withDefaults
  lifecycleAggregator := ∅
  connectingData := ∅
  dataAggregator := ∅
  meters := ∅

/-- Take the bytes received since the previous snapshot, keeping the entries. -/
def takeMetersSnapshot (manager : RunnerManager) : MeterSnapshot × RunnerManager :=
  (⟨manager.meters.size, manager.meters.values.sum⟩,
    { manager with
      meters := manager.meters.keys.foldl (fun meters runnerId => meters.insert runnerId 0)
        manager.meters })

/-- Allocate an identifier and the mailbox for its limits, whose port is `port`. -/
def allocateRunner (manager : RunnerManager) (port : Port)
    : Option (RunnerRegistration × RunnerManager) :=
  manager.idGenerator.next.map (fun (runnerId, idGenerator) =>
    (⟨runnerId, port⟩,
      { manager with
        idGenerator
        limitSenders := manager.limitSenders.insert runnerId port }))

def releaseRunner (manager : RunnerManager) (runnerId : RunnerId) : Checked RunnerManager := do
  let (_, idGenerator) ← manager.idGenerator.release runnerId
  pure { manager with
    limitSenders := manager.limitSenders.erase runnerId
    lifecycleAggregator := manager.lifecycleAggregator.erase runnerId
    connectingData := manager.connectingData.erase runnerId
    dataAggregator := manager.dataAggregator.erase runnerId
    idGenerator }

def allocatedRunnerCount (manager : RunnerManager) : Nat := manager.idGenerator.allocatedCount

/-- Whether the runner has not reported `Started` yet. -/
def isConnecting (manager : RunnerManager) (runnerId : RunnerId) : Bool :=
  (manager.chunkPlanner.getRunnerState runnerId).any (fun state => state.status == .pending)

/-- The data of a connecting runner is polled once it reported `Started`. -/
def registerRunnerChannels (manager : RunnerManager) (runnerId : RunnerId)
    (lifecycleRx dataRx : Port)
    : RunnerManager :=
  let manager :=
    { manager with
      lifecycleAggregator := manager.lifecycleAggregator.insert runnerId lifecycleRx }
  if manager.isConnecting runnerId then
    { manager with connectingData := manager.connectingData.insert runnerId dataRx }
  else
    { manager with dataAggregator := manager.dataAggregator.insert runnerId dataRx }

/-- Allocate a runner for `range` and spawn it with `spawn`; a rejected spawn is reported by
a later tick. `none` without a free identifier or range.
-/
def spawnRunnerWithChunk (manager : RunnerManager) (range : Range) (port : Port)
    (spawn : RunnerId → Port → Except SpawnFailed RunnerChannels)
    : Checked (Option Unit × RunnerManager) :=
  match manager.allocateRunner port with
  | none => pure (none, manager)
  | some (registration, manager) =>
    let runnerId := registration.runnerId
    match manager.chunkPlanner.allocatePendingChunk range runnerId with
    | (false, chunkPlanner) => do
      let manager ← releaseRunner { manager with chunkPlanner } runnerId
      pure (none, manager)
    | (true, chunkPlanner) =>
      let manager := { manager with chunkPlanner }
      match spawn runnerId registration.limits with
      | .ok channels =>
        pure (some (),
          manager.registerRunnerChannels runnerId channels.lifecycleRx channels.dataRx)
      | .error failed =>
        pure (some (),
          { manager with spawnFailures := manager.spawnFailures ++ [(runnerId, failed)] })

/-- Shrink the runner's chunk to end `newSize` bytes after its downloaded part, and limit the
runner to match; the limit sent, if any, is returned. The planner is only kept when the
runner still receives limits.
-/
def resizeRunner (manager : RunnerManager) (runnerId : RunnerId) (newSize : Nat)
    (receiving : Bool)
    : Checked (Except ResizeError Unit × Option (Port × Nat) × RunnerManager) := do
  match ← manager.chunkPlanner.resizeRunnerState runnerId newSize with
  | (.error source, _) => pure (.error (.planner source), none, manager)
  | (.ok .unchanged, _) => pure (.ok (), none, manager)
  | (.ok (.shrunk limit), chunkPlanner) =>
    match manager.limitSenders.get? runnerId with
    | none => pure (.error (.limit (.runnerNotFound runnerId)), none, manager)
    | some port =>
      if ← sendLimit receiving limit then
        pure (.ok (), some (port, limit), { manager with chunkPlanner })
      else
        pure (.error (.limit (.receiverGone runnerId)), none, manager)

/-- The message of the planner operations the manager expects to succeed. -/
def plannerMessage : String := "chunk planner should not fail"

/-- The message of a runner that starts without a data receiver. -/
def dataReceiverMessage : String := "a connecting runner has a data receiver"

/-- Whether the task is complete now that the runner is. -/
def markRunnerCompleted (manager : RunnerManager) (now : Instant) (runnerId : RunnerId)
    : Checked (Bool × RunnerManager) := do
  let (result, chunkPlanner) := manager.chunkPlanner.markFinished runnerId
  let _ ← Checked.expectOk result plannerMessage
  let runnerOutcomeSampler ← manager.runnerOutcomeSampler.recordCompleted now
  pure (chunkPlanner.isComplete, { manager with chunkPlanner, runnerOutcomeSampler })

-----------------------------------------------------------------------------------------
-- Lifecycle
-----------------------------------------------------------------------------------------

def failureKind (retryable : Bool) : RunnerFailureKind :=
  if retryable then .retryable else .unretryable

/-- A runner that stopped before it connected: its range is released, and it never counts as
finished.
-/
def handleConnectFailed (manager : RunnerManager) (now : Instant) (runnerId : RunnerId)
    (error : TaskError)
    : Checked (RunnerTick × RunnerManager) := do
  let (result, chunkPlanner) := manager.chunkPlanner.markFailed runnerId
  let _ ← Checked.expectOk result plannerMessage
  let manager := { manager with chunkPlanner }
  if error.isCancelled then
    pure (.downloading, manager)
  else do
    let retryable := isAttemptRetryable error
    let runnerOutcomeSampler ←
      manager.runnerOutcomeSampler.recordConnectFailed now (failureKind retryable)
    pure (.withFailure { runnerId, error, retryable }, { manager with runnerOutcomeSampler })

def handleSpawnFailed (manager : RunnerManager) (now : Instant) (runnerId : RunnerId)
    (failed : SpawnFailed)
    : Checked (RunnerTick × RunnerManager) := do
  let manager ← manager.releaseRunner runnerId
  manager.handleConnectFailed now runnerId (.other failed.message)

/-- A runner reports `Started`: its data is polled from now on. -/
def handleStarted (manager : RunnerManager) (runnerId : RunnerId)
    : Checked (RunnerTick × RunnerManager) := do
  let (result, chunkPlanner) := manager.chunkPlanner.markRunning runnerId
  let _ ← Checked.expectOk result plannerMessage
  let dataRx ← Checked.expect (manager.connectingData.get? runnerId) dataReceiverMessage
  pure (.downloading,
    { manager with
      chunkPlanner
      connectingData := manager.connectingData.erase runnerId
      dataAggregator := manager.dataAggregator.insert runnerId dataRx })

/-- A started runner failed: the unfinished part of its chunk is released. -/
def handleFailed (manager : RunnerManager) (now : Instant) (runnerId : RunnerId)
    (kind : TaskError)
    : Checked (RunnerTick × RunnerManager) := do
  let (result, chunkPlanner) := manager.chunkPlanner.markFailed runnerId
  let _ ← Checked.expectOk result plannerMessage
  let manager := { manager with chunkPlanner }
  if kind.isCancelled then
    pure (.downloading, manager)
  else do
    let runnerOutcomeSampler ←
      manager.runnerOutcomeSampler.recordStreamClosed now (failureKind kind.isRetryable)
    pure (.withFailure { runnerId, retryable := isAttemptRetryable kind, error := kind },
      { manager with runnerOutcomeSampler })

def handleLifecycle (manager : RunnerManager) (now : Instant) (runnerId : RunnerId)
    : LifecycleEvent → Checked (RunnerTick × RunnerManager)
  | .started => manager.handleStarted runnerId
  | .stopped reason => do
    let connecting := manager.isConnecting runnerId
    let manager := { manager with meters := manager.meters.erase runnerId }
    let manager ← manager.releaseRunner runnerId
    if connecting then
      let error :=
        match reason with
        | .failed error => error
        | .finished => .channelClosed
      manager.handleConnectFailed now runnerId error
    else
      match reason with
      | .finished | .failed .exceededTotalSize => do
        let (completed, manager) ← manager.markRunnerCompleted now runnerId
        pure (if completed then .finished else .downloading, manager)
      | .failed kind => manager.handleFailed now runnerId kind

/-- A runner whose lifecycle stream closed without `Stopped`. -/
def handleRunnerLost (manager : RunnerManager) (now : Instant) (runnerId : RunnerId)
    : Checked (RunnerTick × RunnerManager) := do
  let connecting := manager.isConnecting runnerId
  let manager := { manager with meters := manager.meters.erase runnerId }
  let (result, chunkPlanner) := manager.chunkPlanner.markFailed runnerId
  let _ ← Checked.expectOk result plannerMessage
  let runnerOutcomeSampler ←
    if connecting then manager.runnerOutcomeSampler.recordConnectFailed now .retryable
    else manager.runnerOutcomeSampler.recordStreamClosed now .retryable
  let manager ← releaseRunner { manager with chunkPlanner, runnerOutcomeSampler } runnerId
  if manager.chunkPlanner.isComplete then
    pure (.finished, manager)
  else
    pure (.withFailure { runnerId, error := .channelClosed, retryable := true }, manager)

/-- The aggregator forgets a closed member before the manager handles it. -/
def handleLifecycleStreamEvent (manager : RunnerManager) (now : Instant)
    : LifecycleStreamEvent → Checked (RunnerTick × RunnerManager)
  | .event runnerId item => manager.handleLifecycle now runnerId item
  | .closed runnerId =>
    handleRunnerLost
      { manager with lifecycleAggregator := manager.lifecycleAggregator.erase runnerId }
      now runnerId

-----------------------------------------------------------------------------------------
-- Data
-----------------------------------------------------------------------------------------

/-- The part of a frame the planner accepted. It is no longer than the frame, so truncating
to it never widens the cast length.
-/
def handleDataFrame (manager : RunnerManager) (runnerId : RunnerId) (dataFrame : Bytes)
    : Checked (DownloadedChunk × RunnerManager) := do
  let received := (manager.meters.get? runnerId).getD 0
  let meters := manager.meters.insert runnerId (received + dataFrame.length)
  let (result, chunkPlanner) ← manager.chunkPlanner.updateProgress runnerId dataFrame.length
  let range ← Checked.expectOk result plannerMessage
  let pickedSize ← Checked.sub range.stop range.start
  pure (⟨range, dataFrame.take pickedSize⟩, { manager with meters, chunkPlanner })

def handleDataStreamEvent (manager : RunnerManager)
    : DataStreamEvent → Checked (RunnerTick × RunnerManager)
  | .data runnerId item => do
    let (chunk, manager) ← manager.handleDataFrame runnerId item.data
    pure (.withChunk chunk, manager)
  | .closed runnerId =>
    pure (.downloading,
      { manager with dataAggregator := manager.dataAggregator.erase runnerId })

/-- One poll: a rejected spawn first, then the lifecycle, then the data when enabled. -/
def pollTick (manager : RunnerManager) (now : Instant) (dataEnabled : Bool)
    (lifecycle : Option LifecycleStreamEvent) (data : Option DataStreamEvent)
    : Checked (Option RunnerTick × RunnerManager) :=
  match manager.spawnFailures with
  | (runnerId, failed) :: spawnFailures => do
    let (tick, manager) ← handleSpawnFailed { manager with spawnFailures } now runnerId failed
    pure (some tick, manager)
  | [] =>
    match lifecycle with
    | some event => do
      let (tick, manager) ← manager.handleLifecycleStreamEvent now event
      pure (some tick, manager)
    | none =>
      match dataEnabled, data with
      | true, some event => do
        let (tick, manager) ← manager.handleDataStreamEvent event
        pure (some tick, manager)
      | _, _ => pure (none, manager)

end RunnerManager

end BoltLoad
