import BoltLoad.FileWriter.PendingWriter
import BoltLoad.Strategy.Control
import BoltLoad.Strategy.FailurePolicy
import BoltLoad.Task.Basic
import BoltLoad.Transfer.Model

/-! The event loop of one concurrent download attempt. A turn polls the event sources in
priority order and handles the event it finds; the loop reaches its runners through the
transfer. What the sources hold, and what the clock and the samplers of the speed show, are
inputs of the turn.
-/

namespace BoltLoad

inductive ControlFlow
  | continues
  | breaks
  deriving DecidableEq, Repr

/-- Download and write throughput. -/
structure Throughput where
  /-- Bytes written since the last sample. -/
  writtenBytes : Nat
  speed : ByteRate
  perRunnerSpeed : ByteRate
  deriving DecidableEq

namespace Throughput

def new : Throughput := ⟨0, 0, 0⟩

def recordWritten (throughput : Throughput) (bytes : Nat) : Throughput :=
  { throughput with writtenBytes := throughput.writtenBytes + bytes }

/-- A sample takes the written bytes; the speed it shows is an input. -/
def sample (meters : MeterSnapshot) (speed : ByteRate) : Throughput where
  writtenBytes := 0
  speed := speed
  perRunnerSpeed := if meters.runners = 0 then 0 else speed / meters.runners

end Throughput

structure DownloadLoop where
  transfer : Transfer
  strategy : StrategyControl
  policy : FailurePolicy
  maxConcurrency : Nat
  writer : PendingWriter
  /-- When the armed deadline timer fires. -/
  deadlineAt : Instant
  throughput : Throughput

inductive LoopEvent
  | cancelled
  | deadline
  | writerCompleted (completions : Option (List WriteCompletion))
  | strategyTimer
  | throughputTimer
  | runner (tick : RunnerTick)

/-- What a turn of the loop finds. -/
structure LoopSources where
  cancelled : Bool := false
  deadline : Bool := false
  strategyTimer : Bool := false
  throughputTimer : Bool := false
  /-- What the aggregators offer. -/
  lifecycle : Option LifecycleStreamEvent := none
  data : Option DataStreamEvent := none
  /-- The clock as a runner's event or the event of the loop is handled. -/
  now : Instant := 0
  /-- The clock as the strategies read it. -/
  clock : StepClock := ⟨0, 0, 0⟩
  /-- The speed a sample shows. -/
  speed : ByteRate := 0
  /-- How a write dispatched in this turn ends at once, if it does. -/
  immediate : Immediate := none
  /-- How the runtime takes the runner spawned for a range. -/
  outcome : Range → Except SpawnFailed Unit := fun _ => .ok ()

namespace Transfer

/-- `spawn` with what the manager returns. -/
def spawnRunnerWithChunk (transfer : Transfer) (range : Range)
    (outcome : Except SpawnFailed Unit)
    : Checked (Option Unit × Transfer) := do
  let (result, _) ← transfer.managed.spawn range outcome
  let after ← transfer.spawn range outcome
  pure (result, after)

/-- `resize` with what the manager returns. -/
def resizeRunner (transfer : Transfer) (runnerId : RunnerId) (newSize : Nat)
    : Checked (Except ResizeError Unit × Transfer) := do
  let (result, _, _) ← transfer.managed.resize runnerId newSize (transfer.receives runnerId)
  let after ← transfer.resize runnerId newSize
  pure (result, after)

end Transfer

namespace DownloadLoop

def new (total maxConcurrency : Nat) (options : TaskOptions) (now : Instant) : DownloadLoop where
  transfer := .new total maxConcurrency
  strategy := .new maxConcurrency
  policy := .new options now
  maxConcurrency := maxConcurrency
  writer := .new maxConcurrency
  deadlineAt := (FailurePolicy.new options now).deadline
  throughput := .new

def manager (loop : DownloadLoop) : RunnerManager := loop.transfer.managed.manager

-----------------------------------------------------------------------------------------
-- The strategy's tick
-----------------------------------------------------------------------------------------

/-- The message of a split of an unknown runner. -/
def taskIdMessage : String := "task id not found"

/-- The message of a runner that cannot be allocated. -/
def allocateMessage : String := "failed to allocate runner with chunk"

def spawnRunner (transfer : Transfer) (range : Range) (outcome : Range → Except SpawnFailed Unit)
    : Checked Transfer := do
  let (result, transfer) ← transfer.spawnRunnerWithChunk range (outcome range)
  let _ ← Checked.expect result allocateMessage
  pure transfer

/-- Split the runner's incomplete range in two, spawning a runner for the second half. A
refused resize skips the split.
-/
def split (transfer : Transfer) (runnerId : RunnerId) (incompleteRange : Range)
    (outcome : Range → Except SpawnFailed Unit)
    : Checked Transfer := do
  let size ← Checked.sub incompleteRange.stop incompleteRange.start
  let halfSize := size / 2
  match ← transfer.resizeRunner runnerId halfSize with
  | (.error _, transfer) => pure transfer
  | (.ok (), transfer) => do
    let middle ← Checked.add incompleteRange.start halfSize
    spawnRunner transfer ⟨middle, incompleteRange.stop⟩ outcome

/-- Split runners one after the other. -/
def splitAll (outcome : Range → Except SpawnFailed Unit)
    : Transfer → List (RunnerId × Range) → Checked Transfer
  | transfer, [] => pure transfer
  | transfer, (runnerId, incompleteRange) :: rest => do
    let transfer ← split transfer runnerId incompleteRange outcome
    splitAll outcome transfer rest

def apply (loop : DownloadLoop) (outcome : Range → Except SpawnFailed Unit)
    : StrategyAction → Checked DownloadLoop
  | .splitAllTask plannedChunkSize => do
    let states ← loop.manager.chunkPlanner.getIncompleteStates (some plannedChunkSize)
    let transfer ← splitAll outcome loop.transfer states
    pure { loop with transfer }
  | .splitGivenTask taskId => do
    let state ← Checked.expect (loop.manager.chunkPlanner.getRunnerState taskId) taskIdMessage
    let transfer ← split loop.transfer taskId state.incompleteRange outcome
    pure { loop with transfer }
  | .changeMaxConcurrency maxConcurrency => pure { loop with maxConcurrency }
  | .createTask range => do
    let transfer ← spawnRunner loop.transfer range outcome
    pure { loop with transfer }

/-- Apply actions one after the other. -/
def applyAll (outcome : Range → Except SpawnFailed Unit)
    : DownloadLoop → List StrategyAction → Checked DownloadLoop
  | loop, [] => pure loop
  | loop, action :: rest => do
    let loop ← loop.apply outcome action
    applyAll outcome loop rest

/-- The strategies only change the manager's sampler. -/
def execute (loop : DownloadLoop) (clock : StepClock)
    : Checked (List StrategyAction × DownloadLoop) := do
  let (actions, strategy, manager) ←
    loop.strategy.execute loop.maxConcurrency loop.throughput.speed
      loop.throughput.perRunnerSpeed loop.manager clock
  pure (actions,
    { loop with
      strategy
      transfer :=
        { loop.transfer with managed := { loop.transfer.managed with manager } } })

def onStrategyTick (loop : DownloadLoop) (clock : StepClock)
    (outcome : Range → Except SpawnFailed Unit)
    : Checked DownloadLoop := do
  let (actions, loop) ← loop.execute clock
  applyAll outcome loop actions

-----------------------------------------------------------------------------------------
-- Completions, deadlines and samples
-----------------------------------------------------------------------------------------

def writeFailedMessage (range : Range) (error : FileWriterError) : String :=
  s!"write failed at {range.start}..{range.stop}: {error.message}"

/-- The loop of `checkCompletions`: the bytes written so far, and the first error. -/
def checkFrom (written : Nat) : List WriteCompletion → Checked (Except DownloadError Nat)
  | [] => pure (.ok written)
  | completion :: rest =>
    match completion.result with
    | .ok () => do
      let length ← Checked.sub completion.range.stop completion.range.start
      checkFrom (written + length) rest
    | .error error => pure (.error (.other (writeFailedMessage completion.range error)))

def checkCompletions (completions : List WriteCompletion) : Checked (Except DownloadError Nat) :=
  checkFrom 0 completions

def recordCompletions (loop : DownloadLoop) (completions : List WriteCompletion)
    : Checked (Except DownloadError Unit × DownloadLoop) := do
  match ← checkCompletions completions with
  | .error error => pure (.error error, loop)
  | .ok written =>
    pure (.ok (),
      { loop with
        throughput := loop.throughput.recordWritten written
        policy := loop.policy.onWriteOk written })

/-- The deadline timer is armed lazily: progress only moves the policy's deadline. -/
def onDeadline (loop : DownloadLoop) (now : Instant) : Except DownloadError Unit × DownloadLoop :=
  match loop.policy.check now with
  | some error => (.error (.ofTaskError error), loop)
  | none => (.ok (), { loop with deadlineAt := loop.policy.deadline })

/-- Publishing the progress changes nothing here. -/
def onThroughputTick (loop : DownloadLoop) (speed : ByteRate) : DownloadLoop :=
  let (meters, manager) := loop.manager.takeMetersSnapshot
  { loop with
    transfer := { loop.transfer with managed := { loop.transfer.managed with manager } }
    throughput := .sample meters speed }

-----------------------------------------------------------------------------------------
-- Runners
-----------------------------------------------------------------------------------------

/-- The error that ends the concurrent mode for the single-connection fallback. Only these
exact causes count.
-/
def rangeUnsupported : TaskError → Option DownloadError
  | .streamError (.unretryable cause) =>
    let unsupported (reason : FallbackReason) : DownloadError :=
      .rangeUnsupported reason (.unretryable cause)
    match cause with
    | .rangeIgnored => some (unsupported .rangeIgnored)
    | .rangeContentCoded _ => some (unsupported .contentCoded)
    | .rangeBodyTooLong _ => some (unsupported .contentCoded)
    | .rangeBodyTooShort _ _ => some (unsupported .contentCoded)
    | .bodyUndecodable _ => some (unsupported .contentCoded)
    | _ => none
  | _ => none

def writerFullMessage (error : WriterFullError) : String :=
  let range := error.pendingWrite.range
  s!"writer full (invariant violation): {range.start}..{range.stop}"

/-- Write a chunk the planner accepted; a non-empty one is progress. -/
def acceptChunk (loop : DownloadLoop) (chunk : DownloadedChunk) (now : Instant)
    (immediate : Immediate)
    : Checked (Except DownloadError Unit × DownloadLoop) := do
  match ← loop.writer.writeRange chunk.range chunk.bytes immediate with
  | (.error full, writer) => pure (.error (.other (writerFullMessage full)), { loop with writer })
  | (.ok _, writer) =>
    pure (.ok (),
      { loop with
        writer
        policy :=
          if chunk.range.start < chunk.range.stop then loop.policy.onProgress now
          else loop.policy })

/-- A failed attempt may end the task. -/
def onFailure (loop : DownloadLoop) (failure : AttemptFailure)
    : Except DownloadError Unit × DownloadLoop :=
  match rangeUnsupported failure.error with
  | some error => (.error error, loop)
  | none =>
    match loop.policy.onFailure failure loop.manager.allocatedRunnerCount with
    | (some error, policy) => (.error (.ofTaskError error), { loop with policy })
    | (none, policy) => (.ok (), { loop with policy })

/-- How the loop goes on after a tick. -/
def flow (tick : RunnerTick) : ControlFlow :=
  if tick.state = .finished then .breaks else .continues

/-- The failure of a tick, if any, is looked at after its chunk. -/
def afterChunk (loop : DownloadLoop) (tick : RunnerTick)
    : Except DownloadError ControlFlow × DownloadLoop :=
  match tick.failure with
  | none => (.ok (flow tick), loop)
  | some failure =>
    match loop.onFailure failure with
    | (.error error, loop) => (.error error, loop)
    | (.ok (), loop) => (.ok (flow tick), loop)

def onRunner (loop : DownloadLoop) (tick : RunnerTick) (now : Instant) (immediate : Immediate)
    : Checked (Except DownloadError ControlFlow × DownloadLoop) :=
  match tick.downloaded with
  | none => pure (loop.afterChunk tick)
  | some chunk => do
    match ← loop.acceptChunk chunk now immediate with
    | (.error error, loop) => pure (.error error, loop)
    | (.ok (), loop) => pure (loop.afterChunk tick)

-----------------------------------------------------------------------------------------
-- Turns
-----------------------------------------------------------------------------------------

/-- Runner data is only polled while the writer can take it. -/
def pollRunner (loop : DownloadLoop) (sources : LoopSources)
    : Checked (Option LoopEvent × DownloadLoop) := do
  let (tick, transfer) ←
    loop.transfer.tick sources.now loop.writer.canWrite sources.lifecycle sources.data
  pure (tick.map .runner, { loop with transfer })

/-- Cancel, then the deadline, the writer, the strategy, the throughput and the runners. -/
def pollEvent (loop : DownloadLoop) (sources : LoopSources)
    : Checked (Option LoopEvent × DownloadLoop) :=
  if sources.cancelled then
    pure (some .cancelled, loop)
  else if sources.deadline then
    pure (some .deadline, loop)
  else do
    match ← loop.writer.pollCompletions sources.immediate with
    | (some completions, writer) =>
      pure (some (.writerCompleted (some completions)), { loop with writer })
    | (none, writer) =>
      if sources.strategyTimer then
        pure (some .strategyTimer, { loop with writer })
      else if sources.throughputTimer then
        pure (some .throughputTimer, { loop with writer })
      else
        pollRunner { loop with writer } sources

/-- An event that only fails or goes on. -/
def goesOn
    : Except DownloadError Unit × DownloadLoop → Except DownloadError ControlFlow × DownloadLoop
  | (result, loop) => (result.map (fun _ => .continues), loop)

def handleEvent (loop : DownloadLoop) (sources : LoopSources)
    : LoopEvent → Checked (Except DownloadError ControlFlow × DownloadLoop)
  | .cancelled => pure (.error .cancelled, loop)
  | .deadline => pure (goesOn (loop.onDeadline sources.now))
  | .writerCompleted (some completions) => do
    let recorded ← loop.recordCompletions completions
    pure (goesOn recorded)
  | .writerCompleted none =>
    pure (.error (.other "writer completion channel closed unexpectedly"), loop)
  | .strategyTimer => do
    let loop ← loop.onStrategyTick sources.clock sources.outcome
    pure (.ok .continues, loop)
  | .throughputTimer => pure (.ok .continues, loop.onThroughputTick sources.speed)
  | .runner tick => loop.onRunner tick sources.now sources.immediate

end DownloadLoop

end BoltLoad
