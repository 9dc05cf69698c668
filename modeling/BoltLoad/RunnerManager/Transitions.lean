import BoltLoad.RunnerManager.Invariant

/-! What a tick of the manager can do, once for every path, and that it does nothing else: no
path panics, except on a clock too young for the sampler.
-/

namespace BoltLoad

open OrderedMap

namespace RunnerManager

/-- How a failed attempt is reported; a cancelled one is not. -/
def attemptTick (runnerId : RunnerId) (error : TaskError) : RunnerTick :=
  if error.isCancelled then .downloading
  else .withFailure { runnerId, error, retryable := isAttemptRetryable error }

/-- The error of a runner that stopped before it started. -/
def connectError : StoppedReason → TaskError
  | .failed error => error
  | .finished => .channelClosed

/-- The reasons a started runner completes its chunk with. -/
def completes : StoppedReason → Bool
  | .finished => true
  | .failed .exceededTotalSize => true
  | .failed _ => false

/-- The planner once a runner's chunk is marked finished. -/
def finishedPlanner (manager : RunnerManager) (runnerId : RunnerId) (chunk : ChunkState)
    : ChunkPlanner :=
  (manager.chunkPlanner.forget runnerId).withChunk chunk.allocated.start
    { chunk with status := .finished }

/-- What a chunk accepts of a frame. -/
def accepted (chunk : ChunkState) (data : Bytes) : DownloadedChunk where
  range :=
    ⟨chunk.downloaded.stop,
      chunk.downloaded.stop
        + min data.length (chunk.allocated.stop - chunk.downloaded.stop)⟩
  bytes := data.take (min data.length (chunk.allocated.stop - chunk.downloaded.stop))

/-- The manager once a runner's chunk accepted a frame. -/
def advanced (manager : RunnerManager) (runnerId : RunnerId) (chunk : ChunkState) (data : Bytes)
    : RunnerManager :=
  { manager with
    chunkPlanner := manager.chunkPlanner.advance chunk data.length
    meters :=
      manager.meters.insert runnerId
        ((manager.meters.get? runnerId).getD 0 + data.length) }

/-- What a tick handles. -/
inductive Cause
  | spawnFailure (runnerId : RunnerId) (failed : SpawnFailed)
  | lifecycle (event : LifecycleStreamEvent)
  | data (event : DataStreamEvent)

/-- Everything a handled cause can do. -/
inductive Handled (manager : RunnerManager) : Cause → RunnerTick → RunnerManager → Prop
  | rejected {runnerId : RunnerId} {failed : SpawnFailed}
    {spawnFailures : List (RunnerId × SpawnFailed)} {chunk : ChunkState}
    (sampler : RunnerOutcomeSampler)
    (queued : manager.spawnFailures = (runnerId, failed) :: spawnFailures)
    (owned : manager.chunkPlanner.Owns runnerId chunk)
    : Handled manager (.spawnFailure runnerId failed)
        (attemptTick runnerId (.other failed.message))
        { manager.retired runnerId (manager.chunkPlanner.release runnerId chunk) sampler with
          spawnFailures }
  | started {runnerId : RunnerId} {chunk : ChunkState} {dataRx : Port}
    (owned : manager.chunkPlanner.Owns runnerId chunk) (pending : chunk.status = .pending)
    (waiting : manager.connectingData.get? runnerId = some dataRx)
    : Handled manager (.lifecycle (.event runnerId .started)) .downloading
        (manager.started runnerId chunk dataRx)
  | unconnected {runnerId : RunnerId} {reason : StoppedReason} {chunk : ChunkState}
    (sampler : RunnerOutcomeSampler) (owned : manager.chunkPlanner.Owns runnerId chunk)
    (pending : chunk.status = .pending)
    : Handled manager (.lifecycle (.event runnerId (.stopped reason)))
        (attemptTick runnerId (connectError reason))
        (manager.retired runnerId (manager.chunkPlanner.release runnerId chunk) sampler)
  | completed {runnerId : RunnerId} {reason : StoppedReason} {chunk : ChunkState}
    (sampler : RunnerOutcomeSampler) (owned : manager.chunkPlanner.Owns runnerId chunk)
    (running : chunk.status ≠ .pending) (complete : completes reason = true)
    : Handled manager (.lifecycle (.event runnerId (.stopped reason)))
        (if (manager.finishedPlanner runnerId chunk).isComplete then .finished else .downloading)
        (manager.retired runnerId (manager.finishedPlanner runnerId chunk) sampler)
  | failed {runnerId : RunnerId} {error : TaskError} {chunk : ChunkState}
    (sampler : RunnerOutcomeSampler) (owned : manager.chunkPlanner.Owns runnerId chunk)
    (running : chunk.status ≠ .pending) (incomplete : completes (.failed error) = false)
    : Handled manager (.lifecycle (.event runnerId (.stopped (.failed error))))
        (attemptTick runnerId error)
        (manager.retired runnerId (manager.chunkPlanner.release runnerId chunk) sampler)
  | lost {runnerId : RunnerId} {chunk : ChunkState} (sampler : RunnerOutcomeSampler)
    (owned : manager.chunkPlanner.Owns runnerId chunk)
    : Handled manager (.lifecycle (.closed runnerId))
        (if (manager.chunkPlanner.release runnerId chunk).isComplete then .finished
          else .withFailure { runnerId, error := .channelClosed, retryable := true })
        (manager.retired runnerId (manager.chunkPlanner.release runnerId chunk) sampler)
  | data {runnerId : RunnerId} {item : DataFrame} {chunk : ChunkState}
    (owned : manager.chunkPlanner.Owns runnerId chunk) (running : chunk.status ≠ .pending)
    : Handled manager (.data (.data runnerId item)) (.withChunk (accepted chunk item.data))
        (manager.advanced runnerId chunk item.data)
  | dataClosed {runnerId : RunnerId}
    : Handled manager (.data (.closed runnerId)) .downloading
        { manager with dataAggregator := manager.dataAggregator.erase runnerId }

/-- What the queue and the aggregators may deliver: causes of their members, and `Started`
of a runner that has not started.
-/
def Offers (manager : RunnerManager) : Cause → Prop
  | .spawnFailure runnerId failed => manager.spawnFailures.head? = some (runnerId, failed)
  | .lifecycle (.event runnerId .started) =>
    runnerId ∈ manager.lifecycleAggregator.keys ∧ manager.isConnecting runnerId = true
  | .lifecycle (.event runnerId (.stopped _)) => runnerId ∈ manager.lifecycleAggregator.keys
  | .lifecycle (.closed runnerId) => runnerId ∈ manager.lifecycleAggregator.keys
  | .data (.data runnerId _) => runnerId ∈ manager.dataAggregator.keys
  | .data (.closed runnerId) => runnerId ∈ manager.dataAggregator.keys

/-- Handle one cause. -/
def handle (manager : RunnerManager) (now : Instant)
    : Cause → Checked (RunnerTick × RunnerManager)
  | .spawnFailure runnerId failed =>
    handleSpawnFailed { manager with spawnFailures := manager.spawnFailures.tail } now runnerId
      failed
  | .lifecycle event => manager.handleLifecycleStreamEvent now event
  | .data event => manager.handleDataStreamEvent event

/-- The cause a poll selects. -/
def selected (manager : RunnerManager) (dataEnabled : Bool)
    (lifecycle : Option LifecycleStreamEvent) (data : Option DataStreamEvent)
    : Option Cause :=
  match manager.spawnFailures, lifecycle with
  | (runnerId, failed) :: _, _ => some (.spawnFailure runnerId failed)
  | [], some event => some (.lifecycle event)
  | [], none => if dataEnabled then data.map .data else none

/-- A poll handles the cause it selects. -/
theorem pollTick_eq (manager : RunnerManager) (now : Instant) (dataEnabled : Bool)
    (lifecycle : Option LifecycleStreamEvent) (data : Option DataStreamEvent)
    : manager.pollTick now dataEnabled lifecycle data
      = match manager.selected dataEnabled lifecycle data with
        | none => .ok (none, manager)
        | some cause =>
          (manager.handle now cause).map (fun handled => (some handled.1, handled.2)) := by
  unfold pollTick selected
  cases queue : manager.spawnFailures with
  | cons head rest =>
      obtain ⟨runnerId, failed⟩ := head
      simp only [handle, queue, List.tail_cons]
      rfl
  | nil =>
      cases lifecycle with
      | some event => rfl
      | none => cases dataEnabled <;> cases data <;> rfl

-----------------------------------------------------------------------------------------
-- Every handler does what is listed
-----------------------------------------------------------------------------------------

section Handlers

variable {manager : RunnerManager} {runnerId : RunnerId}

/-- The result of a handler: one of the listed outcomes, or the panic of a clock that has not
run for the sampler's window yet.
-/
def Handles (manager : RunnerManager) (now : Instant) (cause : Cause)
    (result : Checked (RunnerTick × RunnerManager))
    : Prop :=
  (∃ tick after, result = .ok (tick, after) ∧ manager.Handled cause tick after)
  ∨ result = .error (.expect RunnerOutcomeSampler.clockMessage)
    ∧ now < manager.runnerOutcomeSampler.timeWindow

/-- Releasing an allocated runner always succeeds. -/
theorem Joint.releaseRunner_eq (joint : manager.Joint)
    (allocated : manager.idGenerator.isAllocated runnerId = true)
    : manager.releaseRunner runnerId
      = .ok
          { manager with
            idGenerator := manager.idGenerator.released runnerId
            limitSenders := manager.limitSenders.erase runnerId
            lifecycleAggregator := manager.lifecycleAggregator.erase runnerId
            connectingData := manager.connectingData.erase runnerId
            dataAggregator := manager.dataAggregator.erase runnerId } := by
  obtain ⟨released, -⟩ := Generator.release_of_allocated joint.generator allocated
  simp only [releaseRunner, released, Checked.ok_bind]
  rfl

/-- A failed connection releases the range and is reported as an attempt. -/
theorem handleConnectFailed_cases (manager : RunnerManager) {chunk : ChunkState} (wf : manager.chunkPlanner.WellFormed)
    (owned : manager.chunkPlanner.Owns runnerId chunk) (now : Instant) (error : TaskError)
    : (∃ sampler,
        manager.handleConnectFailed now runnerId error
        = .ok
            (attemptTick runnerId error,
              { manager with
                chunkPlanner := manager.chunkPlanner.release runnerId chunk
                runnerOutcomeSampler := sampler }))
      ∨ manager.handleConnectFailed now runnerId error
          = .error (.expect RunnerOutcomeSampler.clockMessage)
        ∧ now < manager.runnerOutcomeSampler.timeWindow := by
  simp only [handleConnectFailed, owned.markFailed_eq wf, Checked.expectOk_ok, Checked.ok_bind,
    attemptTick]
  split
  · exact Or.inl ⟨manager.runnerOutcomeSampler, rfl⟩
  · rcases manager.runnerOutcomeSampler.record_cases now
        (.connectFailed (failureKind (isAttemptRetryable error)))
      with ⟨sampler, recorded, -⟩ | ⟨early, young⟩
    · refine Or.inl ⟨sampler, ?_⟩
      simp only [RunnerOutcomeSampler.recordConnectFailed, recorded, Checked.ok_bind]
      rfl
    · refine Or.inr ⟨?_, young⟩
      simp only [RunnerOutcomeSampler.recordConnectFailed, early, Checked.error_bind]

theorem handleFailed_cases (manager : RunnerManager) {chunk : ChunkState} (wf : manager.chunkPlanner.WellFormed)
    (owned : manager.chunkPlanner.Owns runnerId chunk) (now : Instant) (error : TaskError)
    : (∃ sampler,
        manager.handleFailed now runnerId error
        = .ok
            (attemptTick runnerId error,
              { manager with
                chunkPlanner := manager.chunkPlanner.release runnerId chunk
                runnerOutcomeSampler := sampler }))
      ∨ manager.handleFailed now runnerId error
          = .error (.expect RunnerOutcomeSampler.clockMessage)
        ∧ now < manager.runnerOutcomeSampler.timeWindow := by
  simp only [handleFailed, owned.markFailed_eq wf, Checked.expectOk_ok, Checked.ok_bind,
    attemptTick]
  split
  · exact Or.inl ⟨manager.runnerOutcomeSampler, rfl⟩
  · rcases manager.runnerOutcomeSampler.record_cases now
        (.streamClosed (failureKind error.isRetryable))
      with ⟨sampler, recorded, -⟩ | ⟨early, young⟩
    · refine Or.inl ⟨sampler, ?_⟩
      simp only [RunnerOutcomeSampler.recordStreamClosed, recorded, Checked.ok_bind]
      rfl
    · refine Or.inr ⟨?_, young⟩
      simp only [RunnerOutcomeSampler.recordStreamClosed, early, Checked.error_bind]

/-- A rejected spawn is reported as a failed connection of its runner. -/
theorem Joint.handle_spawnFailure (joint : manager.Joint) (now : Instant) {failed : SpawnFailed}
    (offered : manager.Offers (.spawnFailure runnerId failed))
    : manager.Handles now (.spawnFailure runnerId failed)
        (manager.handle now (.spawnFailure runnerId failed)) := by
  obtain ⟨rest, queued⟩ := List.head?_eq_some_iff.mp offered
  have member : runnerId ∈ manager.rejectedRunners := by simp [rejectedRunners, queued]
  have allocated := (joint.reported runnerId).mpr (Or.inr member)
  obtain ⟨chunk, owned⟩ := joint.owned allocated
  have unmetered : manager.meters.erase runnerId = manager.meters := by
    refine erase_of_get?_none (get?_of_not_mem_keys (fun metered => ?_))
    have started := (joint.metered runnerId metered).2
    rw [joint.rejected runnerId member] at started
    cases started
  obtain ⟨released, -⟩ := Generator.release_of_allocated joint.generator allocated
  simp only [handle, handleSpawnFailed, releaseRunner, released, Checked.ok_bind, queued,
    List.tail_cons]
  let remaining : RunnerManager :=
    { manager with
      idGenerator := manager.idGenerator.released runnerId
      limitSenders := manager.limitSenders.erase runnerId
      spawnFailures := rest
      lifecycleAggregator := manager.lifecycleAggregator.erase runnerId
      connectingData := manager.connectingData.erase runnerId
      dataAggregator := manager.dataAggregator.erase runnerId }
  rcases remaining.handleConnectFailed_cases joint.planner owned now (.other failed.message)
    with ⟨sampler, done⟩ | panics
  · refine Or.inl ⟨_, _, done, ?_⟩
    have outcome
        : manager.Handled (.spawnFailure runnerId failed)
            (attemptTick runnerId (.other failed.message))
            { manager.retired runnerId (manager.chunkPlanner.release runnerId chunk) sampler with
              spawnFailures := rest } :=
      .rejected sampler queued owned
    rw [RunnerManager.retired, unmetered] at outcome
    exact outcome
  · exact Or.inr panics

/-- `Started` of a connecting runner finds its chunk and its data receiver. -/
theorem Joint.handle_started (joint : manager.Joint) (now : Instant)
    (offered : manager.Offers (.lifecycle (.event runnerId .started)))
    : manager.Handles now (.lifecycle (.event runnerId .started))
        (manager.handle now (.lifecycle (.event runnerId .started))) := by
  obtain ⟨member, connecting⟩ := offered
  obtain ⟨port, receiver⟩ := mem_keys_iff.mp member
  obtain ⟨chunk, owned⟩ := joint.owned (joint.allocated_of_lifecycle member)
  have waiting := joint.connecting.mpr ⟨receiver, connecting⟩
  have pending : chunk.status = .pending := by
    rw [joint.isConnecting_eq owned] at connecting
    exact of_decide_eq_true connecting
  refine Or.inl ⟨_, _, ?_, .started owned pending waiting⟩
  simp only [handle, handleLifecycleStreamEvent, handleLifecycle, handleStarted,
    owned.markRunning_eq, Checked.expectOk_ok, Checked.ok_bind, waiting, Checked.expect_some]
  rfl

/-- `Stopped` retires the runner; its chunk is released, or completed if the runner started
and its reason completes it.
-/
theorem Joint.handle_stopped (joint : manager.Joint) (now : Instant) {reason : StoppedReason}
    (offered : manager.Offers (.lifecycle (.event runnerId (.stopped reason))))
    : manager.Handles now (.lifecycle (.event runnerId (.stopped reason)))
        (manager.handle now (.lifecycle (.event runnerId (.stopped reason)))) := by
  have allocated := joint.allocated_of_lifecycle offered
  obtain ⟨chunk, owned⟩ := joint.owned allocated
  have connecting := joint.isConnecting_eq owned
  obtain ⟨released, -⟩ := Generator.release_of_allocated joint.generator allocated
  let remaining : RunnerManager :=
    manager.retired runnerId manager.chunkPlanner manager.runnerOutcomeSampler
  have releases
      : releaseRunner { manager with meters := manager.meters.erase runnerId } runnerId
        = .ok remaining := by
    simp only [releaseRunner, released, Checked.ok_bind]
    rfl
  simp only [handle, handleLifecycleStreamEvent, handleLifecycle, releases, Checked.ok_bind,
    connecting]
  by_cases pending : chunk.status = .pending
  · simp only [pending, decide_true, if_true]
    rcases remaining.handleConnectFailed_cases joint.planner owned now (connectError reason)
      with ⟨sampler, done⟩ | panics
    · exact Or.inl ⟨_, _, done, .unconnected sampler owned pending⟩
    · exact Or.inr panics
  · simp only [pending, decide_false, Bool.false_eq_true, if_false]
    by_cases complete : completes reason = true
    · have finishes
          : manager.Handles now (.lifecycle (.event runnerId (.stopped reason)))
              (do
                let marked ← remaining.markRunnerCompleted now runnerId
                pure (if marked.1 then RunnerTick.finished else .downloading, marked.2)) := by
        have marks : remaining.chunkPlanner.markFinished runnerId = _ := owned.markFinished_eq
        simp only [markRunnerCompleted, marks, Checked.expectOk_ok, Checked.ok_bind,
          RunnerOutcomeSampler.recordCompleted]
        rcases remaining.runnerOutcomeSampler.record_cases now .completed
          with ⟨sampler, recorded, -⟩ | ⟨early, young⟩
        · refine Or.inl ⟨_, _, ?_, .completed sampler owned pending complete⟩
          rw [recorded]
          rfl
        · refine Or.inr ⟨?_, young⟩
          rw [early]
          rfl
      cases reason with
      | finished => exact finishes
      | failed error => cases error <;> first | exact finishes | cases complete
    · cases reason with
      | finished => exact absurd rfl complete
      | failed error =>
          have incomplete : completes (.failed error) = false := by simpa using complete
          have fails
              : manager.Handles now (.lifecycle (.event runnerId (.stopped (.failed error))))
                  (remaining.handleFailed now runnerId error) := by
            rcases remaining.handleFailed_cases joint.planner owned now error
              with ⟨sampler, done⟩ | panics
            · exact Or.inl ⟨_, _, done, .failed sampler owned pending incomplete⟩
            · exact Or.inr panics
          cases error <;> first | exact fails | cases incomplete

/-- A lost runner is retired, and its chunk released. -/
theorem Joint.handle_closed (joint : manager.Joint) (now : Instant)
    (offered : manager.Offers (.lifecycle (.closed runnerId)))
    : manager.Handles now (.lifecycle (.closed runnerId))
        (manager.handle now (.lifecycle (.closed runnerId))) := by
  have allocated := joint.allocated_of_lifecycle offered
  obtain ⟨chunk, owned⟩ := joint.owned allocated
  obtain ⟨released, -⟩ := Generator.release_of_allocated joint.generator allocated
  have finishes (outcome : RunnerOutcome)
      : manager.Handles now (.lifecycle (.closed runnerId))
          (do
            let runnerOutcomeSampler ← manager.runnerOutcomeSampler.record now outcome
            let after ← releaseRunner
              { manager with
                lifecycleAggregator := manager.lifecycleAggregator.erase runnerId
                meters := manager.meters.erase runnerId
                chunkPlanner := manager.chunkPlanner.release runnerId chunk
                runnerOutcomeSampler }
              runnerId
            if after.chunkPlanner.isComplete then
              pure (.finished, after)
            else
              pure (.withFailure { runnerId, error := .channelClosed, retryable := true },
                after)) := by
    rcases manager.runnerOutcomeSampler.record_cases now outcome
      with ⟨sampler, recorded, -⟩ | ⟨early, young⟩
    · refine Or.inl ⟨_, _, ?_, .lost sampler owned⟩
      simp only [recorded, Checked.ok_bind, releaseRunner, released, erase_erase_self]
      simp only [pure, Except.pure, Checked.ok_bind]
      split <;> rfl
    · refine Or.inr ⟨?_, young⟩
      simp only [early, Checked.error_bind]
  simp only [handle, handleLifecycleStreamEvent, handleRunnerLost, owned.markFailed_eq joint.planner,
    Checked.expectOk_ok, Checked.ok_bind]
  split
  · exact finishes (.connectFailed .retryable)
  · exact finishes (.streamClosed .retryable)

/-- A frame of a polled runner is accepted as far as its chunk goes. -/
theorem Joint.handle_data (joint : manager.Joint) (now : Instant) {event : DataStreamEvent}
    (offered : manager.Offers (.data event))
    : manager.Handles now (.data event) (manager.handle now (.data event)) := by
  cases event with
  | closed runnerId => exact Or.inl ⟨_, _, rfl, .dataClosed⟩
  | data runnerId item =>
      obtain ⟨port, receiver⟩ := mem_keys_iff.mp offered
      obtain ⟨registered, started⟩ := joint.data receiver
      have allocated := joint.allocated_of_lifecycle (mem_keys_iff.mpr ⟨port, registered⟩)
      obtain ⟨chunk, owned⟩ := joint.owned allocated
      have running : chunk.status ≠ .pending := by
        rw [joint.isConnecting_eq owned] at started
        exact of_decide_eq_false started
      refine Or.inl ⟨_, _, ?_, .data owned running⟩
      have picks
          : Checked.sub (chunk.advanced item.data.length).downloaded.stop chunk.downloaded.stop
            = .ok (min item.data.length (chunk.allocated.stop - chunk.downloaded.stop)) := by
        simp only [ChunkState.advanced]
        rw [Checked.sub_eq (Nat.le_add_right _ _), Nat.add_sub_cancel_left]
      simp only [handle, handleDataStreamEvent, handleDataFrame,
        owned.updateProgress_eq joint.planner, Checked.ok_bind, Checked.expectOk_ok, picks]
      rfl

/-- Every offered cause is handled as listed, or panics on a clock too young. -/
theorem Joint.handles (joint : manager.Joint) (now : Instant) {cause : Cause}
    (offered : manager.Offers cause)
    : manager.Handles now cause (manager.handle now cause) := by
  cases cause with
  | spawnFailure runnerId failed => exact joint.handle_spawnFailure now offered
  | lifecycle event =>
      cases event with
      | closed runnerId => exact joint.handle_closed now offered
      | event runnerId item =>
          cases item with
          | started => exact joint.handle_started now offered
          | stopped reason => exact joint.handle_stopped now offered
  | data event => exact joint.handle_data now offered

end Handlers

end RunnerManager

end BoltLoad
