import BoltLoad.Runner.Run

/-! What a runner's run keeps to: the order of its events, the bytes it pushed as a prefix of
those it read, and what each reason to stop says about them.
-/

namespace BoltLoad

namespace TaskRunner

/-- The byte count is the total in force, or at least not zero without one. -/
def Delivered (runner : TaskRunner) : Prop :=
  match runner.total with
  | some total => runner.downloaded = total
  | none => 0 < runner.downloaded

/-- The byte count is past the total in force. -/
def Overrun (runner : TaskRunner) : Prop :=
  ∃ total, runner.total = some total ∧ total < runner.downloaded

end TaskRunner

namespace StoppedReason

/-- What a reason says about the bytes delivered; `refused` is whether a limit ever failed to
apply.
-/
def Justified (runner : TaskRunner) (refused : Bool) : StoppedReason → Prop
  | .finished => runner.Delivered
  | .failed .exceededTotalSize => runner.Overrun ∨ refused = true
  | .failed _ => True

/-- The reasons that are only reported after a completed drain. -/
def followsDrain : StoppedReason → Bool
  | .finished => true
  | .failed .exceededTotalSize => true
  | .failed (.streamError _) => true
  | .failed _ => false

/-- Only the total and the byte count matter. -/
theorem Justified.of_same {runner after : TaskRunner} {refused : Bool} {reason : StoppedReason}
    (justified : reason.Justified runner refused) (total : after.total = runner.total)
    (downloaded : after.downloaded = runner.downloaded)
    : reason.Justified after refused := by
  unfold Justified TaskRunner.Delivered TaskRunner.Overrun at justified ⊢
  rw [total, downloaded]
  exact justified

end StoppedReason

/-- What of the bytes read is left once the staged frame counts as pushed. -/
def StreamingState.Rest (state : StreamingState) (continuation : Continuation)
    (pushed read : Bytes)
    : Prop :=
  match continuation with
  | .resumeItem =>
    ∃ cursor, state.item = some cursor
      ∧ cursor.offset ≤ cursor.bytes.length
      ∧ read = pushed ++ cursor.bytes.drop cursor.offset
  | _ => pushed <+: read

/-- Where the bytes read are while streaming: pushed, then staged, or buffered. -/
def StreamingState.Flow (state : StreamingState) (pushed read : Bytes) (refused : Bool) : Prop :=
  match state.staged with
  | none =>
    state.item = none ∧ state.buffer.length ≤ bufferSize ∧ read = pushed ++ state.buffer
  | some (emission, continuation) =>
    state.buffer = []
    ∧ (emission.deferred = some (.failed .exceededTotalSize) → refused = true)
    ∧ ∃ frame, emission.frame = some frame
      ∧ frame.data ≠ []
      ∧ state.Rest continuation (pushed ++ frame.data) read

/-- The bytes a streaming state accounts for are a prefix of those read. -/
theorem StreamingState.Flow.delivers {state : StreamingState} {pushed read : Bytes}
    {refused : Bool} (flow : state.Flow pushed read refused)
    : pushed <+: read := by
  simp only [StreamingState.Flow] at flow
  split at flow
  · exact ⟨_, flow.2.2.symm⟩
  · obtain ⟨-, -, frame, -, -, rest⟩ := flow
    have staged : pushed ++ frame.data <+: read := by
      unfold StreamingState.Rest at rest
      split at rest
      · obtain ⟨cursor, -, -, whole⟩ := rest
        exact ⟨_, whole.symm⟩
      · exact rest
    exact (List.prefix_append _ _).trans staged

/-- The loop of a connected runner that stops with `result`. -/
def RunnerLoop.stopping (runner : TaskRunner) (result : RunResult) : RunnerLoop where
  runner := runner
  phase :=
    if TaskRunner.shouldWaitDataDrain result then .draining result
    else .publishingStopped (some (.stopped (RunnerLoop.stoppedReason result)))

/-- A streaming loop goes on streaming, or stops for a justified reason. -/
inductive RunnerLoop.Resumed (runner : TaskRunner) (pushed read : Bytes) (refused : Bool)
    : RunnerLoop → Prop
  | streaming {state : StreamingState} (flow : state.Flow pushed read refused)
    : Resumed runner pushed read refused ⟨runner, .streaming state⟩
  | stopping {result : RunResult} (delivers : pushed <+: read)
    (justified : (RunnerLoop.stoppedReason result).Justified runner refused)
    : Resumed runner pushed read refused (.stopping runner result)

-----------------------------------------------------------------------------------------
-- The loop
-----------------------------------------------------------------------------------------

namespace RunnerLoop

variable {usizeSize : Nat} {runner : TaskRunner} {state : StreamingState}
variable {pushed read : Bytes} {refused : Bool}

theorem beginStop_streaming (result : RunResult)
    : beginStop ⟨runner, .streaming state⟩ result = .stopping runner result := by
  cases waits : TaskRunner.shouldWaitDataDrain result <;>
    simp [beginStop, stopping, publishStopped, waits]

theorem beginStop_publishingStarted (result : RunResult)
    : beginStop ⟨runner, .publishingStarted⟩ result = .stopping runner result := by
  cases waits : TaskRunner.shouldWaitDataDrain result <;>
    simp [beginStop, stopping, publishStopped, waits]

/-- A runner that stops while connecting releases its connection first. -/
theorem beginStop_connecting (result : RunResult)
    : beginStop ⟨runner, .connecting⟩ result
      = .stopping { runner with input := .abandoned } result := by
  cases waits : TaskRunner.shouldWaitDataDrain result <;>
    simp [beginStop, stopping, publishStopped, waits]

/-- The outcome of `validate_size` is what its reason says. -/
theorem validateSize_justified (runner : TaskRunner) (refused : Bool)
    : (stoppedReason runner.validateSize).Justified runner refused := by
  unfold TaskRunner.validateSize
  cases total : runner.total with
  | none =>
      simp only
      split
      · rename_i some
        simpa [stoppedReason, StoppedReason.Justified, TaskRunner.Delivered, total] using some
      · trivial
  | some limit =>
      simp only
      split
      · rename_i same
        simp [stoppedReason, StoppedReason.Justified, TaskRunner.Delivered, total, same]
      · split
        · trivial
        · refine Or.inl ⟨limit, total, ?_⟩
          omega

/-- A stop that does not wait reports none of the reasons that follow a drain. -/
theorem followsDrain_of_not_waiting {result : RunResult}
    (immediate : TaskRunner.shouldWaitDataDrain result = false)
    : (stoppedReason result).followsDrain = false := by
  cases result with
  | ok value => cases immediate
  | error error =>
      cases error with
      | cancelled => rfl
      | failed error => cases error <;> first | rfl | cases immediate

/-- A flush stages the buffered bytes, or stops when there are none. -/
theorem flush_resumed {continuation : Continuation}
    (rest : state.Rest continuation (pushed ++ state.buffer) read)
    (filled : continuation = .resumeItem → state.buffer ≠ [])
    : ∃ after, flush ⟨runner, .streaming state⟩ continuation = .ok after
      ∧ Resumed runner pushed read refused after := by
  cases buffered : state.buffer with
  | nil =>
      simp only [flush, streaming, Checked.ok_bind, buffered, List.isEmpty_nil, if_true]
      simp only [buffered, List.append_nil] at rest
      cases continuation with
      | resumeItem => exact absurd buffered (filled rfl)
      | validate =>
          refine ⟨_, rfl, ?_⟩
          rw [beginStop_streaming]
          exact .stopping rest (validateSize_justified runner refused)
      | idleTimeout =>
          refine ⟨_, rfl, ?_⟩
          rw [beginStop_streaming]
          exact .stopping rest trivial
      | streamError source =>
          refine ⟨_, rfl, ?_⟩
          rw [beginStop_streaming]
          exact .stopping rest trivial
  | cons head tail =>
      refine ⟨_, by simp only [flush, streaming, Checked.ok_bind, buffered]; rfl, ?_⟩
      refine .streaming ?_
      simp only [StreamingState.Flow, Emission.new]
      refine ⟨trivial, ?_, ⟨head :: tail⟩, rfl, by simp, ?_⟩
      · intro never
        cases never
      · rw [buffered] at rest
        exact rest

/-- Buffering the current item keeps every byte in place: a full buffer is staged, and the
total only decides where the run stops.
-/
theorem bufferItem_resumed {cursor : ItemCursor} (idle : state.staged = none)
    (current : state.item = some cursor) (within : cursor.offset ≤ cursor.bytes.length)
    (fits : state.buffer.length ≤ bufferSize)
    (flow : read = pushed ++ state.buffer ++ cursor.bytes.drop cursor.offset)
    : ∃ after, bufferItem usizeSize ⟨runner, .streaming state⟩ = .ok after
      ∧ Resumed runner pushed read refused after := by
  have buffered : pushed ++ state.buffer <+: read := ⟨_, flow.symm⟩
  simp only [bufferItem, streaming, Checked.ok_bind]
  split
  · exact flush_resumed buffered (fun never => by cases never)
  simp only [current, Checked.expect_some, Checked.ok_bind]
  split
  · rename_i exhausted
    refine ⟨_, rfl, .streaming ?_⟩
    simp only [StreamingState.Flow, idle]
    refine ⟨trivial, fits, ?_⟩
    simpa [exhausted] using flow
  rw [Checked.sub_eq within]
  simp only [Checked.ok_bind]
  split
  · rename_i roomy
    have extended (count : Nat)
        : pushed ++ (state.buffer ++ (cursor.bytes.drop cursor.offset).take count)
          <+: read := by
      refine ⟨(cursor.bytes.drop cursor.offset).drop count, ?_⟩
      rw [flow]
      simp [List.append_assoc]
    split
    · exact flush_resumed (extended _) (fun never => by cases never)
    · rename_i short
      -- The whole rest of the item was buffered.
      refine ⟨_, rfl, .streaming ?_⟩
      simp only [StreamingState.Flow, idle]
      refine ⟨trivial, ?_, ?_⟩
      · simp only [List.length_append, List.length_take, List.length_drop]
        omega
      · rw [flow, List.append_assoc, List.take_of_length_le]
        simp only [List.length_drop]
        omega
  · rename_i full
    rw [Checked.sub_eq fits]
    simp only [Checked.ok_bind]
    refine flush_resumed ?_ ?_
    · refine ⟨_, rfl, ?_, ?_⟩
      · simp only
        omega
      · simp only
        rw [flow, ← List.drop_drop]
        simp [List.append_assoc]
    · intro _ empty
      have lengths := congrArg List.length empty
      simp only [List.length_append, List.length_take, List.length_drop, List.length_nil]
        at lengths
      have positive : 0 < bufferSize := by decide
      omega

/-- Once its frame is pushed, an emission is followed up by its continuation. -/
theorem resumeAfterEmit_resumed {continuation : Continuation} {deferred : Option TaskRunError}
    (idle : state.staged = none) (empty : state.buffer = [])
    (rest : state.Rest continuation pushed read)
    (excused : deferred = some (.failed .exceededTotalSize) → refused = true)
    : ∃ after,
        resumeAfterEmit usizeSize ⟨runner, .streaming state⟩ continuation (.ok deferred)
        = .ok after
      ∧ Resumed runner pushed read refused after := by
  have stops {result : RunResult} (delivers : pushed <+: read)
      (justified : (stoppedReason result).Justified runner refused)
      : ∃ after,
          (pure (beginStop ⟨runner, .streaming state⟩ result) : Checked RunnerLoop) = .ok after
        ∧ Resumed runner pushed read refused after :=
    ⟨_, rfl, by rw [beginStop_streaming]; exact .stopping delivers justified⟩
  have deferredJustified (error : TaskRunError) (failed : deferred = some error)
      : (stoppedReason (.error error)).Justified runner refused := by
    cases error with
    | cancelled => trivial
    | failed error =>
        by_cases exceeded : error = .exceededTotalSize
        · subst exceeded
          exact Or.inr (excused failed)
        · unfold stoppedReason StoppedReason.Justified
          split <;> simp_all
  have delivers : pushed <+: read := by
    cases continuation with
    | resumeItem =>
        obtain ⟨cursor, -, -, flow⟩ := rest
        exact ⟨_, flow.symm⟩
    | _ => exact rest
  cases continuation with
  | streamError source => exact stops delivers trivial
  | validate =>
      cases deferred with
      | none => exact stops delivers (validateSize_justified runner refused)
      | some error => exact stops delivers (deferredJustified error rfl)
  | idleTimeout =>
      cases deferred with
      | none => exact stops delivers trivial
      | some error => exact stops delivers (deferredJustified error rfl)
  | resumeItem =>
      cases deferred with
      | some error => exact stops delivers (deferredJustified error rfl)
      | none =>
          obtain ⟨cursor, current, within, flow⟩ := rest
          refine bufferItem_resumed idle current within ?_ ?_
          · simp [empty]
          · simpa [empty] using flow

theorem phase_of_isStopped {loop : RunnerLoop} (stopped : loop.isStopped = true)
    : loop.phase = .stopped := by
  unfold isStopped at stopped
  split at stopped
  · assumption
  · cases stopped

/-- With a data sender, a drain is complete only when the ring is. -/
theorem drained_of_pollDrain {loop : RunnerLoop} {sources : Sources}
    (dataOpen : loop.runner.dataOpen = true) (seen : loop.pollDrain sources = some .drained)
    : sources.drained = true := by
  simp only [pollDrain, dataOpen, Bool.not_true, Bool.false_eq_true, if_false] at seen
  split at seen
  · cases seen
  split at seen
  · assumption
  split at seen <;> cases seen

end RunnerLoop

-----------------------------------------------------------------------------------------
-- The run
-----------------------------------------------------------------------------------------

@[simp] theorem framesOf_append (first second : List Pushed)
    : framesOf (first ++ second) = framesOf first ++ framesOf second :=
  List.filterMap_append

@[simp] theorem eventsOf_append (first second : List Pushed)
    : eventsOf (first ++ second) = eventsOf first ++ eventsOf second :=
  List.filterMap_append

@[simp] theorem framesOf_data (frame : DataFrame) : framesOf [.data frame] = [frame] := rfl

@[simp] theorem framesOf_lifecycle (event : LifecycleEvent) : framesOf [.lifecycle event] = [] :=
  rfl

@[simp] theorem eventsOf_data (frame : DataFrame) : eventsOf [.data frame] = [] := rfl

@[simp] theorem eventsOf_lifecycle (event : LifecycleEvent)
    : eventsOf [.lifecycle event] = [event] :=
  rfl

@[simp] theorem bytesOf_nil : bytesOf [] = [] := rfl

@[simp] theorem bytesOf_append (first second : List DataFrame)
    : bytesOf (first ++ second) = bytesOf first ++ bytesOf second :=
  List.flatMap_append

@[simp] theorem bytesOf_singleton (frame : DataFrame) : bytesOf [frame] = frame.data := by
  simp [bytesOf]

/-- `Started`, then frames only. -/
def Opened (history : List Pushed) : Prop :=
  ∃ frames : List DataFrame, history = .lifecycle .started :: frames.map .data

theorem Opened.push {history : List Pushed} (opened : Opened history) (frame : DataFrame)
    : Opened (history ++ [.data frame]) := by
  obtain ⟨frames, rfl⟩ := opened
  exact ⟨frames ++ [frame], by simp⟩

/-- Nothing yet, or `Started` and frames of a connected runner. -/
def RunnerRun.Begun (run : RunnerRun) (history : List Pushed) : Prop :=
  history = [] ∨ run.loop.runner.input = .connected ∧ Opened history

/-- What holds of a stop being reported for `reason`. -/
structure RunnerRun.Outcome (run : RunnerRun) (reason : StoppedReason) : Prop where
  justified : reason.Justified run.loop.runner run.refused
  drained : reason.followsDrain = true → run.data = [] ∨ run.dataGone = true

/-- What each phase knows of its runner's history. -/
def RunnerRun.PhaseSound (run : RunnerRun) : Prop :=
  match run.loop.phase with
  | .connecting => run.loop.runner.input = .connecting ∧ run.history = [] ∧ run.read = []
  | .publishingStarted =>
    run.loop.runner.input = .connected
    ∧ run.history = (if run.driver = .awaitingReady then [.lifecycle .started] else [])
    ∧ run.read = []
  | .streaming state =>
    run.loop.runner.input = .connected
    ∧ Opened run.history
    ∧ state.Flow run.pushed run.read run.refused
  | .draining result =>
    run.Begun run.history
    ∧ (RunnerLoop.stoppedReason result).Justified run.loop.runner run.refused
  | .publishingStopped event =>
    run.Begun run.history ∧ ∃ reason, event = some (.stopped reason) ∧ run.Outcome reason
  | .stopped =>
    (run.Begun run.history ∧ run.lifecycleGone = true)
    ∨ ∃ before reason, run.history = before ++ [.lifecycle (.stopped reason)]
        ∧ run.Begun before
        ∧ run.Outcome reason

/-- What every state of a run keeps to. -/
structure RunnerRun.Sound (run : RunnerRun) : Prop where
  counted : run.loop.runner.downloaded = run.pushed.length
  opened : run.loop.isStopped = false → run.loop.runner.dataOpen = true
  delivers : run.pushed <+: run.read
  lifecycle : run.lifecycle <:+ eventsOf run.history
  data : run.data <:+ framesOf run.history
  awaiting : run.driver = .awaitingReady → run.loop.phase = .publishingStarted
  phase : run.PhaseSound

namespace RunnerRun

variable {usizeSize : Nat} {run : RunnerRun}

/-- A stop with a justified result is sound, drained first or not. -/
theorem PhaseSound.of_stopping {runner : TaskRunner} {result : RunResult}
    (stops : run.loop = .stopping runner result)
    (begun : run.history = [] ∨ runner.input = .connected ∧ Opened run.history)
    (justified : (RunnerLoop.stoppedReason result).Justified runner run.refused)
    : run.PhaseSound := by
  obtain ⟨driver, loop, lifecycle, data, lifecycleGone, dataGone, history, read, refused⟩ := run
  subst stops
  unfold PhaseSound
  cases waits : TaskRunner.shouldWaitDataDrain result with
  | true =>
      simp only [RunnerLoop.stopping, waits, if_true]
      exact ⟨begun, justified⟩
  | false =>
      simp only [RunnerLoop.stopping, waits, Bool.false_eq_true, if_false]
      refine ⟨begun, _, rfl, justified, fun drains => ?_⟩
      rw [RunnerLoop.followsDrain_of_not_waiting waits] at drains
      cases drains

/-- A resumed loop is sound where the runner it resumes was. -/
theorem Sound.of_resumed {runner : TaskRunner}
    (resumed : RunnerLoop.Resumed runner run.pushed run.read run.refused run.loop)
    (connected : runner.input = .connected)
    (counted : runner.downloaded = run.pushed.length) (dataOpen : runner.dataOpen = true)
    (opened : Opened run.history) (lifecycle : run.lifecycle <:+ eventsOf run.history)
    (data : run.data <:+ framesOf run.history) (driven : run.driver ≠ .awaitingReady)
    : run.Sound := by
  generalize same : run.loop = loop at resumed
  cases resumed with
  | streaming flow =>
      refine ⟨by rw [same]; exact counted, fun _ => by rw [same]; exact dataOpen,
        StreamingState.Flow.delivers flow, lifecycle, data, fun h => absurd h driven, ?_⟩
      unfold PhaseSound
      rw [same]
      exact ⟨connected, opened, flow⟩
  | stopping delivers justified =>
      refine ⟨by rw [same]; exact counted, fun _ => by rw [same]; exact dataOpen,
        delivers, lifecycle, data, fun h => absurd h driven, ?_⟩
      exact PhaseSound.of_stopping same (Or.inr ⟨connected, opened⟩) justified

end RunnerRun

end BoltLoad
