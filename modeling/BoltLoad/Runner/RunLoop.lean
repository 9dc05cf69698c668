import BoltLoad.Runner.Event

/-! The runner's event loop. One turn polls the sources of the current phase in priority
order, selects at most one event, and handles it. What the sources hold is an input of the
turn; what the turn does to the channels is its effect.
-/

namespace BoltLoad

/-- Where a runner reads its bytes from; the stream itself is a source of the turn. -/
inductive RunnerInput
  | connected
  | connecting
  | abandoned
  deriving DecidableEq, Repr

/-- The fields of a runner its loop decides by. -/
structure TaskRunner where
  /-- The size to deliver, when it is known. -/
  total : Option Nat
  /-- The bytes pushed so far. -/
  downloaded : Nat
  input : RunnerInput
  /-- Whether the data sender is still there (`data_tx.is_some()`). -/
  dataOpen : Bool
  deriving DecidableEq, Repr

/-- Why a buffer is being emitted, deciding what follows a successful push. -/
inductive Continuation
  | resumeItem
  | validate
  | idleTimeout
  | streamError (source : AdapterError)
  deriving DecidableEq, Repr

/-- `Err` when the push failed, `Ok(Some(_))` when a control signal failed meanwhile. -/
abbrev EmitResult := Except TaskRunError (Option TaskRunError)

/-- A frame being pushed while the control signals that arrive meanwhile are applied. -/
structure Emission where
  frame : Option DataFrame
  deferred : Option TaskRunError
  controlOpen : Bool
  deriving DecidableEq, Repr

def Emission.new (data : Bytes) : Emission := ⟨some ⟨data⟩, none, true⟩

/-- The part of an item not buffered yet starts at `offset`. -/
structure ItemCursor where
  bytes : Bytes
  offset : Nat
  deriving DecidableEq, Repr

structure StreamingState where
  buffer : Bytes
  item : Option ItemCursor
  staged : Option (Emission × Continuation)
  deriving DecidableEq, Repr

def StreamingState.new : StreamingState := ⟨[], none, none⟩

inductive Phase
  | connecting
  | publishingStarted
  | streaming (state : StreamingState)
  | draining (result : RunResult)
  | publishingStopped (event : Option LifecycleEvent)
  | stopped

inductive DataDrainOutcome
  | drained
  | cancelled
  | timedOut
  deriving DecidableEq, Repr

/-- The event a phase selected. -/
inductive Step
  | connected (result : Except AdapterError Unit)
  | connectTimeout
  | started (result : RunResult)
  | cancelled
  | control (event : Except TaskRunError ControlEvent)
  | idleTimeout
  | download (item : Option (Except AdapterError Bytes))
  | emitted (result : EmitResult)
  | drained (outcome : DataDrainOutcome)
  | stoppedPublished

/-- The state of one run of a runner. -/
structure RunnerLoop where
  runner : TaskRunner
  phase : Phase

/-- What the sources hold when one turn polls them; `none` and `false` are pending. A ready
channel is `some true` with a vacant slot and `some false` without its consumer.
-/
structure Sources where
  cancelled : Bool := false
  control : Option (Option ControlEvent) := none
  connectTimeout : Bool := false
  connection : Option (Except AdapterError Unit) := none
  idleTimeout : Bool := false
  item : Option (Option (Except AdapterError Bytes)) := none
  lifecycleReady : Option Bool := none
  dataReady : Option Bool := none
  drained : Bool := false
  drainTimeout : Bool := false

/-- What a turn does to the channels of its runner. -/
inductive Effect
  | none
  | takeControl (signal : ControlEvent)
  | readStream (item : Bytes)
  | pushLifecycle (event : LifecycleEvent)
  | pushData (frame : DataFrame)
  deriving DecidableEq, Repr

/-- A polled turn: the event it selected, if any, and its effect. -/
structure Polled where
  loop : RunnerLoop
  step : Option Step
  effect : Effect

-----------------------------------------------------------------------------------------
-- The size limit
-----------------------------------------------------------------------------------------

namespace TaskRunner

/-- Apply a control signal to the size limit: a limit may only lower a known total. -/
def applyControl (total : Option Nat) : ControlEvent → Except TaskError (Option Nat)
  | .limitTotal newTotal =>
    match total with
    | none => .ok none
    | some current => if current > newTotal then .ok (some newTotal) else .error .exceededTotalSize

/-- Apply a control signal; the total is unchanged on failure. -/
def applyLimit (runner : TaskRunner) (signal : ControlEvent) : RunResult × TaskRunner :=
  match applyControl runner.total signal with
  | .ok total => (.ok (), { runner with total })
  | .error error => (.error (.failed error), runner)

/-- Bytes that may still be buffered before reaching the size limit, cast to a `usize` of
`usizeSize` values.
-/
def allowance (usizeSize : Nat) (runner : TaskRunner) (buffer : Bytes) : Nat :=
  match runner.total with
  | none => usizeSize - 1
  | some total => (total - (runner.downloaded + buffer.length)) % usizeSize

/-- Check the delivered bytes against the size limit. -/
def validateSize (runner : TaskRunner) : RunResult :=
  match runner.total with
  | some total =>
    if total = runner.downloaded then .ok ()
    else if total > runner.downloaded then .error (.failed .smallerThanTotalSize)
    else .error (.failed .exceededTotalSize)
  | none => if runner.downloaded > 0 then .ok () else .error (.failed .empty)

/-- Whether a stop waits for the consumer to take the delivered frames. -/
def shouldWaitDataDrain : RunResult → Bool
  | .ok () => true
  | .error (.failed .exceededTotalSize) => true
  | .error (.failed (.streamError _)) => true
  | .error (.failed .timeout) => true
  | _ => false

end TaskRunner

namespace RunnerLoop

/-- The phase a run starts in. -/
def new (runner : TaskRunner) : RunnerLoop where
  runner := runner
  phase :=
    match runner.input with
    | .connected => .publishingStarted
    | .connecting => .connecting
    | .abandoned => .stopped

-----------------------------------------------------------------------------------------
-- Polling
-----------------------------------------------------------------------------------------

/-- The next control signal; `ChannelClosed` once the manager released the runner. -/
def pollControl (sources : Sources) : Option (Except TaskRunError ControlEvent) :=
  sources.control.map (fun signal =>
    match signal with
    | some event => .ok event
    | none => .error (.failed .channelClosed))

/-- Reading a closed channel takes nothing from it. -/
def controlEffect : Except TaskRunError ControlEvent → Effect
  | .ok signal => .takeControl signal
  | .error _ => .none

/-- Only an item takes bytes from the stream. -/
def readEffect : Option (Except AdapterError Bytes) → Effect
  | some (.ok item) => .readStream item
  | _ => .none

/-- A signal arriving during a push: only the first error is kept, and a closed channel is
not polled again.
-/
def onControl (runner : TaskRunner) (emission : Emission)
    (event : Except TaskRunError ControlEvent)
    : TaskRunner × Emission :=
  match event with
  | .ok signal =>
    match runner.applyLimit signal with
    | (.ok (), runner) => (runner, emission)
    | (.error error, runner) =>
      (runner, { emission with deferred := emission.deferred.or (some error) })
  | .error error =>
    (runner, { emission with deferred := emission.deferred.or (some error), controlOpen := false })

/-- Push the frame once the data channel has a vacant slot. -/
def pollPush (loop : RunnerLoop) (state : StreamingState) (emission : Emission)
    (continuation : Continuation) (sources : Sources)
    : Checked Polled :=
  match sources.dataReady with
  | none => .ok ⟨loop, none, .none⟩
  | some false => .ok ⟨loop, some (.emitted (.error (.failed .channelClosed))), .none⟩
  | some true => do
    let frame ← Checked.expect emission.frame "a frame is pushed once"
    let runner :=
      { loop.runner with downloaded := loop.runner.downloaded + frame.data.length }
    let pushed := { emission with frame := none, deferred := none }
    pure ⟨⟨runner, .streaming { state with staged := some (pushed, continuation) }⟩,
      some (.emitted (.ok emission.deferred)), .pushData frame⟩

/-- One round of the emission's loop: cancel, then control, then the push. Without a step,
the emission goes on in a later turn.
-/
def pollEmit (loop : RunnerLoop) (state : StreamingState) (emission : Emission)
    (continuation : Continuation) (sources : Sources)
    : Checked Polled :=
  if !loop.runner.dataOpen then
    .ok ⟨loop, some (.emitted (.error (.failed .channelClosed))), .none⟩
  else if sources.cancelled then
    .ok ⟨loop, some (.emitted (.error .cancelled)), .none⟩
  else
    match if emission.controlOpen then pollControl sources else none with
    | some event =>
      let (runner, emission) := onControl loop.runner emission event
      .ok ⟨⟨runner, .streaming { state with staged := some (emission, continuation) }⟩, none,
        controlEffect event⟩
    | none => loop.pollPush state emission continuation sources

/-- Cancel, then drained or without consumer, then the drain timeout. -/
def pollDrain (loop : RunnerLoop) (sources : Sources) : Option DataDrainOutcome :=
  if !loop.runner.dataOpen then some .drained
  else if sources.cancelled then some .cancelled
  else if sources.drained then some .drained
  else if sources.drainTimeout then some .timedOut
  else none

/-- Poll the sources of the current phase in priority order. -/
def pollStep (loop : RunnerLoop) (sources : Sources) : Checked Polled :=
  match loop.phase with
  | .connecting =>
    if sources.cancelled then
      .ok ⟨loop, some .cancelled, .none⟩
    else
      match pollControl sources with
      | some event => .ok ⟨loop, some (.control event), controlEffect event⟩
      | none =>
        if sources.connectTimeout then
          .ok ⟨loop, some .connectTimeout, .none⟩
        else
          match loop.runner.input with
          | .connecting => .ok ⟨loop, sources.connection.map .connected, .none⟩
          | _ => .error (.unreachable "connecting a connected runner")
  | .publishingStarted =>
    match sources.lifecycleReady with
    | none => .ok ⟨loop, none, .none⟩
    | some true => .ok ⟨loop, some (.started (.ok ())), .pushLifecycle .started⟩
    | some false => .ok ⟨loop, some (.started (.error (.failed .channelClosed))), .none⟩
  | .streaming state =>
    match state.staged with
    | some (emission, continuation) => loop.pollEmit state emission continuation sources
    | none =>
      if sources.cancelled then
        .ok ⟨loop, some .cancelled, .none⟩
      else
        match pollControl sources with
        | some event => .ok ⟨loop, some (.control event), controlEffect event⟩
        | none =>
          if sources.idleTimeout then
            .ok ⟨loop, some .idleTimeout, .none⟩
          else
            match loop.runner.input with
            | .connected =>
              match sources.item with
              | some item => .ok ⟨loop, some (.download item), readEffect item⟩
              | none => .ok ⟨loop, none, .none⟩
            | _ => .error (.unreachable "streaming before connecting")
  | .draining _ => .ok ⟨loop, (loop.pollDrain sources).map .drained, .none⟩
  | .publishingStopped event =>
    match sources.lifecycleReady with
    | none => .ok ⟨loop, none, .none⟩
    | some isOpen => do
      let event ← Checked.expect event "an event is published once"
      pure ⟨{ loop with phase := .publishingStopped none }, some .stoppedPublished,
        if isOpen then .pushLifecycle event else .none⟩
  | .stopped => .error (.unreachable "a stopped runner is not polled")

-----------------------------------------------------------------------------------------
-- Handling
-----------------------------------------------------------------------------------------

/-- How a run's result is reported. -/
def stoppedReason : RunResult → StoppedReason
  | .ok () => .finished
  | .error .cancelled => .failed .cancelled
  | .error (.failed error) => .failed error

def publishStopped (loop : RunnerLoop) (result : RunResult) : RunnerLoop :=
  { loop with phase := .publishingStopped (some (.stopped (stoppedReason result))) }

/-- Stop with `result`, draining the data channel first when the delivered bytes count. -/
def beginStop (loop : RunnerLoop) (result : RunResult) : RunnerLoop :=
  let loop :=
    match loop.phase with
    | .connecting => { loop with runner := { loop.runner with input := .abandoned } }
    | _ => loop
  if TaskRunner.shouldWaitDataDrain result then
    { loop with phase := .draining result }
  else
    loop.publishStopped result

/-- The streaming state, which only a streaming runner has. -/
def streaming (loop : RunnerLoop) : Checked StreamingState :=
  match loop.phase with
  | .streaming state => .ok state
  | _ => .error (.unreachable "not streaming")

/-- Emit the buffered bytes, if any, then continue. Resuming an item follows a full buffer,
so the source's nested resume after an empty one is a panic here.
-/
def flush (loop : RunnerLoop) (continuation : Continuation) : Checked RunnerLoop := do
  let state ← loop.streaming
  if state.buffer.isEmpty then
    match continuation with
    | .streamError source => pure (loop.beginStop (.error (.failed (.streamError source))))
    | .validate => pure (loop.beginStop loop.runner.validateSize)
    | .idleTimeout => pure (loop.beginStop (.error (.failed .timeout)))
    | .resumeItem => .error (.unreachable "a full buffer is not empty")
  else
    let emission := Emission.new state.buffer
    pure { loop with
      phase := .streaming { state with buffer := [], staged := some (emission, continuation) } }

/-- Buffer the current item, emitting every full buffer. -/
def bufferItem (usizeSize : Nat) (loop : RunnerLoop) : Checked RunnerLoop := do
  let state ← loop.streaming
  let allowed := loop.runner.allowance usizeSize state.buffer
  if allowed = 0 then
    loop.flush .validate
  else
    let item ← Checked.expect state.item "an item is being buffered"
    if item.offset = item.bytes.length then
      pure { loop with phase := .streaming { state with item := none } }
    else
      let remaining ← Checked.sub item.bytes.length item.offset
      let writable := min remaining allowed
      if state.buffer.length + writable ≤ bufferSize then
        let buffer := state.buffer ++ (item.bytes.drop item.offset).take writable
        if writable = allowed then
          -- The item stays until the final push.
          flush { loop with phase := .streaming { state with buffer } } .validate
        else
          pure { loop with phase := .streaming { state with buffer, item := none } }
      else
        let take ← Checked.sub bufferSize state.buffer.length
        let buffer := state.buffer ++ (item.bytes.drop item.offset).take take
        let item := { item with offset := item.offset + take }
        flush { loop with phase := .streaming { state with buffer, item := some item } } .resumeItem

def onItem (usizeSize : Nat) (loop : RunnerLoop) (item : Bytes) : Checked RunnerLoop := do
  let state ← loop.streaming
  bufferItem usizeSize
    { loop with phase := .streaming { state with item := some ⟨item, 0⟩ } }

/-- After a full buffer of the current item was pushed. -/
def resumeItem (usizeSize : Nat) (loop : RunnerLoop) : Checked RunnerLoop := do
  let _ ← loop.streaming
  loop.bufferItem usizeSize

/-- Continue after an emitted buffer. A failed push wins over everything, an upstream error
over a control error deferred by the push.
-/
def resumeAfterEmit (usizeSize : Nat) (loop : RunnerLoop) (continuation : Continuation)
    (result : EmitResult)
    : Checked RunnerLoop :=
  match result with
  | .error error => pure (loop.beginStop (.error error))
  | .ok deferred =>
    match continuation, deferred with
    | .streamError source, _ => pure (loop.beginStop (.error (.failed (.streamError source))))
    | _, some error => pure (loop.beginStop (.error error))
    | .resumeItem, none => loop.resumeItem usizeSize
    | .validate, none => pure (loop.beginStop loop.runner.validateSize)
    | .idleTimeout, none => pure (loop.beginStop (.error (.failed .timeout)))

def onEmitted (usizeSize : Nat) (loop : RunnerLoop) (result : EmitResult) : Checked RunnerLoop := do
  let state ← loop.streaming
  let (_, continuation) ← Checked.expect state.staged "a buffer was staged"
  resumeAfterEmit usizeSize
    { loop with phase := .streaming { state with staged := none } } continuation result

def finishDrain (loop : RunnerLoop) (outcome : DataDrainOutcome) : Checked RunnerLoop :=
  match loop.phase with
  | .draining result =>
    let result : RunResult :=
      match outcome with
      | .drained => result
      | .cancelled => .error .cancelled
      | .timedOut => .error (.failed .timeout)
    .ok (loop.publishStopped result)
  | _ => .error (.unreachable "not draining")

/-- Handle the event a turn selected. -/
def handleStep (usizeSize : Nat) (loop : RunnerLoop) : Step → Checked RunnerLoop
  | .connected (.ok ()) =>
    pure ⟨{ loop.runner with input := .connected }, .publishingStarted⟩
  | .connected (.error source) => pure (loop.beginStop (.error (.failed (.streamError source))))
  | .connectTimeout => pure (loop.beginStop (.error (.failed .timeout)))
  | .started (.ok ()) => pure { loop with phase := .streaming .new }
  | .started (.error error) => pure (loop.beginStop (.error error))
  | .cancelled => pure (loop.beginStop (.error .cancelled))
  | .control (.ok signal) =>
    match loop.runner.applyLimit signal with
    | (.ok (), runner) => pure { loop with runner }
    | (.error error, runner) => pure (beginStop { loop with runner } (.error error))
  | .control (.error error) => pure (loop.beginStop (.error error))
  | .idleTimeout => loop.flush .idleTimeout
  | .download none => loop.flush .validate
  | .download (some (.error source)) => loop.flush (.streamError source)
  | .download (some (.ok item)) => loop.onItem usizeSize item
  | .emitted result => loop.onEmitted usizeSize result
  | .drained outcome => loop.finishDrain outcome
  | .stoppedPublished =>
    pure ⟨{ loop.runner with dataOpen := false }, .stopped⟩

/-- Whether the run has returned. -/
def isStopped (loop : RunnerLoop) : Bool :=
  match loop.phase with
  | .stopped => true
  | _ => false

end RunnerLoop

end BoltLoad
