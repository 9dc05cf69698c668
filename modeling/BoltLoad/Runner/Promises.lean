import BoltLoad.Runner.Delivery

/-! What a runner is going to report. A run stops for what interrupts it, or by its own check of
the size, which comes once the total in force is reached or the upstream has ended.
-/

namespace BoltLoad

/-- What the sources of a turn may interrupt a runner with. -/
inductive Interrupted (sources : Sources) : RunResult → Prop
  | cancelled (seen : sources.cancelled = true) : Interrupted sources (.error .cancelled)
  | released (seen : sources.control = some none)
    : Interrupted sources (.error (.failed .channelClosed))
  | refused {signal : ControlEvent} (seen : sources.control = some (some signal))
    : Interrupted sources (.error (.failed .exceededTotalSize))
  | connectTimeout (seen : sources.connectTimeout = true)
    : Interrupted sources (.error (.failed .timeout))
  | idleTimeout (seen : sources.idleTimeout = true)
    : Interrupted sources (.error (.failed .timeout))
  | drainTimeout (seen : sources.drainTimeout = true)
    : Interrupted sources (.error (.failed .timeout))
  | unconnected {source : AdapterError} (seen : sources.connection = some (.error source))
    : Interrupted sources (.error (.failed (.streamError source)))
  | upstream {source : AdapterError} (seen : sources.item = some (some (.error source)))
    : Interrupted sources (.error (.failed (.streamError source)))
  | lifecycleGone (seen : sources.lifecycleReady = some false)
    : Interrupted sources (.error (.failed .channelClosed))
  | dataGone (seen : sources.dataReady = some false)
    : Interrupted sources (.error (.failed .channelClosed))

/-- What a step alone stops a runner with, once what is buffered is emitted. -/
def Step.interruption : Step → Option RunResult
  | .connected (.error source) => some (.error (.failed (.streamError source)))
  | .connectTimeout => some (.error (.failed .timeout))
  | .started (.error error) => some (.error error)
  | .cancelled => some (.error .cancelled)
  | .control (.error error) => some (.error error)
  | .idleTimeout => some (.error (.failed .timeout))
  | .download (some (.error source)) => some (.error (.failed (.streamError source)))
  | .emitted (.error error) => some (.error error)
  | .drained .cancelled => some (.error .cancelled)
  | .drained .timedOut => some (.error (.failed .timeout))
  | _ => none

/-- The results a staged emission may lead to, besides more of its item. -/
structure Emission.Promises (allowed : RunResult → Prop) (loop : RunnerLoop)
    (emission : Emission) (continuation : Continuation)
    : Prop where
  deferred : ∀ error, emission.deferred = some error → allowed (.error error)
  validate : continuation = .validate → loop.Reached
  idle : continuation = .idleTimeout → allowed (.error (.failed .timeout))
  upstream
    : ∀ source,
        continuation = .streamError source → allowed (.error (.failed (.streamError source)))

namespace RunnerLoop

/-- Whatever the loop is going to report is allowed, as long as its check of the size is. -/
def Promises (allowed : RunResult → Prop) (loop : RunnerLoop) : Prop :=
  match loop.phase with
  | .streaming state =>
      ∀ emission continuation,
        state.staged = some (emission, continuation) →
        emission.Promises allowed loop continuation
  | .draining result => allowed result
  | .publishingStopped event =>
      ∀ reason,
        event = some (.stopped reason) → ∃ result, allowed result ∧ reason = stoppedReason result
  | _ => True

variable {usizeSize : Nat} {allowed : RunResult → Prop} {runner : TaskRunner}
  {state : StreamingState} {loop after : RunnerLoop} {sources : Sources} {polled : Polled}

-----------------------------------------------------------------------------------------
-- Polling
-----------------------------------------------------------------------------------------

theorem pollControl_interrupted {error : TaskRunError}
    (polls : pollControl sources = some (.error error))
    : Interrupted sources (.error error) := by
  obtain ⟨signal, seen, same⟩ := Option.map_eq_some_iff.mp polls
  cases signal with
  | none =>
      cases same
      exact .released seen
  | some signal => cases same

/-- What a step alone stops the runner with comes from the sources of the turn. -/
theorem pollStep_interrupted {step : Step} {result : RunResult}
    (dataOpen : loop.runner.dataOpen = true) (polls : loop.pollStep sources = .ok polled)
    (selected : polled.step = some step) (stops : step.interruption = some result)
    : Interrupted sources result := by
  unfold pollStep at polls
  split at polls
  · split at polls
    · rename_i seen
      cases polls
      cases selected
      cases stops
      exact .cancelled seen
    split at polls
    · rename_i event control
      cases polls
      cases selected
      cases event with
      | error error =>
          cases stops
          exact pollControl_interrupted control
      | ok signal => cases stops
    split at polls
    · rename_i seen
      cases polls
      cases selected
      cases stops
      exact .connectTimeout seen
    split at polls
    · cases polls
      obtain ⟨connection, seen, same⟩ := Option.map_eq_some_iff.mp selected
      subst same
      cases connection with
      | ok stream => cases stops
      | error source =>
          cases stops
          exact .unconnected seen
    · cases polls
  · split at polls
    · cases polls
      cases selected
    · cases polls
      cases selected
      cases stops
    · rename_i seen
      cases polls
      cases selected
      cases stops
      exact .lifecycleGone seen
  · split at polls
    · unfold pollEmit at polls
      rw [dataOpen] at polls
      simp only [Bool.not_true, Bool.false_eq_true, if_false] at polls
      split at polls
      · rename_i seen
        cases polls
        cases selected
        cases stops
        exact .cancelled seen
      split at polls
      · cases polls
        cases selected
      unfold pollPush at polls
      split at polls
      · cases polls
        cases selected
      · rename_i seen
        cases polls
        cases selected
        cases stops
        exact .dataGone seen
      · obtain ⟨frame, _, pushed⟩ := Checked.bind_eq_ok.mp polls
        cases pushed
        cases selected
        cases stops
    split at polls
    · rename_i seen
      cases polls
      cases selected
      cases stops
      exact .cancelled seen
    split at polls
    · rename_i event control
      cases polls
      cases selected
      cases event with
      | error error =>
          cases stops
          exact pollControl_interrupted control
      | ok signal => cases stops
    split at polls
    · rename_i seen
      cases polls
      cases selected
      cases stops
      exact .idleTimeout seen
    split at polls
    · split at polls
      · rename_i item seen
        cases polls
        cases selected
        match item with
        | none => cases stops
        | some (.ok item) => cases stops
        | some (.error source) =>
            cases stops
            exact .upstream seen
      · cases polls
        cases selected
    · cases polls
  · cases polls
    obtain ⟨outcome, drains, same⟩ := Option.map_eq_some_iff.mp selected
    subst same
    unfold pollDrain at drains
    rw [dataOpen] at drains
    simp only [Bool.not_true, Bool.false_eq_true, if_false] at drains
    split at drains
    · rename_i seen
      cases drains
      cases stops
      exact .cancelled seen
    split at drains
    · cases drains
      cases stops
    split at drains
    · rename_i seen
      cases drains
      cases stops
      exact .drainTimeout seen
    · cases drains
  · split at polls
    · cases polls
      cases selected
    · obtain ⟨event, _, published⟩ := Checked.bind_eq_ok.mp polls
      cases published
      cases selected
      cases stops
  · cases polls

/-- A limit that a step carries was taken in its turn, so it may be refused there. -/
theorem pollStep_refused {signal : ControlEvent} (polls : loop.pollStep sources = .ok polled)
    (selected : polled.step = some (.control (.ok signal)))
    : Interrupted sources (.error (.failed .exceededTotalSize)) := by
  have taken {event : Except TaskRunError ControlEvent} (control : pollControl sources = some event)
      (same : some (Step.control event) = some (.control (.ok signal)))
      : Interrupted sources (.error (.failed .exceededTotalSize)) := by
    cases same
    exact .refused (controlEffect_from control)
  cases phase : loop.phase with
  | connecting =>
      unfold pollStep at polls
      rw [phase] at polls
      dsimp only at polls
      split at polls
      · cases polls
        cases selected
      split at polls
      · rename_i event control
        cases polls
        exact taken control selected
      split at polls
      · cases polls
        cases selected
      split at polls
      · cases polls
        obtain ⟨_, _, never⟩ := Option.map_eq_some_iff.mp selected
        cases never
      · cases polls
  | streaming state =>
      have effect := pollStep_from polls
      cases pollStep_watched phase polls with
      | signalled idle event =>
          cases selected
          exact .refused effect
      | pending => cases selected
      | cancelled idle => cases selected
      | idleTimeout idle => cases selected
      | downloaded idle item => cases selected
      | failed staged error => cases selected
      | controlled staged event => cases selected
      | pushed staged framed => cases selected
  | publishingStarted =>
      unfold pollStep at polls
      rw [phase] at polls
      dsimp only at polls
      split at polls <;> cases polls <;> cases selected
  | draining result =>
      unfold pollStep at polls
      rw [phase] at polls
      cases polls
      obtain ⟨_, _, never⟩ := Option.map_eq_some_iff.mp selected
      cases never
  | publishingStopped event =>
      unfold pollStep at polls
      rw [phase] at polls
      dsimp only at polls
      split at polls
      · cases polls
        cases selected
      · obtain ⟨_, _, published⟩ := Checked.bind_eq_ok.mp polls
        cases published
        cases selected
  | stopped =>
      unfold pollStep at polls
      rw [phase] at polls
      cases polls

-----------------------------------------------------------------------------------------
-- Handling
-----------------------------------------------------------------------------------------

/-- A total that is reached passes the check of the size, or is exceeded, as it is allowed. -/
def ChecksAllowed (allowed : RunResult → Prop) : Prop :=
  ∀ (runner : TaskRunner) (total : Nat),
    runner.total = some total → total ≤ runner.downloaded → allowed runner.validateSize

theorem Promises.stopping {result : RunResult} (allows : allowed result)
    : (stopping runner result).Promises allowed := by
  unfold RunnerLoop.stopping Promises
  cases TaskRunner.shouldWaitDataDrain result with
  | true => exact allows
  | false =>
      intro reason same
      cases same
      exact ⟨result, allows, rfl⟩

/-- A loop that has nothing staged reports nothing yet. -/
theorem Promises.unstaged (idle : state.staged = none)
    : Promises allowed ⟨runner, .streaming state⟩ := by
  intro emission continuation staged
  cases idle.symm.trans staged

theorem Promises.beginStop {result : RunResult} (allows : allowed result)
    : (loop.beginStop result).Promises allowed := by
  unfold RunnerLoop.beginStop
  dsimp only
  split
  · exact allows
  · intro reason same
    cases same
    exact ⟨result, allows, rfl⟩

/-- A flush reports what follows it, or stages the buffer in front of it. -/
theorem Promises.flushed {continuation : Continuation} (checks : ChecksAllowed allowed)
    (validate
      : continuation = .validate →
        ∃ total, runner.total = some total ∧ total ≤ runner.downloaded + state.buffer.length)
    (idle : continuation = .idleTimeout → allowed (.error (.failed .timeout)))
    (upstream
      : ∀ source,
          continuation = .streamError source → allowed (.error (.failed (.streamError source))))
    (flushed : flush ⟨runner, .streaming state⟩ continuation = .ok after)
    : after.Promises allowed := by
  simp only [flush, streaming, Checked.ok_bind] at flushed
  split at flushed
  · rename_i empty
    have empty : state.buffer.length = 0 :=
      List.length_eq_zero_iff.mpr (List.isEmpty_iff.mp empty)
    cases continuation with
    | resumeItem => cases flushed
    | validate =>
        cases flushed
        obtain ⟨total, known, reached⟩ := validate rfl
        rw [empty, Nat.add_zero] at reached
        exact .beginStop (checks runner total known reached)
    | idleTimeout =>
        cases flushed
        exact .beginStop (idle rfl)
    | streamError source =>
        cases flushed
        exact .beginStop (upstream source rfl)
  · cases flushed
    intro emission next staged
    cases staged
    refine ⟨(fun _ never => by cases never), fun validates => ?_, idle, upstream⟩
    obtain ⟨total, known, reached⟩ := validate validates
    refine ⟨total, known, ?_⟩
    simpa only [RunnerLoop.held, StreamingState.held, StreamingState.stagedBytes, Emission.new,
      List.length_nil, Nat.zero_add] using reached

/-- Buffering an item checks the size only where the total in force is reached, if it fits a
`usize`.
-/
theorem Promises.buffered {total : Nat} (buffered : loop.bufferItem usizeSize = .ok after)
    (streams : loop.phase = .streaming state) (idle : state.staged = none)
    (checks : ChecksAllowed allowed) (known : loop.runner.total = some total)
    (fits : total < usizeSize)
    : after.Promises allowed := by
  obtain ⟨runner, phase⟩ := loop
  subst streams
  dsimp only at known
  have exactly := @allowance_eq usizeSize runner state.buffer total known fits
  simp only [bufferItem, streaming, Checked.ok_bind] at buffered
  split at buffered
  · rename_i reached
    refine .flushed checks (fun _ => ⟨total, known, ?_⟩) (fun never => by cases never)
      (fun _ never => by cases never) buffered
    omega
  obtain ⟨cursor, _, buffered⟩ := Checked.bind_eq_ok.mp buffered
  split at buffered
  · cases buffered
    exact .unstaged idle
  obtain ⟨remaining, subtracts, buffered⟩ := Checked.bind_eq_ok.mp buffered
  obtain ⟨started, rest⟩ := Checked.sub_eq_ok.mp subtracts
  split at buffered
  · split at buffered
    · rename_i cuts
      refine .flushed checks (fun _ => ⟨total, known, ?_⟩) (fun never => by cases never)
        (fun _ never => by cases never) buffered
      simp only [List.length_append, List.length_take, List.length_drop]
      omega
    · cases buffered
      exact .unstaged idle
  · obtain ⟨take, _, buffered⟩ := Checked.bind_eq_ok.mp buffered
    exact .flushed checks (fun never => by cases never) (fun never => by cases never)
      (fun _ never => by cases never) buffered

/-- What an emission defers is what it deferred before, or interrupts this turn. -/
theorem pollEmit_deferred {emission emitting : Emission} {continuation : Continuation}
    {next : StreamingState} (dataOpen : loop.runner.dataOpen = true)
    (polls : loop.pollEmit state emission continuation sources = .ok polled)
    (pending : polled.step = none) (streams : polled.loop.phase = .streaming next)
    (stays : loop.phase = .streaming state) (staged : state.staged = some (emission, continuation))
    (stages : next.staged = some (emitting, continuation))
    : ∀ error,
        emitting.deferred = some error →
        emission.deferred = some error ∨ Interrupted sources (.error error) := by
  unfold pollEmit at polls
  rw [dataOpen] at polls
  simp only [Bool.not_true, Bool.false_eq_true, if_false] at polls
  split at polls
  · cases polls
    cases pending
  split at polls
  · rename_i event signalled
    have control : pollControl sources = some event := by
      split at signalled
      · exact signalled
      · cases signalled
    cases polls
    cases streams
    cases stages
    intro error deferred
    have defers {found : TaskRunError} (interrupts : Interrupted sources (.error found))
        (deferred : emission.deferred.or (some found) = some error)
        : emission.deferred = some error ∨ Interrupted sources (.error error) := by
      cases first : emission.deferred with
      | none =>
          rw [first] at deferred
          cases deferred
          exact .inr interrupts
      | some earlier =>
          rw [first] at deferred
          exact .inl deferred
    cases event with
    | error found => exact defers (pollControl_interrupted control) deferred
    | ok signal =>
        have seen : sources.control = some (some signal) := controlEffect_from control
        unfold onControl at deferred
        rcases RunnerRun.applyLimit_cases loop.runner signal
          with ⟨total, applies, _, _⟩ | ⟨applies, _, _⟩
        · simp only [applies] at deferred
          exact .inl deferred
        · simp only [applies] at deferred
          exact defers (.refused seen) deferred
  · unfold pollPush at polls
    split at polls
    · cases polls
      cases stays.symm.trans streams
      cases staged.symm.trans stages
      exact fun error deferred => .inl deferred
    · cases polls
      cases pending
    · obtain ⟨frame, _, pushed⟩ := Checked.bind_eq_ok.mp polls
      cases pushed
      cases pending

/-- A poll of a loop that does not stream keeps its promises. -/
theorem Promises.pollStep_unstreamed (promises : loop.Promises allowed) (quiet : loop.Quiet)
    (polls : loop.pollStep sources = .ok polled)
    : polled.loop.Promises allowed := by
  unfold RunnerLoop.pollStep at polls
  split at polls
  · split at polls
    · cases polls
      exact promises
    split at polls
    · cases polls
      exact promises
    split at polls
    · cases polls
      exact promises
    split at polls
    · cases polls
      exact promises
    · cases polls
  · split at polls <;> cases polls <;> exact promises
  · rename_i state streams
    exact absurd streams (quiet state)
  · cases polls
    exact promises
  · split at polls
    · cases polls
      exact promises
    · obtain ⟨event, _, published⟩ := Checked.bind_eq_ok.mp polls
      cases published
      intro reason never
      cases never
  · cases polls

/-- A loop that does not stream promises the same with another runner. -/
theorem Promises.of_phase {other : RunnerLoop} (promises : loop.Promises allowed)
    (quiet : loop.Quiet) (same : other.phase = loop.phase)
    : other.Promises allowed := by
  unfold Promises at promises ⊢
  rw [same]
  cases phase : loop.phase with
  | streaming state => exact absurd phase (quiet state)
  | connecting => trivial
  | publishingStarted => trivial
  | stopped => trivial
  | draining result =>
      rw [phase] at promises
      exact promises
  | publishingStopped event =>
      rw [phase] at promises
      exact promises

/-- Handling a step of a loop that does not stream adds only what the step stops it with, or a
limit that does not apply.
-/
theorem Promises.handleStep_unstreamed {step : Step} (promises : loop.Promises allowed)
    (quiet : loop.Quiet) (interrupts : ∀ result, step.interruption = some result → allowed result)
    (refuses
      : ∀ signal, step = .control (.ok signal) → allowed (.error (.failed .exceededTotalSize)))
    (handled : loop.handleStep usizeSize step = .ok after)
    : after.Promises allowed := by
  have unstreamed {β : Type} {next : StreamingState → Checked β} {result : β}
      : ¬(loop.streaming >>= next) = .ok result := by
    unfold RunnerLoop.streaming
    split
    · rename_i state streams
      exact absurd streams (quiet state)
    · exact (fun never => by cases never)
  cases step with
  | connected result =>
      cases result with
      | ok stream =>
          cases handled
          trivial
      | error source =>
          cases handled
          exact .beginStop (interrupts _ rfl)
  | connectTimeout =>
      cases handled
      exact .beginStop (interrupts _ rfl)
  | started result =>
      cases result with
      | ok started =>
          cases handled
          exact .unstaged rfl
      | error error =>
          cases handled
          exact .beginStop (interrupts _ rfl)
  | cancelled =>
      cases handled
      exact .beginStop (interrupts _ rfl)
  | control event =>
      cases event with
      | error error =>
          cases handled
          exact .beginStop (interrupts _ rfl)
      | ok signal =>
          simp only [handleStep] at handled
          rcases RunnerRun.applyLimit_cases loop.runner signal
            with ⟨total, applies, _, _⟩ | ⟨applies, _, _⟩
          · rw [applies] at handled
            cases handled
            exact promises.of_phase quiet rfl
          · rw [applies] at handled
            cases handled
            exact .beginStop (refuses signal rfl)
  | idleTimeout => exact absurd handled unstreamed
  | download item =>
      rcases item with _ | source | item
      · exact absurd handled unstreamed
      · exact absurd handled unstreamed
      · exact absurd handled unstreamed
  | emitted result => exact absurd handled unstreamed
  | drained outcome =>
      change loop.finishDrain outcome = .ok after at handled
      unfold finishDrain at handled
      split at handled
      · rename_i result draining
        rw [Promises, draining] at promises
        cases handled
        intro reason same
        cases same
        cases outcome with
        | drained => exact ⟨result, promises, rfl⟩
        | cancelled => exact ⟨_, interrupts _ rfl, rfl⟩
        | timedOut => exact ⟨_, interrupts _ rfl, rfl⟩
      · cases handled
  | stoppedPublished =>
      cases handled
      trivial

end RunnerLoop

-----------------------------------------------------------------------------------------
-- Turns
-----------------------------------------------------------------------------------------

namespace RunnerRun

variable {usizeSize : Nat} {allowed : RunResult → Prop} {run after : RunnerRun}
  {sources : Sources}

/-- The runner sees its upstream end in this turn. -/
def SeesEnd (run : RunnerRun) (sources : Sources) : Prop :=
  ∃ polled, run.loop.pollStep sources = .ok polled ∧ polled.step = some (.download none)

/-- The runner sees its upstream end before the total in force was read. -/
def EndsEarly (run : RunnerRun) (sources : Sources) : Prop :=
  run.SeesEnd sources ∧ ∃ total, run.loop.runner.total = some total ∧ run.read.length < total

/-- A turn of a runner that does not stream keeps its promises. -/
theorem unstreamed_promises (quiet : run.loop.Quiet) (dataOpen : run.loop.runner.dataOpen = true)
    (promises : run.loop.Promises allowed)
    (interrupts : ∀ result, Interrupted sources result → allowed result)
    (turned : run.turn usizeSize sources = .ok after)
    : after.loop.Promises allowed := by
  obtain ⟨polled, polls, _, handled⟩ := turn_cases turned
  have keeps := promises.pollStep_unstreamed quiet polls
  rcases handled with ⟨_, same⟩ | ⟨step, selected, handled⟩
  · exact same ▸ keeps
  · refine keeps.handleStep_unstreamed (RunnerLoop.pollStep_unstreamed quiet polls).quiet
      (fun result stops => interrupts result ?_) (fun signal same => interrupts _ ?_) handled
    · exact RunnerLoop.pollStep_interrupted dataOpen polls selected stops
    · subst same
      exact RunnerLoop.pollStep_refused polls selected

/-- A signal during a push is deferred, and lowers the total at most. -/
theorem controlled_promises {state : StreamingState} {emission : Emission}
    {continuation : Continuation} {event : Except TaskRunError ControlEvent}
    {effect : Effect} (staged : state.staged = some (emission, continuation))
    (streams : run.loop.phase = .streaming state) (dataOpen : run.loop.runner.dataOpen = true)
    (promises : run.loop.Promises allowed)
    (interrupts : ∀ result, Interrupted sources result → allowed result)
    (polls
      : run.loop.pollStep sources
        = .ok ⟨⟨(RunnerLoop.onControl run.loop.runner emission event).1,
            .streaming {
              state with
              staged := some ((RunnerLoop.onControl run.loop.runner emission event).2,
                continuation) }⟩, none, effect⟩)
    : RunnerLoop.Promises allowed
        ⟨(RunnerLoop.onControl run.loop.runner emission event).1,
          .streaming {
            state with
            staged := some ((RunnerLoop.onControl run.loop.runner emission event).2,
              continuation) }⟩ := by
  have lowers := (onControl_lowers run.loop.runner emission event).1
  have defers := @RunnerLoop.pollEmit_deferred state run.loop sources _ emission
    (RunnerLoop.onControl run.loop.runner emission event).2 continuation _ dataOpen
    (by simpa only [RunnerLoop.pollStep, streams, staged] using polls) rfl rfl streams staged rfl
  rw [RunnerLoop.Promises, streams] at promises
  obtain ⟨deferred, validate, idle, upstream⟩ := promises emission continuation staged
  intro emission' continuation' same
  cases same
  refine ⟨fun error found => ?_, fun validates => ?_, idle, upstream⟩
  · exact (defers error found).elim (deferred error) (interrupts _)
  · obtain ⟨total, known, reached⟩ := validate validates
    obtain ⟨lower, isLower, le⟩ := lowers.lowered total known
    refine ⟨lower, isLower, le.trans (reached.trans_eq ?_)⟩
    have held : run.loop.held = state.held := by rw [RunnerLoop.held, streams]
    rw [onControl_held event staged, lowers.downloaded, held]

/-- Once its frame is pushed, an emission is followed by what it promised. -/
theorem pushed_promises {state : StreamingState} {emission : Emission}
    {continuation : Continuation} {frame : DataFrame} {total : Nat} {loop : RunnerLoop}
    (staged : state.staged = some (emission, continuation)) (framed : emission.frame = some frame)
    (empty : state.buffer = []) (streams : run.loop.phase = .streaming state)
    (promises : run.loop.Promises allowed) (checks : RunnerLoop.ChecksAllowed allowed)
    (known : run.loop.runner.total = some total) (fits : total < usizeSize)
    (handled
      : RunnerLoop.handleStep usizeSize
          ⟨{ run.loop.runner with downloaded := run.loop.runner.downloaded + frame.data.length },
            .streaming {
              state with
              staged := some ({ emission with frame := none, deferred := none }, continuation) }⟩
          (.emitted (.ok emission.deferred))
        = .ok loop)
    : loop.Promises allowed := by
  obtain ⟨deferred, validate, idle, upstream⟩ : emission.Promises allowed run.loop continuation := by
    rw [RunnerLoop.Promises, streams] at promises
    exact promises emission continuation staged
  change RunnerLoop.onEmitted usizeSize _ _ = .ok loop at handled
  simp only [RunnerLoop.onEmitted, RunnerLoop.streaming, Checked.ok_bind, Checked.expect_some]
    at handled
  unfold RunnerLoop.resumeAfterEmit at handled
  split at handled
  · cases ‹_ = Except.error _›
  rename_i failed same
  cases same
  split at handled
  · have same := Except.ok.inj handled
    exact same ▸ .beginStop (upstream _ rfl)
  · have same := Except.ok.inj handled
    exact same ▸ .beginStop (deferred _ ‹_›)
  · simp only [RunnerLoop.resumeItem, RunnerLoop.streaming, Checked.ok_bind] at handled
    exact .buffered handled rfl rfl checks known fits
  · obtain ⟨total, known, reached⟩ := validate rfl
    have same := Except.ok.inj handled
    refine same ▸ .beginStop (checks _ total known (reached.trans_eq ?_))
    have held : run.loop.held = state.held := by rw [RunnerLoop.held, streams]
    obtain ⟨_, deferred, controlOpen⟩ := emission
    cases framed
    simp only [held, StreamingState.held, StreamingState.stagedBytes, staged, empty,
      List.length_nil, Nat.zero_add]
  · have same := Except.ok.inj handled
    exact same ▸ .beginStop (idle rfl)

/-- A turn of a streaming runner keeps its promises, unless its upstream ends early. -/
theorem streaming_promises {state : StreamingState} {total : Nat} (sound : run.Sound)
    (streams : run.loop.phase = .streaming state) (promises : run.loop.Promises allowed)
    (checks : RunnerLoop.ChecksAllowed allowed) (known : run.loop.runner.total = some total)
    (fits : total < usizeSize)
    (interrupts : ∀ result, Interrupted sources result → allowed result)
    (fed : ¬run.EndsEarly sources) (turned : run.turn usizeSize sources = .ok after)
    : after.loop.Promises allowed := by
  obtain ⟨polled, polls, applied, handled⟩ := turn_cases turned
  have loop : run.loop = ⟨run.loop.runner, .streaming state⟩ := by rw [← streams]
  have flow : state.Flow run.pushed run.read run.refused := by
    have phase := sound.phase
    rw [PhaseSound, streams] at phase
    exact phase.2.2
  have dataOpen : run.loop.runner.dataOpen = true :=
    sound.opened (by rw [RunnerLoop.isStopped, streams])
  have stops {step : Step} {result : RunResult} (selected : polled.step = some step)
      (interruption : step.interruption = some result)
      : allowed result :=
    interrupts result (RunnerLoop.pollStep_interrupted dataOpen polls selected interruption)
  cases RunnerLoop.pollStep_watched streams polls with
  | pending =>
      rcases handled with ⟨_, same⟩ | ⟨_, never, _⟩
      · exact same ▸ promises
      · cases never
  | cancelled idle =>
      rcases handled with ⟨never | never, _⟩ | ⟨_, selected, handled⟩
      · cases never
      · cases never
      cases selected
      have same := Except.ok.inj handled
      exact same ▸ .beginStop (stops rfl rfl)
  | signalled idle event =>
      rcases handled with ⟨never | never, _⟩ | ⟨_, selected, handled⟩
      · cases never
      · cases never
      cases selected
      cases event with
      | error error =>
          have same := Except.ok.inj handled
          exact same ▸ .beginStop (stops rfl rfl)
      | ok signal =>
          simp only [RunnerLoop.handleStep] at handled
          rcases applyLimit_cases run.loop.runner signal
            with ⟨total, applies, _, _⟩ | ⟨applies, _, _⟩
          · rw [applies, loop] at handled
            have same := Except.ok.inj handled
            exact same ▸ .unstaged idle
          · rw [applies] at handled
            have same := Except.ok.inj handled
            exact same ▸ .beginStop (interrupts _ (RunnerLoop.pollStep_refused polls rfl))
  | idleTimeout idle =>
      rcases handled with ⟨never | never, _⟩ | ⟨_, selected, handled⟩
      · cases never
      · cases never
      cases selected
      change run.loop.flush .idleTimeout = .ok after.loop at handled
      rw [loop] at handled
      exact .flushed checks (fun never => by cases never) (fun _ => stops rfl rfl)
        (fun _ never => by cases never) handled
  | downloaded idle item =>
      rcases handled with ⟨never | never, _⟩ | ⟨_, selected, handled⟩
      · cases never
      · cases never
      cases selected
      rcases item with _ | source | item
      · change run.loop.flush .validate = .ok after.loop at handled
        rw [loop] at handled
        refine .flushed checks (fun _ => ⟨total, known, ?_⟩) (fun never => by cases never)
          (fun _ never => by cases never) handled
        have enough : total ≤ run.read.length :=
          Nat.le_of_not_lt (fun short => fed ⟨⟨_, polls, rfl⟩, total, known, short⟩)
        rw [StreamingState.Flow, idle] at flow
        rwa [flow.2.2, List.length_append, ← sound.counted] at enough
      · change run.loop.flush (.streamError source) = .ok after.loop at handled
        rw [loop] at handled
        refine .flushed checks (fun never => by cases never) (fun never => by cases never)
          (fun _ same => ?_) handled
        cases same
        exact stops rfl rfl
      · change run.loop.onItem usizeSize item = .ok after.loop at handled
        rw [loop] at handled
        simp only [RunnerLoop.onItem, RunnerLoop.streaming, Checked.ok_bind] at handled
        exact .buffered handled rfl idle checks known fits
  | failed staged error =>
      rcases handled with ⟨never | never, _⟩ | ⟨_, selected, handled⟩
      · cases never
      · cases never
      cases selected
      change run.loop.onEmitted usizeSize _ = .ok after.loop at handled
      rw [loop] at handled
      simp only [RunnerLoop.onEmitted, RunnerLoop.streaming, Checked.ok_bind, staged,
        Checked.expect_some] at handled
      have same := Except.ok.inj handled
      exact same ▸ .beginStop (stops rfl rfl)
  | @controlled emission continuation staged event =>
      rcases handled with ⟨_, same⟩ | ⟨_, never, _⟩
      · rw [same]
        exact controlled_promises staged streams dataOpen promises interrupts polls
      · cases never
  | @pushed emission continuation frame staged framed =>
      rcases handled with ⟨never | never, _⟩ | ⟨_, selected, handled⟩
      · cases never
      · cases never
      cases selected
      have empty : state.buffer = [] := by
        rw [StreamingState.Flow, staged] at flow
        exact flow.1
      exact pushed_promises staged framed empty streams promises checks known fits handled

end RunnerRun

end BoltLoad
