import BoltLoad.Runner.Reading

/-! Exact delivery: over every run, the frames a runner pushes are a prefix of what it read, of
bounded sizes and within the initial total; and reaching the total in force ends its reading.
-/

namespace BoltLoad

/-- A runner's total and byte count against its initial total, with `held` bytes buffered. -/
structure TaskRunner.Budget (initial : Option Nat) (runner : TaskRunner) (held : Nat)
    : Prop where
  unknown : initial = none → runner.total = none
  lowered
    : ∀ limit,
        initial = some limit → ∃ total, runner.total = some total ∧ total ≤ limit
  within : ∀ limit, initial = some limit → runner.downloaded + held ≤ limit

namespace TaskRunner

variable {initial : Option Nat} {runner after : TaskRunner} {held : Nat}

theorem Budget.mono {less : Nat} (budget : runner.Budget initial held) (fewer : less ≤ held)
    : runner.Budget initial less :=
  ⟨budget.unknown, budget.lowered,
    fun limit known => (Nat.add_le_add_left fewer _).trans (budget.within limit known)⟩

/-- A lower total keeps the budget. -/
theorem Budget.lowers (budget : runner.Budget initial held) (lowers : runner.Lowers after)
    : after.Budget initial held where
  unknown := fun none => lowers.unknown (budget.unknown none)
  lowered := by
    intro limit known
    obtain ⟨total, isTotal, within⟩ := budget.lowered limit known
    obtain ⟨lower, isLower, le⟩ := lowers.lowered total isTotal
    exact ⟨lower, isLower, le.trans within⟩
  within := fun limit known => lowers.downloaded ▸ budget.within limit known

/-- What the allowance admits keeps the budget. -/
theorem Budget.allows {usizeSize more : Nat} {buffer : Bytes}
    (budget : runner.Budget initial buffer.length)
    (allowed : more ≤ buffer.length + runner.allowance usizeSize buffer)
    : runner.Budget initial more where
  unknown := budget.unknown
  lowered := budget.lowered
  within := by
    intro limit known
    obtain ⟨total, isTotal, le⟩ := budget.lowered limit known
    have most : runner.allowance usizeSize buffer
        ≤ total - (runner.downloaded + buffer.length) := RunnerLoop.allowance_le isTotal
    have within := budget.within limit known
    omega

/-- A pushed frame moves from the bytes held to those downloaded. -/
theorem Budget.pushes {count : Nat} (budget : runner.Budget initial (held + count))
    : Budget initial { runner with downloaded := runner.downloaded + count } held where
  unknown := budget.unknown
  lowered := budget.lowered
  within := by
    intro limit known
    have within := budget.within limit known
    dsimp only
    omega

end TaskRunner

namespace RunnerLoop

variable {usizeSize : Nat} {initial : Option Nat} {pushed read : Bytes}
  {loop after : RunnerLoop} {runner : TaskRunner} {state : StreamingState}

/-- The loop keeps its budget and sizes, and its last frame carries all it is to deliver. -/
structure Metered (initial : Option Nat) (pushed read : Bytes) (loop : RunnerLoop) : Prop where
  budget : loop.runner.Budget initial loop.held
  sized : loop.Sized
  accounts : loop.Accounts pushed read

theorem Metered.of_quiet (budget : loop.runner.Budget initial 0) (quiet : loop.Quiet)
    : loop.Metered initial pushed read where
  budget := by
    have none : loop.held = 0 := by
      unfold held
      split
      · rename_i state streams
        exact absurd streams (quiet state)
      · rfl
    rwa [none]
  sized := sized_of_not_streaming quiet
  accounts := fun state _ _ _ streams => absurd streams (quiet state)

theorem Metered.stopping (budget : runner.Budget initial 0) (result : RunResult)
    : (stopping runner result).Metered initial pushed read :=
  .of_quiet budget (stopping_quiet result)

/-- A loop that has nothing staged. -/
theorem Metered.unstaged (budget : runner.Budget initial state.buffer.length)
    (fits : state.buffer.length ≤ bufferSize) (idle : state.staged = none)
    : Metered initial pushed read ⟨runner, .streaming state⟩ where
  budget := by
    have held : RunnerLoop.held ⟨runner, .streaming state⟩ = state.buffer.length := by
      simp only [RunnerLoop.held, StreamingState.held, StreamingState.stagedBytes, idle,
        Nat.add_zero]
    rwa [held]
  sized := by
    intro other streams
    cases streams
    exact ⟨fits, (fun _ _ _ staged => by cases idle.symm.trans staged)⟩
  accounts := by
    intro other _ _ _ streams staged
    cases streams
    cases idle.symm.trans staged

/-- A flush of everything that was read and not pushed. -/
theorem Metered.flushed {continuation : Continuation}
    (budget : runner.Budget initial state.buffer.length)
    (fits : state.buffer.length ≤ bufferSize) (whole : read = pushed ++ state.buffer)
    (flushed : Flushed runner state continuation after)
    : after.Metered initial pushed read where
  budget := by
    rw [flushed.held.1]
    exact budget.mono flushed.held.2
  sized := flushed.sized fits
  accounts := flushed.accounts (fun _ => .inl whole)

/-- Buffering an item within the total. -/
theorem Metered.buffered (buffered : Buffered usizeSize runner state after)
    (budget : runner.Budget initial state.buffer.length)
    (fits : state.buffer.length ≤ bufferSize) (idle : state.staged = none)
    (wide : bufferSize < usizeSize - 1)
    (narrow : ∀ limit, initial = some limit → limit < usizeSize)
    : after.Metered initial pushed read where
  budget := by
    rw [(buffered.held idle).1]
    exact budget.allows (buffered.held idle).2
  sized := buffered.sized idle fits
  accounts := by
    refine buffered.accounts idle wide (fun total known => ?_)
    cases start : initial with
    | none => cases (budget.unknown start).symm.trans known
    | some limit =>
        obtain ⟨lower, isLower, le⟩ := budget.lowered limit start
        cases isLower.symm.trans known
        exact le.trans_lt (narrow limit start)

end RunnerLoop

namespace RunnerRun

variable {usizeSize : Nat} {initial : Option Nat} {run after : RunnerRun} {sources : Sources}

/-- What a turn does: it polls, applies the effect, and handles the step there is. -/
theorem turn_cases (turned : run.turn usizeSize sources = .ok after)
    : ∃ polled,
        run.loop.pollStep sources = .ok polled
        ∧ run.Applied after polled.effect
        ∧ ((polled.step = none ∨ polled.step = some (.started (.ok ())))
              ∧ after.loop = polled.loop
            ∨ ∃ step,
                polled.step = some step
                  ∧ polled.loop.handleStep usizeSize step = .ok after.loop) := by
  have whole := turned
  unfold turn at turned
  obtain ⟨polled, polls, turned⟩ := Checked.bind_eq_ok.mp turned
  obtain ⟨applied, applies, stepped⟩ := Checked.bind_eq_ok.mp turned
  refine ⟨polled, polls, (turn_applied polls whole).1, ?_⟩
  split at stepped
  · rename_i none
    cases stepped
    exact .inl ⟨.inl none, rfl⟩
  · rename_i step selected
    split at stepped
    · rename_i returns
      cases stepped
      refine .inl ⟨.inr ?_, rfl⟩
      unfold returnsOn at returns
      split at returns
      · exact selected
      · cases returns
    · obtain ⟨loop, handled, same⟩ := Checked.bind_eq_ok.mp stepped
      cases same
      exact .inr ⟨step, selected, handled⟩

theorem Applied.pushed_eq {effect : Effect} (applied : run.Applied after effect)
    : after.pushed = run.pushed ++ bytesOf (framesOf (pushedBy effect)) := by
  rw [pushed, applied.history, framesOf_append, bytesOf_append]
  rfl

/-- Only a push adds a frame. -/
theorem framesOf_pushedBy {effect : Effect} (quiet : ∀ frame, effect ≠ .pushData frame)
    : framesOf (pushedBy effect) = [] := by
  cases effect with
  | pushData frame => exact absurd rfl (quiet frame)
  | none => rfl
  | takeControl signal => rfl
  | readStream item => rfl
  | pushLifecycle event => rfl

/-- A runner that does not stream yet, or no more, holds nothing. -/
theorem quiet_turn (quiet : run.loop.Quiet)
    (metered : run.loop.Metered initial run.pushed run.read)
    (turned : run.turn usizeSize sources = .ok after)
    : after.loop.Metered initial after.pushed after.read
      ∧ framesOf after.history = framesOf run.history := by
  obtain ⟨polled, polls, applied, handled⟩ := turn_cases turned
  have unstreamed := RunnerLoop.pollStep_unstreamed quiet polls
  have budget : run.loop.runner.Budget initial 0 := metered.budget.mono (Nat.zero_le _)
  refine ⟨?_, ?_⟩
  · rcases handled with ⟨_, same⟩ | ⟨step, _, handled⟩
    · rw [same]
      exact .of_quiet (unstreamed.runner ▸ budget) unstreamed.quiet
    · obtain ⟨lowers, quiet | streams⟩ := RunnerLoop.handleStep_unstreamed unstreamed.quiet handled
      · exact .of_quiet (budget.lowers (unstreamed.runner ▸ lowers)) quiet
      · have same : after.loop = ⟨after.loop.runner, .streaming .new⟩ := by rw [← streams]
        rw [same]
        exact .unstaged (budget.lowers (unstreamed.runner ▸ lowers)) (Nat.zero_le _) rfl
  · rw [applied.history, framesOf_append, framesOf_pushedBy unstreamed.pushes, List.append_nil]

/-- A signal while nothing is staged lowers the total, or stops the runner. -/
theorem signalled_metered {runner : TaskRunner} {state : StreamingState}
    {event : Except TaskRunError ControlEvent} {loop : RunnerLoop} {pushed read : Bytes}
    (idle : state.staged = none) (fits : state.buffer.length ≤ bufferSize)
    (budget : runner.Budget initial state.buffer.length)
    (handled
      : RunnerLoop.handleStep usizeSize ⟨runner, .streaming state⟩ (.control event) = .ok loop)
    : loop.Metered initial pushed read := by
  have stops {runner : TaskRunner} {result : RunResult}
      (budget : runner.Budget initial state.buffer.length)
      : (RunnerLoop.beginStop ⟨runner, .streaming state⟩ result).Metered initial pushed read := by
    rw [RunnerLoop.beginStop_streaming]
    exact .stopping (budget.mono (Nat.zero_le _)) result
  cases event with
  | error error =>
      cases handled
      exact stops budget
  | ok signal =>
      have lowers := TaskRunner.applyLimit_lowers runner signal
      simp only [RunnerLoop.handleStep] at handled
      split at handled
      · rename_i lowered applied
        rw [applied] at lowers
        cases handled
        exact .unstaged (budget.lowers lowers) fits idle
      · rename_i error lowered applied
        rw [applied] at lowers
        cases handled
        exact stops (budget.lowers lowers)

/-- A signal during a push keeps the frame, and lowers the total at most. -/
theorem onControl_lowers (runner : TaskRunner) (emission : Emission)
    (event : Except TaskRunError ControlEvent)
    : runner.Lowers (RunnerLoop.onControl runner emission event).1
      ∧ (RunnerLoop.onControl runner emission event).2.frame = emission.frame := by
  cases event with
  | error error => exact ⟨.refl runner, rfl⟩
  | ok signal =>
      have lowers := TaskRunner.applyLimit_lowers runner signal
      unfold RunnerLoop.onControl
      dsimp only
      split <;> rename_i applied <;> rw [applied] at lowers <;> exact ⟨lowers, rfl⟩

/-- A signal during a push keeps the bytes held. -/
theorem onControl_held {runner : TaskRunner} {state : StreamingState} {emission : Emission}
    {continuation : Continuation} (event : Except TaskRunError ControlEvent)
    (staged : state.staged = some (emission, continuation))
    : RunnerLoop.held
        ⟨(RunnerLoop.onControl runner emission event).1,
          .streaming {
            state with
            staged := some ((RunnerLoop.onControl runner emission event).2, continuation) }⟩
      = state.held := by
  have kept := (onControl_lowers runner emission event).2
  generalize RunnerLoop.onControl runner emission event = controlled at kept ⊢
  obtain ⟨lowered, frame, deferred, controlOpen⟩ := controlled
  obtain ⟨frame', deferred', controlOpen'⟩ := emission
  cases kept
  simp only [RunnerLoop.held, StreamingState.held, StreamingState.stagedBytes, staged]
  cases frame <;> rfl

/-- A signal during a push keeps the budget: the frame is the same, the total at most lower. -/
theorem controlled_metered {runner : TaskRunner} {state : StreamingState} {emission : Emission}
    {continuation : Continuation} {event : Except TaskRunError ControlEvent}
    {pushed read : Bytes} (staged : state.staged = some (emission, continuation))
    (metered : RunnerLoop.Metered initial pushed read ⟨runner, .streaming state⟩)
    : RunnerLoop.Metered initial pushed read
        ⟨(RunnerLoop.onControl runner emission event).1,
          .streaming {
            state with
            staged := some ((RunnerLoop.onControl runner emission event).2, continuation) }⟩ := by
  obtain ⟨lowers, kept⟩ := onControl_lowers runner emission event
  have held := @onControl_held runner state emission continuation event staged
  generalize RunnerLoop.onControl runner emission event = controlled at lowers kept held ⊢
  obtain ⟨lowered, framed⟩ := controlled
  constructor
  case budget =>
    rw [held]
    exact metered.budget.lowers lowers
  case sized =>
    intro other streams
    cases streams
    obtain ⟨fits, sized⟩ := metered.sized state rfl
    refine ⟨fits, fun emission' continuation' frame same isFrame => ?_⟩
    cases same
    exact sized emission continuation frame staged (kept ▸ isFrame)
  case accounts =>
    intro other emission' continuation' frame streams same isFrame ends
    cases streams
    cases same
    refine (metered.accounts state emission continuation frame rfl staged (kept ▸ isFrame)
      ends).imp_right (fun ⟨total, known, reached⟩ => ?_)
    obtain ⟨lower, isLower, le⟩ := lowers.lowered total known
    refine ⟨lower, isLower, le.trans ?_⟩
    rw [held]
    exact lowers.downloaded ▸ reached

/-- A streaming runner keeps its budget: it buffers within the total, stages what it buffered,
and pushes what is staged.
-/
theorem streaming_turn {state : StreamingState} (sound : run.Sound)
    (streams : run.loop.phase = .streaming state)
    (metered : run.loop.Metered initial run.pushed run.read)
    (wide : bufferSize < usizeSize - 1)
    (narrow : ∀ limit, initial = some limit → limit < usizeSize)
    (turned : run.turn usizeSize sources = .ok after)
    : after.loop.Metered initial after.pushed after.read
      ∧ ∀ frame ∈ framesOf after.history, frame ∈ framesOf run.history ∨ frame.Sized := by
  obtain ⟨polled, polls, applied, handled⟩ := turn_cases turned
  have loop : run.loop = ⟨run.loop.runner, .streaming state⟩ := by rw [← streams]
  have flow : state.Flow run.pushed run.read run.refused := by
    have phase := sound.phase
    rw [PhaseSound, streams] at phase
    exact phase.2.2
  have held : run.loop.held = state.held := by rw [RunnerLoop.held, streams]
  have budget : run.loop.runner.Budget initial state.held := held ▸ metered.budget
  have pushedEq := applied.pushed_eq
  have keeps (quiet : ∀ frame, polled.effect ≠ .pushData frame)
      : ∀ frame ∈ framesOf after.history, frame ∈ framesOf run.history ∨ frame.Sized := by
    intro frame member
    rw [applied.history, framesOf_append, framesOf_pushedBy quiet, List.append_nil] at member
    exact .inl member
  have reading (idle : state.staged = none)
      : state.buffer.length ≤ bufferSize
        ∧ run.read = run.pushed ++ state.buffer
        ∧ run.loop.runner.Budget initial state.buffer.length := by
    rw [StreamingState.Flow, idle] at flow
    refine ⟨flow.2.1, flow.2.2, budget.mono (Nat.le_add_right _ _)⟩
  have stops {result : RunResult} (stopped : polled.loop = run.loop)
      (handled : polled.loop.beginStop result = after.loop)
      : after.loop.Metered initial after.pushed after.read := by
    rw [← handled, stopped, loop, RunnerLoop.beginStop_streaming]
    exact .stopping (budget.mono (Nat.zero_le _)) result
  cases RunnerLoop.pollStep_watched streams polls with
  | pending =>
      refine ⟨?_, keeps (fun _ never => by cases never)⟩
      rcases handled with ⟨_, same⟩ | ⟨_, never, _⟩
      · rw [same, applied.read, pushedEq]
        simpa only [pushedBy, readBy, List.append_nil, framesOf, bytesOf, List.filterMap_nil,
          List.flatMap_nil] using metered
      · cases never
  | cancelled idle =>
      refine ⟨?_, keeps (fun _ never => by cases never)⟩
      rcases handled with ⟨never | never, _⟩ | ⟨_, selected, handled⟩
      · cases never
      · cases never
      · cases selected
        exact stops rfl (Except.ok.inj handled)
  | signalled idle event =>
      obtain ⟨fits, _, budget⟩ := reading idle
      refine ⟨?_, keeps (RunnerLoop.controlEffect_unstreamed event).2⟩
      rcases handled with ⟨never | never, _⟩ | ⟨_, selected, handled⟩
      · cases never
      · cases never
      · cases selected
        exact signalled_metered idle fits budget (loop ▸ handled)
  | idleTimeout idle =>
      obtain ⟨fits, whole, budget⟩ := reading idle
      refine ⟨?_, keeps (fun _ never => by cases never)⟩
      rcases handled with ⟨never | never, _⟩ | ⟨_, selected, handled⟩
      · cases never
      · cases never
      · cases selected
        change run.loop.flush .idleTimeout = .ok after.loop at handled
        rw [loop] at handled
        have same : after.read = after.pushed ++ state.buffer := by
          rw [applied.read, pushedEq, whole]
          simp [pushedBy, readBy, framesOf, bytesOf]
        exact .flushed budget fits same (RunnerLoop.flush_cases handled)
  | downloaded idle item =>
      obtain ⟨fits, whole, budget⟩ := reading idle
      have quiet (frame : DataFrame) : RunnerLoop.readEffect item ≠ .pushData frame := by
        unfold RunnerLoop.readEffect
        split <;> exact fun never => by cases never
      refine ⟨?_, keeps quiet⟩
      rcases handled with ⟨never | never, _⟩ | ⟨_, selected, handled⟩
      · cases never
      · cases never
      cases selected
      have flushes {continuation : Continuation} (unread : readBy (RunnerLoop.readEffect item) = [])
          (flushed : run.loop.flush continuation = .ok after.loop)
          : after.loop.Metered initial after.pushed after.read := by
        rw [loop] at flushed
        have same : after.read = after.pushed ++ state.buffer := by
          rw [applied.read, pushedEq, framesOf_pushedBy quiet, whole, unread]
          simp
        exact .flushed budget fits same (RunnerLoop.flush_cases flushed)
      rcases item with _ | source | item
      · exact flushes rfl handled
      · exact flushes rfl handled
      · change run.loop.onItem usizeSize item = .ok after.loop at handled
        rw [loop] at handled
        simp only [RunnerLoop.onItem, RunnerLoop.streaming, Checked.ok_bind] at handled
        have buffered := RunnerLoop.bufferItem_cases handled
        exact .buffered buffered budget fits idle wide narrow
  | failed staged error =>
      refine ⟨?_, keeps (fun _ never => by cases never)⟩
      rcases handled with ⟨never | never, _⟩ | ⟨_, selected, handled⟩
      · cases never
      · cases never
      · cases selected
        change run.loop.onEmitted usizeSize _ = .ok after.loop at handled
        rw [loop] at handled
        rcases RunnerLoop.onEmitted_cases staged handled with ⟨result, stopped⟩ | ⟨never, _⟩
        · rw [stopped]
          exact .stopping (budget.mono (Nat.zero_le _)) result
        · cases never
  | controlled staged event =>
      refine ⟨?_, keeps (RunnerLoop.controlEffect_unstreamed event).2⟩
      rcases handled with ⟨_, same⟩ | ⟨_, never, _⟩
      · have unread : readBy (RunnerLoop.controlEffect event) = [] := by cases event <;> rfl
        rw [same, applied.read, pushedEq, unread,
          framesOf_pushedBy (RunnerLoop.controlEffect_unstreamed event).2, bytesOf_nil,
          List.append_nil, List.append_nil]
        exact controlled_metered staged (loop ▸ metered)
      · cases never
  | @pushed emission continuation frame staged framed =>
      have sized := (metered.sized state streams).2 emission continuation frame staged framed
      refine ⟨?_, ?_⟩
      · rcases handled with ⟨never | never, _⟩ | ⟨_, selected, handled⟩
        · cases never
        · cases never
        cases selected
        have bytes : state.held = state.buffer.length + frame.data.length := by
          obtain ⟨isFrame, deferred, controlOpen⟩ := emission
          cases framed
          simp only [StreamingState.held, StreamingState.stagedBytes, staged]
        rw [bytes] at budget
        have fits := (metered.sized state streams).1
        rcases RunnerLoop.onEmitted_cases rfl handled with ⟨result, stopped⟩ | ⟨_, _, buffered⟩
        · rw [stopped]
          exact .stopping (budget.pushes.mono (Nat.zero_le _)) result
        · exact .buffered buffered budget.pushes fits rfl wide narrow
      · intro other member
        rw [applied.history, framesOf_append] at member
        rcases List.mem_append.mp member with earlier | now
        · exact .inl earlier
        · cases List.mem_singleton.mp now
          exact .inr sized

-----------------------------------------------------------------------------------------
-- Whole runs
-----------------------------------------------------------------------------------------

/-- The loop keeps its budget, and every frame pushed its size. -/
structure Metered (initial : Option Nat) (run : RunnerRun) : Prop where
  loop : run.loop.Metered initial run.pushed run.read
  frames : ∀ frame ∈ framesOf run.history, frame.Sized

/-- Every event keeps the budget and the sizes. -/
theorem Metered.next {event : RunnerEvent} (metered : run.Metered initial) (sound : run.Sound)
    (wide : bufferSize < usizeSize - 1)
    (narrow : ∀ limit, initial = some limit → limit < usizeSize)
    (step : (machine usizeSize).Step run event after)
    : after.Metered initial := by
  obtain ⟨metered, sized⟩ := metered
  have enabled := step.enabled
  have done := step.next
  cases event with
  | turn sources =>
      by_cases streams : ∃ state, run.loop.phase = .streaming state
      · obtain ⟨state, streams⟩ := streams
        obtain ⟨metered, frames⟩ := streaming_turn sound streams metered wide narrow done
        exact ⟨metered, fun frame member => (frames frame member).elim (sized frame) id⟩
      · have quiet : run.loop.Quiet := fun state streaming => streams ⟨state, streaming⟩
        obtain ⟨metered, frames⟩ := quiet_turn quiet metered done
        exact ⟨metered, fun frame member => sized frame (frames ▸ member)⟩
  | ready =>
      obtain ⟨resumed, resumes, _, same⟩ := sound.resume usizeSize enabled
      cases resumes.symm.trans done
      subst same
      exact ⟨.unstaged (metered.budget.mono (Nat.zero_le _)) (Nat.zero_le _) rfl, sized⟩
  | takeLifecycle =>
      cases done
      exact ⟨metered, sized⟩
  | takeData =>
      cases done
      exact ⟨metered, sized⟩
  | dropLifecycle =>
      cases done
      exact ⟨metered, sized⟩
  | dropData =>
      cases done
      exact ⟨metered, sized⟩

theorem metered_reachable {start : RunnerRun} (started : (machine usizeSize).Initial start)
    (wide : bufferSize < usizeSize - 1)
    (narrow : ∀ limit, start.loop.runner.total = some limit → limit < usizeSize)
    (reached : ((machine usizeSize).startingAt start).Reachable run)
    : run.Metered start.loop.runner.total := by
  refine reached.invariant (fun state same => ?_) (fun before event after reached ih step => ?_)
  · subst same
    obtain ⟨driver, total, input, _, _, rfl⟩ := started
    refine ⟨.of_quiet ⟨id, fun limit known => ⟨limit, known, Nat.le_refl _⟩,
      fun _ _ => Nat.zero_le _⟩ ?_, fun _ member => by cases member⟩
    intro state streams
    cases input <;> cases streams
  · have sound := reachable_sound (Machine.Reachable.of_startingAt (.initial started) reached)
    exact ih.next sound wide narrow ⟨step.enabled, step.next⟩

/-- A runner that reads no more never does again. -/
theorem closed_next {event : RunnerEvent} (sound : run.Sound) (closed : run.loop.Closed)
    (step : (machine usizeSize).Step run event after)
    : after.loop.Closed := by
  have done := step.next
  cases event with
  | turn sources =>
      obtain ⟨polled, polls, _, handled⟩ := turn_cases done
      obtain ⟨_, pending, handles⟩ := closed.pollStep polls
      rcases handled with ⟨none | returns, same⟩ | ⟨step, selected, handled⟩
      · exact same ▸ pending none
      · have phase := RunnerLoop.pollStep_started polls returns
        rw [RunnerLoop.Closed, phase] at closed
        exact closed.elim
      · exact handles step after.loop selected handled
  | ready =>
      have phase := sound.awaiting step.enabled
      rw [RunnerLoop.Closed, phase] at closed
      exact closed.elim
  | takeLifecycle =>
      cases done
      exact closed
  | takeData =>
      cases done
      exact closed
  | dropLifecycle =>
      cases done
      exact closed
  | dropData =>
      cases done
      exact closed

/-- A turn that buffers an item and reaches the total in force ends the reading. -/
theorem closed_of_reached {polled : Polled} {step : Step}
    (polls : run.loop.pollStep sources = .ok polled) (selected : polled.step = some step)
    (buffers : polled.loop.Buffers step)
    (turned : run.turn usizeSize sources = .ok after) (reached : after.loop.Reached)
    : after.loop.Closed := by
  obtain ⟨polled', polls', _, handled⟩ := turn_cases turned
  cases polls'.symm.trans polls
  have handled : polled.loop.handleStep usizeSize step = .ok after.loop := by
    rcases handled with ⟨none | returns, _⟩ | ⟨other, same, handled⟩
    · cases none.symm.trans selected
    · cases returns.symm.trans selected
      exact buffers.elim
    · cases same.symm.trans selected
      exact handled
  by_cases streams : ∃ state, run.loop.phase = .streaming state
  · obtain ⟨state, streams⟩ := streams
    have loop : run.loop = ⟨run.loop.runner, .streaming state⟩ := by rw [← streams]
    cases RunnerLoop.pollStep_watched streams polls with
    | pending => cases selected
    | cancelled idle =>
        cases selected
        exact buffers.elim
    | signalled idle event =>
        cases selected
        exact buffers.elim
    | idleTimeout idle =>
        cases selected
        exact buffers.elim
    | downloaded idle item =>
        cases selected
        match item with
        | none => exact buffers.elim
        | some (.error source) => exact buffers.elim
        | some (.ok item) =>
            change run.loop.onItem usizeSize item = .ok after.loop at handled
            rw [loop] at handled
            simp only [RunnerLoop.onItem, RunnerLoop.streaming, Checked.ok_bind] at handled
            exact (RunnerLoop.bufferItem_cases handled).closed idle reached
    | failed staged error =>
        cases selected
        exact buffers.elim
    | controlled staged event => cases selected
    | pushed staged framed =>
        cases selected
        rcases RunnerLoop.onEmitted_cases rfl handled with ⟨result, stopped⟩ | ⟨_, _, buffered⟩
        · rw [stopped]
          exact RunnerLoop.stopping_closed result
        · exact buffered.closed rfl reached
  · have quiet : run.loop.Quiet := fun state streaming => streams ⟨state, streaming⟩
    have unstreamed := (RunnerLoop.pollStep_unstreamed quiet polls).quiet
    unfold RunnerLoop.Buffers at buffers
    split at buffers
    · rename_i item
      change polled.loop.onItem usizeSize item = .ok after.loop at handled
      obtain ⟨state, streaming, _⟩ := Checked.bind_eq_ok.mp handled
      unfold RunnerLoop.streaming at streaming
      split at streaming
      · rename_i streams
        exact absurd streams (unstreamed _)
      · cases streaming
    · obtain ⟨state, _, streams, _⟩ := buffers
      exact absurd streams (unstreamed state)
    · exact buffers.elim

/-- Whatever a streaming runner read is pushed, staged, buffered or still in its item, in that
order; only a limit that is reached leaves bytes of an item behind.
-/
def Conserved (run : RunnerRun) : Prop :=
  ∀ state,
    run.loop.phase = .streaming state
    → match state.staged with
      | none => run.read = run.pushed ++ state.buffer
      | some (emission, _) =>
          ∃ frame,
            emission.frame = some frame
              ∧ ((∃ cursor,
                    state.item = some cursor
                      ∧ run.read = run.pushed ++ frame.data ++ cursor.bytes.drop cursor.offset)
                ∨ run.read = run.pushed ++ frame.data
                ∨ run.pushed ++ frame.data <+: run.read ∧ run.loop.Reached)

theorem Sound.conserved (sound : run.Sound)
    (metered : run.loop.Metered initial run.pushed run.read)
    : run.Conserved := by
  intro state streams
  have flow : state.Flow run.pushed run.read run.refused := by
    have phase := sound.phase
    rw [PhaseSound, streams] at phase
    exact phase.2.2
  cases staged : state.staged with
  | none =>
      rw [StreamingState.Flow, staged] at flow
      exact flow.2.2
  | some emitting =>
      obtain ⟨emission, continuation⟩ := emitting
      rw [StreamingState.Flow, staged] at flow
      obtain ⟨_, _, frame, framed, _, rest⟩ := flow
      refine ⟨frame, framed, ?_⟩
      by_cases resumes : continuation = .resumeItem
      · subst resumes
        obtain ⟨cursor, current, _, whole⟩ := rest
        exact .inl ⟨cursor, current, whole⟩
      · have delivers : run.pushed ++ frame.data <+: run.read := by
          unfold StreamingState.Rest at rest
          split at rest
          · exact absurd rfl resumes
          · exact rest
        rcases metered.accounts state emission continuation frame streams staged framed resumes
          with whole | reached
        · exact .inr (.inl whole)
        · exact .inr (.inr ⟨delivers, reached⟩)

/-- A runner delivers an exact prefix: its frames, each of 1 to `BUFFER_SIZE` bytes, join to a
prefix of what it read, within its initial total; nothing in between is lost; and once an
item buffered reaches the total in force, no further item is read.
-/
theorem prefix_delivery {start : RunnerRun} (started : (machine u64Size).Initial start)
    (typed : ∀ total, start.loop.runner.total = some total → total < u64Size)
    (reached : ((machine u64Size).startingAt start).Reachable run)
    : run.pushed <+: run.read
      ∧ (∀ frame ∈ framesOf run.history,
          1 ≤ frame.data.length ∧ frame.data.length ≤ bufferSize)
      ∧ run.loop.runner.downloaded = run.pushed.length
      ∧ (∀ total,
          start.loop.runner.total = some total → run.loop.runner.downloaded ≤ total)
      ∧ run.Conserved
      ∧ ∀ sources polled step after,
          (machine u64Size).Step run (.turn sources) after
          → run.loop.pollStep sources = .ok polled
          → polled.step = some step
          → polled.loop.Buffers step
          → after.loop.Reached
          → ∀ later,
              ((machine u64Size).startingAt after).Reachable later
              → ∀ sources polled,
                  later.loop.pollStep sources = .ok polled
                  → ∀ item, polled.effect ≠ .readStream item := by
  have known := Machine.Reachable.of_startingAt (.initial started) reached
  have sound := reachable_sound known
  obtain ⟨metered, sized⟩ := metered_reachable started (by decide) typed reached
  refine ⟨sound.delivers, sized, sound.counted, fun total isTotal => ?_, sound.conserved metered,
    ?_⟩
  · exact (Nat.le_add_right _ _).trans (metered.budget.within total isTotal)
  · intro sources polled step after stepped polls selected buffers isReached later goesOn
    have closed := closed_of_reached polls selected buffers stepped.next isReached
    have stillClosed : later.loop.Closed :=
      goesOn.invariant (fun _ same => same ▸ closed)
        (fun before _ _ reached ih step =>
          closed_next (reachable_sound (.of_startingAt (known.step stepped) reached)) ih
            ⟨step.enabled, step.next⟩)
    exact fun _ _ polls => (@RunnerLoop.Closed.pollStep u64Size _ _ _ stillClosed polls).1

/-- A limit of two cuts an item of three bytes. -/
theorem prefix_delivery_cuts
    : ∃ run : RunnerRun,
        run.pushed = [1, 2] ∧ run.read = [1, 2, 3]
          ∧ run.pushed <+: run.read
          ∧ run.loop.runner.downloaded ≤ 3 := by
  let start : RunnerRun := .new .run (some 3) .connected
  have ran : (((machine u64Size).startingAt start).execute start
      [.turn { lifecycleReady := some true },
        .turn { control := some (some (.limitTotal 2)) },
        .turn { item := some (some (.ok [1, 2, 3])) },
        .turn { dataReady := some true }]).map (fun run => (run.pushed, run.read))
      = some ([1, 2], [1, 2, 3]) := rfl
  obtain ⟨run, executed, same⟩ := Option.map_eq_some_iff.mp ran
  obtain ⟨pushed, read⟩ := Prod.mk.inj same
  have started : (machine u64Size).Initial start := ⟨_, _, _, by decide, by decide, rfl⟩
  have begins : ((machine u64Size).startingAt start).Reachable start := .initial rfl
  have delivery := prefix_delivery started (fun total known => by cases known; decide)
    (begins.execute _ executed)
  exact ⟨run, pushed, read, delivery.1, delivery.2.2.2.1 3 rfl⟩

end RunnerRun

end BoltLoad
