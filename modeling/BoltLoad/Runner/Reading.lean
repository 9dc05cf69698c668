import BoltLoad.Runner.Buffering

/-! What polling and handling do to a runner's loop, constructor by constructor, and the end
of its reading: a loop that emits its last frame, or stops, reads no further item.
-/

namespace BoltLoad

-----------------------------------------------------------------------------------------
-- Polling and handling
-----------------------------------------------------------------------------------------

/-- The same byte count, and a total that is at most lowered. -/
structure TaskRunner.Lowers (before after : TaskRunner) : Prop where
  downloaded : after.downloaded = before.downloaded
  unknown : before.total = none → after.total = none
  lowered
    : ∀ total,
        before.total = some total → ∃ lower, after.total = some lower ∧ lower ≤ total

namespace TaskRunner

theorem Lowers.refl (runner : TaskRunner) : runner.Lowers runner :=
  ⟨rfl, id, fun total known => ⟨total, known, Nat.le_refl _⟩⟩

/-- A limit lowers a known total, or is refused. -/
theorem applyLimit_lowers (runner : TaskRunner) (signal : ControlEvent)
    : runner.Lowers (runner.applyLimit signal).2 := by
  obtain ⟨limit⟩ := signal
  unfold applyLimit applyControl
  cases known : runner.total with
  | none => exact ⟨rfl, fun _ => rfl, (fun _ never => by cases known.symm.trans never)⟩
  | some current =>
      by_cases lowers : current > limit
      · simp only [if_pos lowers]
        refine ⟨rfl, (fun never => by cases known.symm.trans never), fun total same => ?_⟩
        cases known.symm.trans same
        exact ⟨limit, rfl, lowers.le⟩
      · simp only [if_neg lowers]
        exact .refl runner

end TaskRunner

namespace RunnerLoop

variable {usizeSize : Nat} {loop after : RunnerLoop} {state : StreamingState}
  {sources : Sources} {polled : Polled}

/-- The loop is not streaming. -/
def Quiet (loop : RunnerLoop) : Prop := ∀ state, loop.phase ≠ .streaming state

/-- What polling a streaming loop selects, and what it does to the loop. -/
inductive Watched (loop : RunnerLoop) (state : StreamingState) : Polled → Prop
  | pending : Watched loop state ⟨loop, none, .none⟩
  | cancelled (idle : state.staged = none) : Watched loop state ⟨loop, some .cancelled, .none⟩
  | signalled (idle : state.staged = none) (event : Except TaskRunError ControlEvent)
    : Watched loop state ⟨loop, some (.control event), controlEffect event⟩
  | idleTimeout (idle : state.staged = none)
    : Watched loop state ⟨loop, some .idleTimeout, .none⟩
  | downloaded (idle : state.staged = none) (item : Option (Except AdapterError Bytes))
    : Watched loop state ⟨loop, some (.download item), readEffect item⟩
  | failed {emission : Emission} {continuation : Continuation}
    (staged : state.staged = some (emission, continuation)) (error : TaskRunError)
    : Watched loop state ⟨loop, some (.emitted (.error error)), .none⟩
  | controlled {emission : Emission} {continuation : Continuation}
    (staged : state.staged = some (emission, continuation))
    (event : Except TaskRunError ControlEvent)
    : Watched loop state
        ⟨⟨(onControl loop.runner emission event).1,
          .streaming {
            state with
            staged := some ((onControl loop.runner emission event).2, continuation) }⟩,
          none, controlEffect event⟩
  | pushed {emission : Emission} {continuation : Continuation} {frame : DataFrame}
    (staged : state.staged = some (emission, continuation))
    (framed : emission.frame = some frame)
    : Watched loop state
        ⟨⟨{ loop.runner with downloaded := loop.runner.downloaded + frame.data.length },
          .streaming {
            state with
            staged := some ({ emission with frame := none, deferred := none }, continuation) }⟩,
          some (.emitted (.ok emission.deferred)), .pushData frame⟩

theorem pollPush_watched {emission : Emission} {continuation : Continuation}
    (staged : state.staged = some (emission, continuation))
    (polls : loop.pollPush state emission continuation sources = .ok polled)
    : Watched loop state polled := by
  unfold pollPush at polls
  split at polls
  · cases polls
    exact .pending
  · cases polls
    exact .failed staged _
  · obtain ⟨frame, found, pushed⟩ := Checked.bind_eq_ok.mp polls
    cases pushed
    refine .pushed staged ?_
    cases framed : emission.frame with
    | none =>
        rw [framed] at found
        cases found
    | some other =>
        rw [framed] at found
        cases found
        rfl

theorem pollEmit_watched {emission : Emission} {continuation : Continuation}
    (staged : state.staged = some (emission, continuation))
    (polls : loop.pollEmit state emission continuation sources = .ok polled)
    : Watched loop state polled := by
  unfold pollEmit at polls
  split at polls
  · cases polls
    exact .failed staged _
  split at polls
  · cases polls
    exact .failed staged _
  split at polls
  · cases polls
    exact .controlled staged _
  · exact pollPush_watched staged polls

theorem pollStep_watched (streams : loop.phase = .streaming state)
    (polls : loop.pollStep sources = .ok polled)
    : Watched loop state polled := by
  unfold pollStep at polls
  rw [streams] at polls
  dsimp only at polls
  split at polls
  · rename_i staged
    exact pollEmit_watched staged polls
  rename_i idle
  split at polls
  · cases polls
    exact .cancelled idle
  split at polls
  · cases polls
    exact .signalled idle _
  split at polls
  · cases polls
    exact .idleTimeout idle
  split at polls
  · split at polls
    · cases polls
      exact .downloaded idle _
    · cases polls
      exact .pending
  · cases polls

/-- Polling a loop that does not stream leaves its runner, and neither reads nor pushes a
frame.
-/
structure Unstreamed (loop : RunnerLoop) (polled : Polled) : Prop where
  runner : polled.loop.runner = loop.runner
  quiet : polled.loop.Quiet
  reads : ∀ item, polled.effect ≠ .readStream item
  pushes : ∀ frame, polled.effect ≠ .pushData frame

theorem controlEffect_unstreamed (event : Except TaskRunError ControlEvent)
    : (∀ item, controlEffect event ≠ .readStream item)
      ∧ ∀ frame, controlEffect event ≠ .pushData frame := by
  cases event <;> exact ⟨(fun _ never => by cases never), (fun _ never => by cases never)⟩

theorem pollStep_unstreamed (quiet : loop.Quiet) (polls : loop.pollStep sources = .ok polled)
    : Unstreamed loop polled := by
  unfold pollStep at polls
  split at polls
  · split at polls
    · cases polls
      exact ⟨rfl, quiet, (fun _ never => by cases never), (fun _ never => by cases never)⟩
    split at polls
    · rename_i event _
      cases polls
      exact ⟨rfl, quiet, (controlEffect_unstreamed event).1, (controlEffect_unstreamed event).2⟩
    split at polls
    · cases polls
      exact ⟨rfl, quiet, (fun _ never => by cases never), (fun _ never => by cases never)⟩
    split at polls
    · cases polls
      exact ⟨rfl, quiet, (fun _ never => by cases never), (fun _ never => by cases never)⟩
    · cases polls
  · split at polls <;> cases polls <;>
      exact ⟨rfl, quiet, (fun _ never => by cases never), (fun _ never => by cases never)⟩
  · rename_i state streams
    exact absurd streams (quiet state)
  · cases polls
    exact ⟨rfl, quiet, (fun _ never => by cases never), (fun _ never => by cases never)⟩
  · split at polls
    · cases polls
      exact ⟨rfl, quiet, (fun _ never => by cases never), (fun _ never => by cases never)⟩
    · rename_i isOpen _
      obtain ⟨event, _, published⟩ := Checked.bind_eq_ok.mp polls
      cases published
      cases isOpen <;>
        exact ⟨rfl, (fun _ never => by cases never), (fun _ never => by cases never),
          (fun _ never => by cases never)⟩
  · cases polls

/-- Only a runner that publishes its start reports it. -/
theorem pollStep_started {result : RunResult} (polls : loop.pollStep sources = .ok polled)
    (selected : polled.step = some (.started result))
    : loop.phase = .publishingStarted := by
  cases phase : loop.phase with
  | publishingStarted => rfl
  | streaming state =>
      cases pollStep_watched phase polls <;> cases selected
  | connecting =>
      unfold pollStep at polls
      rw [phase] at polls
      dsimp only at polls
      split at polls
      · cases polls
        cases selected
      split at polls
      · cases polls
        cases selected
      split at polls
      · cases polls
        cases selected
      split at polls
      · cases polls
        obtain ⟨_, _, never⟩ := Option.map_eq_some_iff.mp selected
        cases never
      · cases polls
  | draining result =>
      unfold pollStep at polls
      rw [phase] at polls
      cases polls
      obtain ⟨_, _, never⟩ := Option.map_eq_some_iff.mp selected
      cases never
  | publishingStopped event =>
      unfold pollStep at polls
      rw [phase] at polls
      dsimp only at polls
      split at polls
      · cases polls
        cases selected
      · obtain ⟨_, _, published⟩ := Checked.bind_eq_ok.mp polls
        cases published
        cases selected
  | stopped =>
      unfold pollStep at polls
      rw [phase] at polls
      cases polls

/-- A stop keeps the byte count and the total, and does not stream. -/
theorem beginStop_lowers (loop : RunnerLoop) (result : RunResult)
    : loop.runner.Lowers (loop.beginStop result).runner ∧ (loop.beginStop result).Quiet := by
  unfold beginStop
  cases loop.phase <;> cases TaskRunner.shouldWaitDataDrain result <;>
    exact ⟨⟨rfl, id, fun total known => ⟨total, known, Nat.le_refl _⟩⟩,
      (fun _ never => by cases never)⟩

/-- Handling a step of a loop that does not stream at most starts an empty stream. -/
theorem handleStep_unstreamed {step : Step} (quiet : loop.Quiet)
    (handled : loop.handleStep usizeSize step = .ok after)
    : loop.runner.Lowers after.runner ∧ (after.Quiet ∨ after.phase = .streaming .new) := by
  have unstreamed {β : Type} {next : StreamingState → Checked β} {result : β}
      : ¬(loop.streaming >>= next) = .ok result := by
    unfold streaming
    split
    · rename_i state streams
      exact absurd streams (quiet state)
    · exact (fun never => by cases never)
  have stops (result : RunResult)
      : loop.runner.Lowers (loop.beginStop result).runner
        ∧ ((loop.beginStop result).Quiet ∨ (loop.beginStop result).phase = .streaming .new) :=
    ⟨(beginStop_lowers loop result).1, .inl (beginStop_lowers loop result).2⟩
  unfold handleStep at handled
  split at handled
  · cases handled
    exact ⟨⟨rfl, id, fun total known => ⟨total, known, Nat.le_refl _⟩⟩,
      .inl (fun _ never => by cases never)⟩
  · cases handled
    exact stops _
  · cases handled
    exact stops _
  · cases handled
    exact ⟨.refl _, .inr rfl⟩
  · cases handled
    exact stops _
  · cases handled
    exact stops _
  · rename_i signal
    have lowers := TaskRunner.applyLimit_lowers loop.runner signal
    split at handled
    · rename_i runner applied
      rw [applied] at lowers
      cases handled
      exact ⟨lowers, .inl quiet⟩
    · rename_i error runner applied
      rw [applied] at lowers
      cases handled
      have stopped := beginStop_lowers { loop with runner } (.error error)
      refine ⟨⟨stopped.1.downloaded.trans lowers.downloaded,
        fun unknown => stopped.1.unknown (lowers.unknown unknown), fun total known => ?_⟩,
        .inl stopped.2⟩
      obtain ⟨lower, isLower, le⟩ := lowers.lowered total known
      obtain ⟨lowest, isLowest, le'⟩ := stopped.1.lowered lower isLower
      exact ⟨lowest, isLowest, le'.trans le⟩
  · cases handled
    exact stops _
  · exact absurd handled unstreamed
  · exact absurd handled unstreamed
  · exact absurd handled unstreamed
  · exact absurd handled unstreamed
  · exact absurd handled unstreamed
  · unfold finishDrain at handled
    split at handled
    · cases handled
      exact ⟨.refl _, .inl (fun _ never => by cases never)⟩
    · cases handled
  · cases handled
    exact ⟨⟨rfl, id, fun total known => ⟨total, known, Nat.le_refl _⟩⟩,
      .inl (fun _ never => by cases never)⟩

-----------------------------------------------------------------------------------------
-- The end of the reading
-----------------------------------------------------------------------------------------

/-- What follows an emitted buffer of a streaming loop. -/
theorem onEmitted_cases {runner : TaskRunner} {emission : Emission}
    {continuation : Continuation} {result : EmitResult}
    (staged : state.staged = some (emission, continuation))
    (emitted : onEmitted usizeSize ⟨runner, .streaming state⟩ result = .ok after)
    : (∃ result, after = .stopping runner result)
      ∨ result = .ok none ∧ continuation = .resumeItem
        ∧ Buffered usizeSize runner { state with staged := none } after := by
  simp only [onEmitted, streaming, Checked.ok_bind, staged, Checked.expect_some] at emitted
  have stops {result : RunResult}
      (stopped : (pure (beginStop ⟨runner, .streaming { state with staged := none }⟩ result)
        : Checked RunnerLoop) = .ok after)
      : ∃ result, after = .stopping runner result := by
    cases stopped
    exact ⟨_, beginStop_streaming _⟩
  unfold resumeAfterEmit at emitted
  split at emitted
  · exact .inl (stops emitted)
  split at emitted
  · exact .inl (stops emitted)
  · exact .inl (stops emitted)
  · refine .inr ⟨rfl, rfl, bufferItem_cases ?_⟩
    simpa only [resumeItem, streaming, Checked.ok_bind] using emitted
  · exact .inl (stops emitted)
  · exact .inl (stops emitted)

/-- A loop that reads no more goes on without reading, and reads no more. -/
theorem Closed.pollStep (closed : loop.Closed) (polls : loop.pollStep sources = .ok polled)
    : (∀ item, polled.effect ≠ .readStream item)
      ∧ (polled.step = none → polled.loop.Closed)
      ∧ ∀ step after,
          polled.step = some step
          → polled.loop.handleStep usizeSize step = .ok after
          → after.Closed := by
  cases phase : loop.phase with
  | connecting =>
      rw [Closed, phase] at closed
      exact closed.elim
  | publishingStarted =>
      rw [Closed, phase] at closed
      exact closed.elim
  | streaming state =>
      rw [Closed, phase] at closed
      obtain ⟨emission, continuation, staged, ends⟩ := closed
      have busy (idle : state.staged = none) : False := by
        cases idle.symm.trans staged
      have same : loop = ⟨loop.runner, .streaming state⟩ := by rw [← phase]
      cases pollStep_watched phase polls with
      | pending =>
          refine ⟨(fun _ never => by cases never), fun _ => ?_, (fun _ _ never => by cases never)⟩
          rw [Closed, phase]
          exact ⟨emission, continuation, staged, ends⟩
      | cancelled idle => exact (busy idle).elim
      | signalled idle event => exact (busy idle).elim
      | idleTimeout idle => exact (busy idle).elim
      | downloaded idle item => exact (busy idle).elim
      | failed failing error =>
          refine ⟨(fun _ never => by cases never), (fun never => by cases never),
            fun step after selected handled => ?_⟩
          cases selected
          change loop.onEmitted usizeSize _ = .ok after at handled
          rw [same] at handled
          rcases onEmitted_cases staged handled with ⟨_, stopped⟩ | ⟨never, _⟩
          · exact stopped ▸ stopping_closed _
          · cases never
      | controlled signalled event =>
          refine ⟨(controlEffect_unstreamed event).1, fun _ => ?_,
            (fun _ _ never => by cases never)⟩
          cases staged.symm.trans signalled
          exact ⟨_, continuation, rfl, ends⟩
      | pushed pushing framed =>
          cases staged.symm.trans pushing
          refine ⟨(fun _ never => by cases never), (fun never => by cases never),
            fun step after selected handled => ?_⟩
          cases selected
          rcases onEmitted_cases rfl handled with ⟨_, stopped⟩ | ⟨_, resumes, _⟩
          · exact stopped ▸ stopping_closed _
          · exact absurd resumes ends
  | draining result =>
      have quiet : loop.Quiet := fun _ never => by cases phase.symm.trans never
      have unstreamed := pollStep_unstreamed quiet polls
      unfold RunnerLoop.pollStep at polls
      rw [phase] at polls
      cases polls
      refine ⟨unstreamed.reads, fun _ => ?_, fun step after selected handled => ?_⟩
      · rw [Closed, phase]
        trivial
      · obtain ⟨outcome, _, same⟩ := Option.map_eq_some_iff.mp selected
        subst same
        change loop.finishDrain outcome = .ok after at handled
        rw [finishDrain, phase] at handled
        cases handled
        exact trivial
  | publishingStopped event =>
      have quiet : loop.Quiet := fun _ never => by cases phase.symm.trans never
      have unstreamed := pollStep_unstreamed quiet polls
      refine ⟨unstreamed.reads, ?_⟩
      unfold RunnerLoop.pollStep at polls
      rw [phase] at polls
      dsimp only at polls
      split at polls
      · cases polls
        refine ⟨fun _ => ?_, (fun _ _ never => by cases never)⟩
        rw [Closed, phase]
        trivial
      · obtain ⟨event, _, published⟩ := Checked.bind_eq_ok.mp polls
        cases published
        refine ⟨(fun never => by cases never), fun step after selected handled => ?_⟩
        cases selected
        cases handled
        exact trivial
  | stopped =>
      unfold RunnerLoop.pollStep at polls
      rw [phase] at polls
      cases polls

end RunnerLoop

end BoltLoad
