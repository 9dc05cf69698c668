import BoltLoad.Runner.Protocol

/-! One turn of a run, phase by phase: it never panics, keeps the run sound, and changes the
total only by the limit it takes.
-/

namespace BoltLoad

namespace RunnerRun

variable {usizeSize : Nat} {run : RunnerRun}

/-- A limit either applies or is refused as exceeding. -/
theorem applyLimit_cases (runner : TaskRunner) (signal : ControlEvent)
    : (∃ total, runner.applyLimit signal = (.ok (), { runner with total })
        ∧ TaskRunner.applyControl runner.total signal = .ok total
        ∧ refuses runner.total signal = false)
      ∨ runner.applyLimit signal = (.error (.failed .exceededTotalSize), runner)
        ∧ TaskRunner.applyControl runner.total signal = .error .exceededTotalSize
        ∧ refuses runner.total signal = true := by
  obtain ⟨limit⟩ := signal
  unfold refuses TaskRunner.applyLimit TaskRunner.applyControl
  cases runner.total with
  | none => exact Or.inl ⟨_, rfl, rfl, rfl⟩
  | some current =>
      by_cases lowers : current > limit
      · exact Or.inl ⟨some limit, by simp [lowers]⟩
      · exact Or.inr (by simp [lowers])

/-- The total after a turn with an effect. -/
def limited (total : Option Nat) : Effect → Option Nat
  | .takeControl signal =>
    match TaskRunner.applyControl total signal with
    | .ok total => total
    | .error _ => total
  | _ => total

/-- A turn that neither panics nor breaks soundness; it changes the total by its effect only. -/
def TurnsWell (usizeSize : Nat) (run : RunnerRun) (sources : Sources) : Prop :=
  ∃ polled after,
    run.loop.pollStep sources = .ok polled
    ∧ run.turn usizeSize sources = .ok after
    ∧ after.Sound
    ∧ after.loop.runner.total = limited run.loop.runner.total polled.effect

/-- A turn is its polled step, its effect, and the handling of the step. -/
theorem TurnsWell.of_handled {sources : Sources} {applied : RunnerRun}
    (polled : RunnerLoop) (step : Step) (effect : Effect) (loop : RunnerLoop)
    (polls : run.loop.pollStep sources = .ok ⟨polled, some step, effect⟩)
    (applies : run.apply effect = .ok applied)
    (handles : returnsOn applied.driver step = false)
    (handled : polled.handleStep usizeSize step = .ok loop)
    (sound : ({ applied with loop := loop } : RunnerRun).Sound)
    (total : loop.runner.total = limited run.loop.runner.total effect)
    : run.TurnsWell usizeSize sources := by
  refine ⟨_, { applied with loop }, polls, ?_, sound, total⟩
  simp only [turn, polls, Checked.ok_bind, applies, handles, handled]
  rfl

/-- A turn that selects no step only leaves what polling did. -/
theorem TurnsWell.of_pending {sources : Sources} {applied : RunnerRun}
    (polled : RunnerLoop) (effect : Effect)
    (polls : run.loop.pollStep sources = .ok ⟨polled, none, effect⟩)
    (applies : run.apply effect = .ok applied)
    (sound : ({ applied with loop := polled } : RunnerRun).Sound)
    (total : polled.runner.total = limited run.loop.runner.total effect)
    : run.TurnsWell usizeSize sources := by
  refine ⟨_, { applied with loop := polled }, polls, ?_, sound, total⟩
  simp only [turn, polls, Checked.ok_bind, applies]
  rfl

/-- Before it is connected, a runner has pushed and read nothing, and any stop is sound. -/
theorem Sound.turn_connecting {sources : Sources} (sound : run.Sound)
    (connecting : run.loop.phase = .connecting)
    : run.TurnsWell usizeSize sources := by
  obtain ⟨driver, ⟨runner, phase⟩, lifecycle, data, lifecycleGone, dataGone, history, read,
    refused⟩ := run
  subst connecting
  obtain ⟨counted, opened, delivers, events, frames, awaiting, input, fresh, nothing⟩ := sound
  simp only at counted opened delivers events frames awaiting input fresh nothing
  subst fresh nothing
  have driven : driver ≠ .awaitingReady := fun waits => by cases awaiting waits
  have stops (result : RunResult) (refused' : Bool)
      (justified : (RunnerLoop.stoppedReason result).Justified
        { runner with input := .abandoned } refused')
      : Sound ⟨driver, .stopping { runner with input := .abandoned } result, lifecycle, data,
          lifecycleGone, dataGone, [], [], refused'⟩ :=
    ⟨counted, fun _ => opened rfl, delivers, events, frames, fun waits => absurd waits driven,
      PhaseSound.of_stopping rfl (Or.inl rfl) justified⟩
  by_cases cancelled : sources.cancelled = true
  · refine .of_handled ⟨runner, .connecting⟩ .cancelled .none _ ?_ rfl rfl ?_
      (stops (.error .cancelled) refused trivial) rfl
    · simp only [RunnerLoop.pollStep, cancelled, if_true]
    · simp only [RunnerLoop.handleStep, RunnerLoop.beginStop_connecting]
      rfl
  cases control : sources.control with
  | some signal =>
      cases signal with
      | none =>
          refine .of_handled ⟨runner, .connecting⟩ (.control (.error (.failed .channelClosed)))
            .none _ ?_ rfl rfl ?_ (stops (.error (.failed .channelClosed)) refused trivial) rfl
          · simp only [RunnerLoop.pollStep, cancelled, RunnerLoop.pollControl, control]
            rfl
          · simp only [RunnerLoop.handleStep, RunnerLoop.beginStop_connecting]
            rfl
      | some signal =>
          have polls
              : RunnerLoop.pollStep ⟨runner, .connecting⟩ sources
                = .ok ⟨⟨runner, .connecting⟩, some (.control (.ok signal)), .takeControl signal⟩ := by
            simp only [RunnerLoop.pollStep, cancelled, RunnerLoop.pollControl, control]
            rfl
          rcases applyLimit_cases runner signal
            with ⟨total, applies, applied, accepted⟩ | ⟨applies, applied, refuses⟩
          · refine .of_handled _ _ _ ⟨{ runner with total }, .connecting⟩ polls rfl rfl ?_ ?_ ?_
            · simp only [RunnerLoop.handleStep, applies]
              rfl
            · exact ⟨counted, opened, delivers, events, frames, awaiting, input, rfl, rfl⟩
            · simp only [limited, applied]
          · refine .of_handled _ _ _ _ polls rfl rfl ?_
              (stops (.error (.failed .exceededTotalSize)) _ (Or.inr ?_)) ?_
            · simp only [RunnerLoop.handleStep, applies, RunnerLoop.beginStop_connecting]
              rfl
            · simp only [refuses, Bool.or_true]
            · simp only [limited, applied]
              rfl
  | none =>
      by_cases late : sources.connectTimeout = true
      · refine .of_handled ⟨runner, .connecting⟩ .connectTimeout .none _ ?_ rfl rfl ?_
          (stops (.error (.failed .timeout)) refused trivial) rfl
        · simp only [RunnerLoop.pollStep, cancelled, RunnerLoop.pollControl, control, late]
          rfl
        · simp only [RunnerLoop.handleStep, RunnerLoop.beginStop_connecting]
          rfl
      have polls
          : RunnerLoop.pollStep ⟨runner, .connecting⟩ sources
            = .ok ⟨⟨runner, .connecting⟩, sources.connection.map .connected, .none⟩ := by
        simp only [RunnerLoop.pollStep, cancelled, RunnerLoop.pollControl, control, late, input]
        rfl
      cases connection : sources.connection with
      | none =>
          rw [connection] at polls
          exact .of_pending _ _ polls rfl
            ⟨counted, opened, delivers, events, frames, awaiting, input, rfl, rfl⟩ rfl
      | some result =>
          rw [connection] at polls
          cases result with
          | ok stream =>
              refine .of_handled _ _ _ ⟨{ runner with input := .connected }, .publishingStarted⟩
                polls rfl rfl rfl ?_ rfl
              exact ⟨counted, fun _ => opened rfl, delivers, events, frames, fun _ => rfl, rfl,
                by simp only [driven, if_false], rfl⟩
          | error source =>
              refine .of_handled _ _ _ _ polls rfl rfl ?_
                (stops (.error (.failed (.streamError source))) refused trivial) rfl
              simp only [RunnerLoop.handleStep, RunnerLoop.beginStop_connecting]
              rfl

/-- Publishing `Started` opens the history; a consumer that is gone stops the runner. -/
theorem Sound.turn_publishingStarted {sources : Sources} (sound : run.Sound)
    (publishing : run.loop.phase = .publishingStarted) (driven : run.driver ≠ .awaitingReady)
    (allowed : run.Allows sources)
    : run.TurnsWell usizeSize sources := by
  obtain ⟨driver, ⟨runner, phase⟩, lifecycle, data, lifecycleGone, dataGone, history, read,
    refused⟩ := run
  subst publishing
  obtain ⟨counted, opened, delivers, events, frames, -, input, fresh, nothing⟩ := sound
  simp only at counted opened delivers events frames input fresh nothing driven
  rw [if_neg driven] at fresh
  subst fresh nothing
  cases ready : sources.lifecycleReady with
  | none =>
      refine .of_pending ⟨runner, .publishingStarted⟩ .none ?_ rfl ?_ rfl
      · simp only [RunnerLoop.pollStep, ready]
      · exact ⟨counted, opened, delivers, events, frames, fun _ => rfl, input,
          by simp only [driven, if_false], rfl⟩
  | some isOpen =>
      cases isOpen with
      | false =>
          refine .of_handled ⟨runner, .publishingStarted⟩
            (.started (.error (.failed .channelClosed))) .none
            (.stopping runner (.error (.failed .channelClosed))) ?_ rfl rfl ?_ ?_ rfl
          · simp only [RunnerLoop.pollStep, ready]
          · simp only [RunnerLoop.handleStep, RunnerLoop.beginStop_publishingStarted]
            rfl
          · exact ⟨counted, fun _ => opened rfl, delivers, events, frames,
              fun waits => absurd waits driven,
              PhaseSound.of_stopping rfl (Or.inl rfl) trivial⟩
      | true =>
          have vacant : lifecycle.length < lifecycleChannelCapacity := (allowed.1 ready).2
          have polls
              : RunnerLoop.pollStep ⟨runner, .publishingStarted⟩ sources
                = .ok ⟨⟨runner, .publishingStarted⟩, some (.started (.ok ())),
                    .pushLifecycle .started⟩ := by
            simp only [RunnerLoop.pollStep, ready]
          have applies
              : apply ⟨driver, ⟨runner, .publishingStarted⟩, lifecycle, data, lifecycleGone,
                  dataGone, [], [], refused⟩ (.pushLifecycle .started)
                = .ok ⟨driver, ⟨runner, .publishingStarted⟩, lifecycle ++ [.started], data,
                    lifecycleGone, dataGone, [.lifecycle .started], [], refused⟩ := by
            simp only [apply, vacant, if_true]
            rfl
          have suffix : lifecycle ++ [LifecycleEvent.started] <:+ eventsOf [.lifecycle .started] := by
            have none : lifecycle = [] := List.suffix_nil.mp events
            simp [none]
          have opens : Opened [.lifecycle .started] := ⟨[], rfl⟩
          by_cases returns : driver = .untilStarted
          · subst returns
            refine ⟨_, ⟨.awaitingReady, ⟨runner, .publishingStarted⟩, lifecycle ++ [.started],
              data, lifecycleGone, dataGone, [.lifecycle .started], [], refused⟩, polls, ?_,
              ⟨counted, opened, delivers, suffix, frames, fun _ => rfl, input, rfl, rfl⟩, rfl⟩
            simp only [turn, polls, Checked.ok_bind, applies, returnsOn]
            rfl
          · refine .of_handled _ _ _ ⟨runner, .streaming .new⟩ polls applies ?_ rfl ?_ rfl
            · simp only [returnsOn, returns, decide_false]
            · refine ⟨counted, fun _ => opened rfl, delivers, suffix, frames,
                fun waits => absurd waits driven, input, opens, ?_⟩
              simp [StreamingState.Flow, StreamingState.new, pushed]

/-- Reading an item, the end of the stream, or any signal keeps every byte in place. -/
theorem Sound.turn_reading {sources : Sources} {state : StreamingState} (sound : run.Sound)
    (streams : run.loop.phase = .streaming state) (reads : state.staged = none)
    : run.TurnsWell usizeSize sources := by
  obtain ⟨driver, ⟨runner, phase⟩, lifecycle, data, lifecycleGone, dataGone, history, read,
    refused⟩ := run
  subst streams
  obtain ⟨counted, opened, delivers, events, frames, awaiting, input, opens, flow⟩ := sound
  have whole := flow
  simp only [StreamingState.Flow, reads] at flow
  obtain ⟨noItem, fits, bytes⟩ := flow
  simp only at counted opened delivers events frames awaiting input opens bytes whole
  have driven : driver ≠ .awaitingReady := fun waits => by cases awaiting waits
  have dataOpen : runner.dataOpen = true := opened rfl
  have resumes {runner' : TaskRunner} {refused' : Bool} {loop : RunnerLoop}
      (resumed : RunnerLoop.Resumed runner' (bytesOf (framesOf history)) read refused' loop)
      (same : ∃ total, runner' = { runner with total })
      : Sound ⟨driver, loop, lifecycle, data, lifecycleGone, dataGone, history, read,
          refused'⟩ := by
    obtain ⟨total, rfl⟩ := same
    exact .of_resumed resumed input counted dataOpen opens events frames driven
  have stops (result : RunResult) {refused' : Bool}
      (justified : (RunnerLoop.stoppedReason result).Justified runner refused')
      : Sound ⟨driver, .stopping runner result, lifecycle, data, lifecycleGone, dataGone, history,
          read, refused'⟩ :=
    resumes (.stopping delivers justified) ⟨_, rfl⟩
  have flushes (continuation : Continuation) (ends : continuation ≠ .resumeItem)
      : ∃ after, RunnerLoop.flush ⟨runner, .streaming state⟩ continuation = .ok after
        ∧ RunnerLoop.Resumed runner (bytesOf (framesOf history)) read refused after := by
    refine RunnerLoop.flush_resumed ?_ (fun resumes => absurd resumes ends)
    have rest : bytesOf (framesOf history) ++ state.buffer <+: read := by
      rw [bytes]
      exact List.prefix_refl _
    unfold StreamingState.Rest
    split
    · exact absurd rfl ends
    · exact rest
  by_cases cancelled : sources.cancelled = true
  · refine .of_handled ⟨runner, .streaming state⟩ .cancelled .none _ ?_ rfl rfl ?_
      (stops (.error .cancelled) trivial) rfl
    · simp only [RunnerLoop.pollStep, reads, cancelled, if_true]
    · simp only [RunnerLoop.handleStep, RunnerLoop.beginStop_streaming]
      rfl
  cases control : sources.control with
  | some signal =>
      cases signal with
      | none =>
          refine .of_handled ⟨runner, .streaming state⟩
            (.control (.error (.failed .channelClosed))) .none _ ?_ rfl rfl ?_
            (stops (.error (.failed .channelClosed)) trivial) rfl
          · simp only [RunnerLoop.pollStep, reads, cancelled, RunnerLoop.pollControl, control]
            rfl
          · simp only [RunnerLoop.handleStep, RunnerLoop.beginStop_streaming]
            rfl
      | some signal =>
          have polls
              : RunnerLoop.pollStep ⟨runner, .streaming state⟩ sources
                = .ok ⟨⟨runner, .streaming state⟩, some (.control (.ok signal)),
                    .takeControl signal⟩ := by
            simp only [RunnerLoop.pollStep, reads, cancelled, RunnerLoop.pollControl, control]
            rfl
          rcases applyLimit_cases runner signal
            with ⟨total, applies, applied, accepted⟩ | ⟨applies, applied, refuses⟩
          · refine .of_handled _ _ _ ⟨{ runner with total }, .streaming state⟩ polls rfl rfl ?_
              ?_ ?_
            · simp only [RunnerLoop.handleStep, applies]
              rfl
            · simp only [accepted, Bool.or_false]
              exact resumes (.streaming whole) ⟨total, rfl⟩
            · simp only [limited, applied]
          · refine .of_handled _ _ _ _ polls rfl rfl ?_
              (stops (.error (.failed .exceededTotalSize)) (Or.inr ?_)) ?_
            · simp only [RunnerLoop.handleStep, applies, RunnerLoop.beginStop_streaming]
              rfl
            · simp only [refuses, Bool.or_true]
            · simp only [limited, applied]
              rfl
  | none =>
      by_cases idle : sources.idleTimeout = true
      · obtain ⟨after, flushed, resumed⟩ := flushes .idleTimeout (by simp)
        refine .of_handled ⟨runner, .streaming state⟩ .idleTimeout .none after ?_ rfl rfl flushed
          (resumes resumed ⟨_, rfl⟩) ?_
        · simp only [RunnerLoop.pollStep, reads, cancelled, RunnerLoop.pollControl, control, idle]
          rfl
        · cases resumed <;> rfl
      cases seen : sources.item with
      | none =>
          refine .of_pending ⟨runner, .streaming state⟩ .none ?_ rfl
            (resumes (.streaming whole) ⟨_, rfl⟩) rfl
          simp only [RunnerLoop.pollStep, reads, cancelled, RunnerLoop.pollControl, control, idle,
            input, seen]
          rfl
      | some item' =>
          have polls
              : RunnerLoop.pollStep ⟨runner, .streaming state⟩ sources
                = .ok ⟨⟨runner, .streaming state⟩, some (.download item'),
                    RunnerLoop.readEffect item'⟩ := by
            simp only [RunnerLoop.pollStep, reads, cancelled, RunnerLoop.pollControl, control, idle,
              input, seen]
            rfl
          cases item' with
          | none =>
              obtain ⟨after, flushed, resumed⟩ := flushes .validate (by simp)
              refine .of_handled _ _ _ after polls rfl rfl flushed (resumes resumed ⟨_, rfl⟩) ?_
              cases resumed <;> rfl
          | some result =>
              cases result with
              | error source =>
                  obtain ⟨after, flushed, resumed⟩ := flushes (.streamError source) (by simp)
                  refine .of_handled _ _ _ after polls rfl rfl flushed (resumes resumed ⟨_, rfl⟩) ?_
                  cases resumed <;> rfl
              | ok item =>
                  obtain ⟨after, buffered, resumed⟩
                      : ∃ after,
                          RunnerLoop.bufferItem usizeSize
                            ⟨runner, .streaming { state with item := some ⟨item, 0⟩ }⟩
                          = .ok after
                        ∧ RunnerLoop.Resumed runner (bytesOf (framesOf history)) (read ++ item)
                            refused after := by
                    refine RunnerLoop.bufferItem_resumed reads rfl (Nat.zero_le _) fits ?_
                    rw [bytes]
                    rfl
                  refine .of_handled _ _ _ after polls rfl rfl ?_ ?_ ?_
                  · simp only [RunnerLoop.handleStep, RunnerLoop.onItem, RunnerLoop.streaming,
                      Checked.ok_bind]
                    exact buffered
                  · exact .of_resumed resumed input counted dataOpen opens events frames driven
                  · cases resumed <;> rfl

/-- Whether a limit was refused by now, after a turn with an effect. -/
def refusedAfter (total : Option Nat) (refused : Bool) : Effect → Bool
  | .takeControl signal => refused || refuses total signal
  | _ => refused

/-- A signal arriving during a push changes the total, or is deferred as a failure. -/
theorem onControl_eq (runner : TaskRunner) {emission : Emission} {sources : Sources}
    {event : Except TaskRunError ControlEvent} {refused : Bool}
    (polled : RunnerLoop.pollControl sources = some event)
    (excused : emission.deferred = some (.failed .exceededTotalSize) → refused = true)
    : ∃ emission',
        RunnerLoop.onControl runner emission event
        = ({ runner with total := limited runner.total (RunnerLoop.controlEffect event) },
            emission')
      ∧ emission'.frame = emission.frame
      ∧ (emission'.deferred = some (.failed .exceededTotalSize)
        → refusedAfter runner.total refused (RunnerLoop.controlEffect event) = true) := by
  have defers (error : TaskRunError) {refused' : Bool}
      (kept : refused = true → refused' = true)
      (justified : error = .failed .exceededTotalSize → refused' = true)
      : emission.deferred.or (some error) = some (.failed .exceededTotalSize)
        → refused' = true := by
    intro deferred
    cases earlier : emission.deferred with
    | none =>
        rw [earlier] at deferred
        exact justified (Option.some.inj deferred)
    | some first =>
        rw [earlier] at deferred
        exact kept (excused (earlier.trans deferred))
  cases event with
  | error error =>
      have closed : error = .failed .channelClosed := by
        unfold RunnerLoop.pollControl at polled
        cases control : sources.control with
        | none => simp [control] at polled
        | some signal => cases signal <;> simp_all
      subst closed
      exact ⟨_, rfl, rfl, defers (.failed .channelClosed) id (fun never => by simp at never)⟩
  | ok signal =>
      rcases applyLimit_cases runner signal
        with ⟨total, applies, applied, accepted⟩ | ⟨applies, applied, refuses⟩
      · refine ⟨emission, ?_, rfl, fun deferred => ?_⟩
        · simp only [RunnerLoop.onControl, applies, RunnerLoop.controlEffect, limited, applied]
        · simp only [RunnerLoop.controlEffect, refusedAfter, excused deferred, Bool.true_or]
      · refine ⟨{ emission with
            deferred := emission.deferred.or (some (.failed .exceededTotalSize)) }, ?_, rfl,
          fun _ => ?_⟩
        · simp only [RunnerLoop.onControl, applies, RunnerLoop.controlEffect, limited, applied]
        · simp only [RunnerLoop.controlEffect, refusedAfter, refuses, Bool.or_true]

theorem apply_controlEffect (event : Except TaskRunError ControlEvent)
    : run.apply (RunnerLoop.controlEffect event)
      = .ok { run with
          refused := refusedAfter run.loop.runner.total run.refused
            (RunnerLoop.controlEffect event) } := by
  cases event <;> rfl

/-- A pushed frame moves from the stage to the history. -/
theorem Sound.turn_push {sources : Sources} {state : StreamingState} {emission : Emission}
    {continuation : Continuation} (sound : run.Sound)
    (streams : run.loop.phase = .streaming state)
    (stages : state.staged = some (emission, continuation))
    (vacant : run.data.length < dataFrameChannelCapacity)
    (ready : sources.dataReady = some true)
    (pushes : run.loop.pollStep sources = run.loop.pollPush state emission continuation sources)
    : run.TurnsWell usizeSize sources := by
  obtain ⟨driver, ⟨runner, phase⟩, lifecycle, data, lifecycleGone, dataGone, history, read,
    refused⟩ := run
  subst streams
  obtain ⟨counted, opened, delivers, events, frames, awaiting, input, opens, flow⟩ := sound
  simp only [StreamingState.Flow, stages] at flow
  obtain ⟨empty, excused, frame, framed, nonempty, rest⟩ := flow
  simp only [pushed] at counted opened delivers events frames awaiting input opens rest vacant
  have driven : driver ≠ .awaitingReady := fun waits => by cases awaiting waits
  have after : bytesOf (framesOf (history ++ [.data frame]))
      = bytesOf (framesOf history) ++ frame.data := by
    simp
  let pushedRunner := { runner with downloaded := runner.downloaded + frame.data.length }
  obtain ⟨loop, resumes, resumed⟩
      : ∃ loop,
          RunnerLoop.resumeAfterEmit usizeSize
            ⟨pushedRunner, .streaming { state with staged := none }⟩ continuation
            (.ok emission.deferred)
          = .ok loop
        ∧ RunnerLoop.Resumed pushedRunner (bytesOf (framesOf (history ++ [.data frame]))) read
            refused loop := by
    refine RunnerLoop.resumeAfterEmit_resumed rfl empty ?_ excused
    rw [after]
    cases continuation <;> exact rest
  have applies
      : apply ⟨driver, ⟨runner, .streaming state⟩, lifecycle, data, lifecycleGone, dataGone,
          history, read, refused⟩ (.pushData frame)
        = .ok ⟨driver, ⟨runner, .streaming state⟩, lifecycle, data ++ [frame], lifecycleGone,
            dataGone, history ++ [.data frame], read, refused⟩ := by
    simp only [apply, vacant, if_true]
    rfl
  refine .of_handled
    ⟨pushedRunner, .streaming { state with
      staged := some ({ emission with frame := none, deferred := none }, continuation) }⟩
    (.emitted (.ok emission.deferred)) (.pushData frame) loop (pushes.trans ?_) applies rfl ?_ ?_ ?_
  · simp only [RunnerLoop.pollPush, ready, framed, Checked.expect_some, Checked.ok_bind]
    rfl
  · simp only [RunnerLoop.handleStep, RunnerLoop.onEmitted, RunnerLoop.streaming,
      Checked.ok_bind, Checked.expect_some]
    exact resumes
  · refine .of_resumed resumed input ?_ (opened rfl) (Opened.push opens frame) ?_ ?_ driven
    · simp only [pushed, after, List.length_append, pushedRunner, counted]
    · simpa using events
    · simpa only [framesOf_append, framesOf_data, List.suffix_append_self_iff] using frames
  · cases resumed <;> rfl

/-- An emission takes limits until its frame is pushed, cancelled or refused. -/
theorem Sound.turn_emitting {sources : Sources} {state : StreamingState} {emission : Emission}
    {continuation : Continuation} (sound : run.Sound)
    (streams : run.loop.phase = .streaming state)
    (stages : state.staged = some (emission, continuation)) (allowed : run.Allows sources)
    : run.TurnsWell usizeSize sources := by
  have whole := sound
  obtain ⟨driver, ⟨runner, phase⟩, lifecycle, data, lifecycleGone, dataGone, history, read,
    refused⟩ := run
  subst streams
  obtain ⟨counted, opened, delivers, events, frames, awaiting, input, opens, flow⟩ := sound
  simp only [StreamingState.Flow, stages] at flow
  obtain ⟨empty, excused, frame, framed, nonempty, rest⟩ := flow
  simp only at counted opened delivers events frames awaiting input opens rest
  have driven : driver ≠ .awaitingReady := fun waits => by cases awaiting waits
  have dataOpen : runner.dataOpen = true := opened rfl
  have polls : RunnerLoop.pollStep ⟨runner, .streaming state⟩ sources
      = RunnerLoop.pollEmit ⟨runner, .streaming state⟩ state emission continuation sources := by
    simp only [RunnerLoop.pollStep, stages]
  have stops (error : TaskRunError)
      (justified : (RunnerLoop.stoppedReason (.error error)).Justified runner refused)
      (polled : RunnerLoop.pollEmit ⟨runner, .streaming state⟩ state emission continuation sources
        = .ok ⟨⟨runner, .streaming state⟩, some (.emitted (.error error)), .none⟩)
      : TurnsWell usizeSize ⟨driver, ⟨runner, .streaming state⟩, lifecycle, data, lifecycleGone,
          dataGone, history, read, refused⟩ sources := by
    refine .of_handled _ _ _ (.stopping runner (.error error)) (polls.trans polled) rfl rfl ?_ ?_
      rfl
    · simp only [RunnerLoop.handleStep, RunnerLoop.onEmitted, RunnerLoop.streaming,
        Checked.ok_bind, stages, Checked.expect_some, RunnerLoop.resumeAfterEmit,
        RunnerLoop.beginStop_streaming]
      rfl
    · exact .of_resumed (.stopping delivers justified) input counted dataOpen opens events frames
        driven
  by_cases cancelled : sources.cancelled = true
  · refine stops .cancelled trivial ?_
    simp [RunnerLoop.pollEmit, dataOpen, cancelled]
  cases signalled : (if emission.controlOpen then RunnerLoop.pollControl sources else none) with
  | some event =>
      have polled : RunnerLoop.pollControl sources = some event := by
        split at signalled
        · exact signalled
        · cases signalled
      obtain ⟨emission', controlled, kept, stillExcused⟩ := onControl_eq runner polled excused
      refine .of_pending
        ⟨{ runner with total := limited runner.total (RunnerLoop.controlEffect event) },
          .streaming { state with staged := some (emission', continuation) }⟩
        _ (polls.trans ?_) (apply_controlEffect event) ?_ rfl
      · simp only [RunnerLoop.pollEmit, dataOpen, cancelled, signalled, controlled]
        rfl
      · refine .of_resumed (.streaming ?_) input counted dataOpen opens events frames driven
        simp only [StreamingState.Flow]
        refine ⟨empty, stillExcused, frame, kept.trans framed, nonempty, ?_⟩
        cases continuation <;> exact rest
  | none =>
      have pushes
          : RunnerLoop.pollEmit ⟨runner, .streaming state⟩ state emission continuation sources
            = RunnerLoop.pollPush ⟨runner, .streaming state⟩ state emission continuation
                sources := by
        simp only [RunnerLoop.pollEmit, dataOpen, cancelled, signalled]
        rfl
      cases ready : sources.dataReady with
      | none =>
          refine .of_pending ⟨runner, .streaming state⟩ .none (polls.trans (pushes.trans ?_)) rfl
            whole rfl
          simp only [RunnerLoop.pollPush, ready]
      | some isOpen =>
          cases isOpen with
          | false =>
              refine stops (.failed .channelClosed) trivial (pushes.trans ?_)
              simp only [RunnerLoop.pollPush, ready]
          | true =>
              exact whole.turn_push rfl stages (allowed.2.2.1 ready).2 ready (polls.trans pushes)

/-- A drain ends with its result only once the ring is empty or its consumer gone. -/
theorem Sound.turn_draining {sources : Sources} {result : RunResult} (sound : run.Sound)
    (drains : run.loop.phase = .draining result) (allowed : run.Allows sources)
    : run.TurnsWell usizeSize sources := by
  obtain ⟨driver, ⟨runner, phase⟩, lifecycle, data, lifecycleGone, dataGone, history, read,
    refused⟩ := run
  subst drains
  have whole := sound
  obtain ⟨counted, opened, delivers, events, frames, awaiting, begun, justified⟩ := sound
  simp only at counted opened delivers events frames awaiting begun justified
  have driven : driver ≠ .awaitingReady := fun waits => by cases awaiting waits
  have polls (outcome : Option DataDrainOutcome)
      (seen : RunnerLoop.pollDrain ⟨runner, .draining result⟩ sources = outcome)
      : RunnerLoop.pollStep ⟨runner, .draining result⟩ sources
        = .ok ⟨⟨runner, .draining result⟩, outcome.map .drained, .none⟩ := by
    simp only [RunnerLoop.pollStep, seen]
  have ends (outcome : DataDrainOutcome) (reason : StoppedReason)
      (seen : RunnerLoop.pollDrain ⟨runner, .draining result⟩ sources = some outcome)
      (finished
        : RunnerLoop.finishDrain ⟨runner, .draining result⟩ outcome
          = .ok ⟨runner, .publishingStopped (some (.stopped reason))⟩)
      (justified : reason.Justified runner refused)
      (drained : reason.followsDrain = true → data = [] ∨ dataGone = true)
      : TurnsWell usizeSize ⟨driver, ⟨runner, .draining result⟩, lifecycle, data, lifecycleGone,
          dataGone, history, read, refused⟩ sources := by
    refine .of_handled _ (.drained outcome) .none _ (polls _ seen) rfl rfl finished ?_ rfl
    exact ⟨counted, fun _ => opened rfl, delivers, events, frames,
      fun waits => absurd waits driven, begun, reason, rfl, justified, drained⟩
  cases seen : RunnerLoop.pollDrain ⟨runner, .draining result⟩ sources with
  | none => exact .of_pending _ _ (polls _ seen) rfl whole rfl
  | some outcome =>
      cases outcome with
      | cancelled => exact ends _ (.failed .cancelled) seen rfl trivial (fun never => by cases never)
      | timedOut => exact ends _ (.failed .timeout) seen rfl trivial (fun never => by cases never)
      | drained =>
          refine ends _ (RunnerLoop.stoppedReason result) seen rfl justified (fun _ => ?_)
          exact allowed.2.2.2.2 (RunnerLoop.drained_of_pollDrain (opened rfl) seen)

/-- The stop is published with room, or missed by a consumer that is gone. -/
theorem Sound.turn_publishingStopped {sources : Sources} {event : Option LifecycleEvent}
    (sound : run.Sound) (publishing : run.loop.phase = .publishingStopped event)
    (allowed : run.Allows sources)
    : run.TurnsWell usizeSize sources := by
  obtain ⟨driver, ⟨runner, phase⟩, lifecycle, data, lifecycleGone, dataGone, history, read,
    refused⟩ := run
  subst publishing
  have whole := sound
  obtain ⟨counted, opened, delivers, events, frames, awaiting, begun, reason, rfl, outcome⟩ := sound
  simp only at counted opened delivers events frames awaiting begun outcome
  have driven : driver ≠ .awaitingReady := fun waits => by cases awaiting waits
  cases ready : sources.lifecycleReady with
  | none =>
      refine .of_pending ⟨runner, .publishingStopped (some (.stopped reason))⟩ .none ?_ rfl whole
        rfl
      simp only [RunnerLoop.pollStep, ready]
  | some isOpen =>
      have polls
          : RunnerLoop.pollStep ⟨runner, .publishingStopped (some (.stopped reason))⟩ sources
            = .ok ⟨⟨runner, .publishingStopped none⟩, some .stoppedPublished,
                if isOpen then .pushLifecycle (.stopped reason) else .none⟩ := by
        simp only [RunnerLoop.pollStep, ready, Checked.expect_some, Checked.ok_bind]
        rfl
      cases isOpen with
      | false =>
          refine .of_handled _ _ _ ⟨{ runner with dataOpen := false }, .stopped⟩ polls rfl rfl rfl
            ?_ rfl
          exact ⟨counted, fun running => (by cases running), delivers, events, frames,
            fun waits => absurd waits driven, Or.inl ⟨begun, allowed.2.1 ready⟩⟩
      | true =>
          have vacant : lifecycle.length < lifecycleChannelCapacity := (allowed.1 ready).2
          have applies
              : apply ⟨driver, ⟨runner, .publishingStopped (some (.stopped reason))⟩, lifecycle,
                  data, lifecycleGone, dataGone, history, read, refused⟩
                  (.pushLifecycle (.stopped reason))
                = .ok ⟨driver, ⟨runner, .publishingStopped (some (.stopped reason))⟩,
                    lifecycle ++ [.stopped reason], data, lifecycleGone, dataGone,
                    history ++ [.lifecycle (.stopped reason)], read, refused⟩ := by
            simp only [apply, vacant, if_true]
            rfl
          refine .of_handled _ _ _ ⟨{ runner with dataOpen := false }, .stopped⟩ polls applies rfl
            rfl ?_ rfl
          refine ⟨?_, fun running => (by cases running), ?_, ?_, ?_, fun waits => absurd waits driven,
            Or.inr ⟨history, reason, rfl, begun, outcome.justified.of_same rfl rfl,
              outcome.drained⟩⟩
          · simpa [pushed] using counted
          · simpa [pushed] using delivers
          · simpa only [eventsOf_append, eventsOf_lifecycle, List.suffix_append_self_iff]
              using events
          · simpa using frames

/-- Every turn of a sound run succeeds and keeps it sound. -/
theorem Sound.turn {sources : Sources} (sound : run.Sound) (usizeSize : Nat)
    (driven : run.driver ≠ .awaitingReady) (running : run.loop.isStopped = false) (allowed : run.Allows sources)
    : run.TurnsWell usizeSize sources := by
  cases phase : run.loop.phase with
  | connecting => exact sound.turn_connecting phase
  | publishingStarted => exact sound.turn_publishingStarted phase driven allowed
  | streaming state =>
      cases staged : state.staged with
      | none => exact sound.turn_reading phase staged
      | some emitting => exact sound.turn_emitting phase staged allowed
  | draining result => exact sound.turn_draining phase allowed
  | publishingStopped event => exact sound.turn_publishingStopped phase allowed
  | stopped =>
      rw [RunnerLoop.isStopped, phase] at running
      cases running

end RunnerRun

end BoltLoad
