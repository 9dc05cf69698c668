import BoltLoad.Runner.Run

/-! The errors a runner reports. `NoProgress` and `RetryLimitExceeded` are verdicts over a whole
task: no run of a runner ever ends with one.
-/

namespace BoltLoad

/-- An error a runner may end with. -/
def TaskError.fromRunner : TaskError → Bool
  | noProgress _ | retryLimitExceeded _ _ => false
  | _ => true

def TaskRunError.fromRunner : TaskRunError → Bool
  | cancelled => true
  | failed error => error.fromRunner

def LifecycleEvent.fromRunner : LifecycleEvent → Bool
  | stopped (.failed error) => error.fromRunner
  | _ => true

/-- What a runner may end with, or a part of it. -/
def Reported {Result : Type} (result : Except TaskRunError Result) : Prop :=
  ∀ error, result = .error error → error.fromRunner = true

theorem reported_ok {Result : Type} (value : Result)
    : Reported (.ok value : Except TaskRunError Result) :=
  fun error never => by cases never

theorem reported_error {Result : Type} {error : TaskRunError} (holds : error.fromRunner = true)
    : Reported (.error error : Except TaskRunError Result) := by
  intro other same
  cases same
  exact holds

/-- Every error that is waiting in a phase. -/
def Phase.Reports : Phase → Prop
  | streaming state =>
    ∀ emission continuation error,
      state.staged = some (emission, continuation)
      → emission.deferred = some error
      → error.fromRunner = true
  | draining result => Reported result
  | publishingStopped event => ∀ published ∈ event, published.fromRunner = true
  | _ => True

/-- Every error a selected event carries. -/
def Step.Reports : Step → Prop
  | started result => Reported result
  | control event => Reported event
  | emitted (.ok deferred) => ∀ error ∈ deferred, error.fromRunner = true
  | emitted (.error error) => error.fromRunner = true
  | _ => True

namespace RunnerLoop

variable {usizeSize : Nat} {loop after : RunnerLoop} {sources : Sources}

-----------------------------------------------------------------------------------------
-- Polling
-----------------------------------------------------------------------------------------

theorem pollControl_reported {event : Except TaskRunError ControlEvent}
    (polls : pollControl sources = some event)
    : Reported event := by
  obtain ⟨signal, -, same⟩ := Option.map_eq_some_iff.mp polls
  subst same
  cases signal with
  | none => exact reported_error rfl
  | some signal => exact reported_ok signal

theorem applyLimit_reported (runner : TaskRunner) (signal : ControlEvent)
    : Reported (runner.applyLimit signal).1 := by
  unfold TaskRunner.applyLimit TaskRunner.applyControl
  cases signal with
  | limitTotal newTotal =>
      cases runner.total with
      | none => exact reported_ok ()
      | some current =>
          by_cases lowers : current > newTotal
          · simp only [lowers, if_true]
            exact reported_ok ()
          · simp only [lowers, if_false]
            exact reported_error rfl

theorem onControl_reports {runner : TaskRunner} {emission : Emission}
    {event : Except TaskRunError ControlEvent} (reported : Reported event)
    (before : ∀ error, emission.deferred = some error → error.fromRunner = true)
    : ∀ error, (onControl runner emission event).2.deferred = some error
      → error.fromRunner = true := by
  have defers {found : TaskRunError} (holds : found.fromRunner = true)
      : ∀ error, emission.deferred.or (some found) = some error → error.fromRunner = true := by
    intro error same
    cases deferred : emission.deferred with
    | none =>
        rw [deferred] at same
        cases same
        exact holds
    | some first =>
        rw [deferred] at same
        cases same
        exact before _ deferred
  unfold onControl
  split
  · rename_i signal
    have applied := applyLimit_reported runner signal
    split
    · exact before
    · rename_i error _ same
      rw [same] at applied
      exact defers (applied error rfl)
  · rename_i error
    exact defers (reported error rfl)

/-- What a poll leaves waiting, selects and pushes. -/
structure PollsReported (polled : Polled) : Prop where
  phase : polled.loop.phase.Reports
  step : ∀ step ∈ polled.step, step.Reports
  effect : ∀ event, polled.effect = .pushLifecycle event → event.fromRunner = true

/-- A poll that keeps the loop and pushes no lifecycle event. -/
theorem pollsReported_same {step : Option Step} {effect : Effect} (reports : loop.phase.Reports)
    (carries : ∀ selected ∈ step, selected.Reports)
    (silent : ∀ event, effect ≠ .pushLifecycle event)
    : PollsReported ⟨loop, step, effect⟩ :=
  ⟨reports, carries, fun event same => absurd same (silent event)⟩

theorem controlEffect_silent (event : Except TaskRunError ControlEvent)
    : ∀ published, controlEffect event ≠ .pushLifecycle published := by
  intro published same
  cases event <;> cases same

theorem readEffect_silent (item : Option (Except AdapterError Bytes))
    : ∀ published, readEffect item ≠ .pushLifecycle published := by
  intro published same
  unfold readEffect at same
  split at same <;> cases same

/-- One step is selected, which carries its errors. -/
theorem selected_reports {step : Step} (carries : step.Reports)
    : ∀ selected ∈ some step, selected.Reports := by
  intro selected member
  cases member
  exact carries

theorem pollPush_reported {state : StreamingState} {emission : Emission}
    {continuation : Continuation} {polled : Polled} (reports : loop.phase.Reports)
    (deferred : ∀ error, emission.deferred = some error → error.fromRunner = true)
    (polls : loop.pollPush state emission continuation sources = .ok polled)
    : PollsReported polled := by
  unfold pollPush at polls
  split at polls
  · cases polls
    exact pollsReported_same reports (fun _ never => by cases never) (fun _ => nofun)
  · cases polls
    exact pollsReported_same reports (selected_reports rfl) (fun _ => nofun)
  · obtain ⟨frame, -, same⟩ := Checked.bind_eq_ok.mp polls
    cases same
    refine pollsReported_same ?_ (selected_reports deferred) (fun _ => nofun)
    intro other _ error staged found
    cases staged
    cases found

theorem pollEmit_reported {state : StreamingState} {emission : Emission}
    {continuation : Continuation} {polled : Polled} (reports : loop.phase.Reports)
    (deferred : ∀ error, emission.deferred = some error → error.fromRunner = true)
    (polls : loop.pollEmit state emission continuation sources = .ok polled)
    : PollsReported polled := by
  unfold pollEmit at polls
  split at polls
  · cases polls
    exact pollsReported_same reports (selected_reports rfl) (fun _ => nofun)
  split at polls
  · cases polls
    exact pollsReported_same reports (selected_reports rfl) (fun _ => nofun)
  split at polls
  · rename_i event control
    split at control
    · cases polls
      refine pollsReported_same ?_ (fun _ never => by cases never) (controlEffect_silent event)
      intro other _ error staged found
      cases staged
      exact onControl_reports (pollControl_reported control) deferred error found
    · cases control
  · exact pollPush_reported reports deferred polls

/-- A poll passes on what was waiting, and errors of its own. -/
theorem pollStep_reported {polled : Polled} (reports : loop.phase.Reports)
    (polls : loop.pollStep sources = .ok polled)
    : PollsReported polled := by
  unfold pollStep at polls
  split at polls
  · split at polls
    · cases polls
      exact pollsReported_same reports (selected_reports trivial) (fun _ => nofun)
    split at polls
    · rename_i event control
      cases polls
      exact pollsReported_same reports (selected_reports (pollControl_reported control))
        (controlEffect_silent event)
    split at polls
    · cases polls
      exact pollsReported_same reports (selected_reports trivial) (fun _ => nofun)
    split at polls
    · cases polls
      refine pollsReported_same reports (fun selected member => ?_) (fun _ => nofun)
      obtain ⟨result, -, same⟩ := Option.map_eq_some_iff.mp member
      subst same
      trivial
    · cases polls
  · split at polls
    · cases polls
      exact pollsReported_same reports (fun _ never => by cases never) (fun _ => nofun)
    · cases polls
      refine ⟨reports, selected_reports (reported_ok ()), fun event same => ?_⟩
      cases same
      rfl
    · cases polls
      exact pollsReported_same reports (selected_reports (reported_error rfl)) (fun _ => nofun)
  · rename_i state phase
    split at polls
    · rename_i emission continuation staged
      refine pollEmit_reported reports (fun error found => ?_) polls
      rw [phase] at reports
      exact reports emission continuation error staged found
    split at polls
    · cases polls
      exact pollsReported_same reports (selected_reports trivial) (fun _ => nofun)
    split at polls
    · rename_i event control
      cases polls
      exact pollsReported_same reports (selected_reports (pollControl_reported control))
        (controlEffect_silent event)
    split at polls
    · cases polls
      exact pollsReported_same reports (selected_reports trivial) (fun _ => nofun)
    split at polls
    · split at polls
      · rename_i item _
        cases polls
        exact pollsReported_same reports (selected_reports trivial) (readEffect_silent item)
      · cases polls
        exact pollsReported_same reports (fun _ never => by cases never) (fun _ => nofun)
    · cases polls
  · cases polls
    refine pollsReported_same reports (fun selected member => ?_) (fun _ => nofun)
    obtain ⟨outcome, -, same⟩ := Option.map_eq_some_iff.mp member
    subst same
    trivial
  · rename_i event phase
    rw [phase] at reports
    split at polls
    · cases polls
      exact pollsReported_same (phase ▸ reports) (fun _ never => by cases never) (fun _ => nofun)
    · obtain ⟨published, expected, same⟩ := Checked.bind_eq_ok.mp polls
      cases same
      have holds : published.fromRunner = true := by
        cases event with
        | none => cases expected
        | some event =>
            cases expected
            exact reports _ rfl
      refine ⟨(fun published never => by cases never), selected_reports trivial,
        fun event same => ?_⟩
      split at same
      · cases same
        exact holds
      · cases same
  · cases polls

-----------------------------------------------------------------------------------------
-- Handling
-----------------------------------------------------------------------------------------

theorem publishStopped_reports {result : RunResult} (reported : Reported result)
    : (loop.publishStopped result).phase.Reports := by
  intro published member
  cases member
  cases result with
  | ok done => rfl
  | error error =>
      have holds := reported error rfl
      cases error with
      | cancelled => rfl
      | failed error => exact holds

theorem beginStop_reports {result : RunResult} (reported : Reported result)
    : (loop.beginStop result).phase.Reports := by
  unfold beginStop
  dsimp only
  split
  · exact reported
  · exact publishStopped_reports reported

theorem validateSize_reported (runner : TaskRunner) : Reported runner.validateSize := by
  unfold TaskRunner.validateSize
  split
  · split
    · exact reported_ok ()
    · split <;> exact reported_error rfl
  · split
    · exact reported_ok ()
    · exact reported_error rfl

theorem flush_reports {continuation : Continuation}
    (flushed : loop.flush continuation = .ok after)
    : after.phase.Reports := by
  obtain ⟨state, -, rest⟩ := Checked.bind_eq_ok.mp flushed
  split at rest
  · cases continuation with
    | streamError source =>
        cases rest
        exact beginStop_reports (reported_error rfl)
    | validate =>
        cases rest
        exact beginStop_reports (validateSize_reported loop.runner)
    | idleTimeout =>
        cases rest
        exact beginStop_reports (reported_error rfl)
    | resumeItem => cases rest
  · cases rest
    intro emission _ error staged found
    cases staged
    cases found

/-- A streaming phase with nothing staged. -/
theorem unstaged_reports {state : StreamingState} (nothing : state.staged = none)
    : (Phase.streaming state).Reports := by
  intro emission continuation error staged _
  cases nothing.symm.trans staged

theorem streaming_phase {state : StreamingState} (streaming : loop.streaming = .ok state)
    : loop.phase = .streaming state := by
  unfold RunnerLoop.streaming at streaming
  split at streaming
  · rename_i found
    cases streaming
    exact found
  · cases streaming

theorem bufferItem_reports (reports : loop.phase.Reports)
    (buffered : loop.bufferItem usizeSize = .ok after)
    : after.phase.Reports := by
  obtain ⟨state, streaming, rest⟩ := Checked.bind_eq_ok.mp buffered
  rw [streaming_phase streaming] at reports
  dsimp only at rest
  split at rest
  · exact flush_reports rest
  obtain ⟨item, -, rest⟩ := Checked.bind_eq_ok.mp rest
  split at rest
  · cases rest
    exact reports
  obtain ⟨remaining, -, rest⟩ := Checked.bind_eq_ok.mp rest
  split at rest
  · split at rest
    · exact flush_reports rest
    · cases rest
      exact reports
  · obtain ⟨take, -, rest⟩ := Checked.bind_eq_ok.mp rest
    exact flush_reports rest

theorem resumeAfterEmit_reports {continuation : Continuation} {result : EmitResult}
    (reports : loop.phase.Reports) (carries : (Step.emitted result).Reports)
    (resumed : loop.resumeAfterEmit usizeSize continuation result = .ok after)
    : after.phase.Reports := by
  unfold resumeAfterEmit at resumed
  split at resumed
  · cases resumed
    exact beginStop_reports (reported_error carries)
  · split at resumed
    · cases resumed
      exact beginStop_reports (reported_error rfl)
    · cases resumed
      exact beginStop_reports (reported_error (carries _ rfl))
    · obtain ⟨state, -, rest⟩ := Checked.bind_eq_ok.mp resumed
      exact bufferItem_reports reports rest
    · cases resumed
      exact beginStop_reports (validateSize_reported loop.runner)
    · cases resumed
      exact beginStop_reports (reported_error rfl)

/-- Handling an event passes on the errors it carries, and errors of its own. -/
theorem handleStep_reports {step : Step} (reports : loop.phase.Reports)
    (carries : step.Reports) (handled : loop.handleStep usizeSize step = .ok after)
    : after.phase.Reports := by
  cases step with
  | connected result =>
      cases result with
      | ok done =>
          cases handled
          trivial
      | error source =>
          cases handled
          exact beginStop_reports (reported_error rfl)
  | connectTimeout =>
      cases handled
      exact beginStop_reports (reported_error rfl)
  | started result =>
      cases result with
      | ok done =>
          cases handled
          exact unstaged_reports rfl
      | error error =>
          cases handled
          exact beginStop_reports (reported_error (carries error rfl))
  | cancelled =>
      cases handled
      exact beginStop_reports (reported_error rfl)
  | control event =>
      cases event with
      | ok signal =>
          have applied := applyLimit_reported loop.runner signal
          simp only [handleStep] at handled
          split at handled
          · cases handled
            exact reports
          · rename_i error _ same
            rw [same] at applied
            cases handled
            exact beginStop_reports (reported_error (applied error rfl))
      | error error =>
          cases handled
          exact beginStop_reports (reported_error (carries error rfl))
  | idleTimeout => exact flush_reports handled
  | download item =>
      cases item with
      | none => exact flush_reports handled
      | some result =>
          cases result with
          | error source => exact flush_reports handled
          | ok item =>
              obtain ⟨state, streaming, rest⟩ := Checked.bind_eq_ok.mp handled
              rw [streaming_phase streaming] at reports
              exact bufferItem_reports reports rest
  | emitted result =>
      obtain ⟨state, -, rest⟩ := Checked.bind_eq_ok.mp handled
      obtain ⟨⟨emission, continuation⟩, -, resumed⟩ := Checked.bind_eq_ok.mp rest
      exact resumeAfterEmit_reports (unstaged_reports rfl) carries resumed
  | drained outcome =>
      simp only [handleStep, finishDrain] at handled
      split at handled
      · rename_i result phase
        rw [phase] at reports
        cases handled
        cases outcome with
        | drained => exact publishStopped_reports reports
        | cancelled => exact publishStopped_reports (reported_error rfl)
        | timedOut => exact publishStopped_reports (reported_error rfl)
      · cases handled
  | stoppedPublished =>
      cases handled
      trivial

end RunnerLoop

-----------------------------------------------------------------------------------------
-- A run
-----------------------------------------------------------------------------------------

namespace RunnerRun

/-- Every error that waits in the loop or in the lifecycle ring. -/
structure Reports (run : RunnerRun) : Prop where
  phase : run.loop.phase.Reports
  lifecycle : ∀ event ∈ run.lifecycle, event.fromRunner = true

theorem Reports.new (driver : Driver) (total : Option Nat) (input : RunnerInput)
    : (new driver total input).Reports where
  phase := by
    unfold RunnerRun.new RunnerLoop.new
    cases input <;> trivial
  lifecycle _ never := by cases never

/-- An effect pushes at most the event it carries. -/
theorem apply_lifecycle {run after : RunnerRun} {effect : Effect}
    (applied : run.apply effect = .ok after)
    : ∀ event ∈ after.lifecycle, event ∈ run.lifecycle ∨ effect = .pushLifecycle event := by
  intro event member
  cases effect with
  | none =>
      cases applied
      exact Or.inl member
  | takeControl signal =>
      cases applied
      exact Or.inl member
  | readStream item =>
      cases applied
      exact Or.inl member
  | pushLifecycle pushed =>
      simp only [apply] at applied
      split at applied
      · cases applied
        rcases List.mem_append.mp member with earlier | last
        · exact Or.inl earlier
        · cases List.mem_singleton.mp last
          exact Or.inr rfl
      · cases applied
  | pushData frame =>
      simp only [apply] at applied
      split at applied
      · cases applied
        exact Or.inl member
      · cases applied

/-- A turn keeps the errors that wait those of a runner. -/
theorem Reports.turn {usizeSize : Nat} {run after : RunnerRun} {sources : Sources}
    (reports : run.Reports) (turned : run.turn usizeSize sources = .ok after)
    : after.Reports := by
  obtain ⟨polled, polls, rest⟩ := Checked.bind_eq_ok.mp turned
  obtain ⟨applied, applies, rest⟩ := Checked.bind_eq_ok.mp rest
  have reported := RunnerLoop.pollStep_reported reports.phase polls
  have lifecycle : ∀ event ∈ applied.lifecycle, event.fromRunner = true := by
    intro event member
    rcases apply_lifecycle applies event member with earlier | pushed
    · exact reports.lifecycle event earlier
    · exact reported.effect event pushed
  cases selected : polled.step with
  | none =>
      simp only [selected] at rest
      cases rest
      exact ⟨reported.phase, lifecycle⟩
  | some step =>
      simp only [selected] at rest
      split at rest
      · cases rest
        exact ⟨reported.phase, lifecycle⟩
      · obtain ⟨loop, handled, same⟩ := Checked.bind_eq_ok.mp rest
        cases same
        exact ⟨RunnerLoop.handleStep_reports reported.phase (reported.step step selected) handled,
          lifecycle⟩

end RunnerRun

end BoltLoad
