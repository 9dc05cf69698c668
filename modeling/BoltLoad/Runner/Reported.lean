import BoltLoad.Runner.Errors
import BoltLoad.Runner.Promises

/-! What a whole run reports. Whatever its loop promises is all it reports, so a runner whose
total fits a `usize` reports it as missed only if its upstream ended early, and an undisturbed
one reports only that it finished.
-/

namespace BoltLoad

-----------------------------------------------------------------------------------------
-- What a run reports
-----------------------------------------------------------------------------------------

namespace RunnerLoop

variable {loop : RunnerLoop} {sources : Sources} {polled : Polled}

/-- A stop that a poll publishes was waiting in its phase. -/
theorem pollStep_publishes {reason : StoppedReason} (polls : loop.pollStep sources = .ok polled)
    (publishes : polled.effect = .pushLifecycle (.stopped reason))
    : loop.phase = .publishingStopped (some (.stopped reason)) := by
  cases phase : loop.phase with
  | connecting =>
      unfold pollStep at polls
      rw [phase] at polls
      dsimp only at polls
      split at polls
      · cases polls
        cases publishes
      split at polls
      · rename_i event _
        cases polls
        exact absurd publishes (controlEffect_silent event _)
      split at polls
      · cases polls
        cases publishes
      split at polls
      · cases polls
        cases publishes
      · cases polls
  | publishingStarted =>
      unfold pollStep at polls
      rw [phase] at polls
      dsimp only at polls
      split at polls <;> cases polls <;> cases publishes
  | streaming state =>
      cases pollStep_watched phase polls with
      | signalled idle event => exact absurd publishes (controlEffect_silent event _)
      | downloaded idle item => exact absurd publishes (readEffect_silent item _)
      | controlled staged event => exact absurd publishes (controlEffect_silent event _)
      | pending => cases publishes
      | cancelled idle => cases publishes
      | idleTimeout idle => cases publishes
      | failed staged error => cases publishes
      | pushed staged framed => cases publishes
  | draining result =>
      unfold pollStep at polls
      rw [phase] at polls
      cases polls
      cases publishes
  | publishingStopped event =>
      unfold pollStep at polls
      rw [phase] at polls
      dsimp only at polls
      split at polls
      · cases polls
        cases publishes
      · rename_i isOpen _
        obtain ⟨published, expected, same⟩ := Checked.bind_eq_ok.mp polls
        cases same
        cases isOpen with
        | false => cases publishes
        | true =>
            cases publishes
            cases event with
            | none => cases expected
            | some event =>
                cases expected
                rfl
  | stopped =>
      unfold pollStep at polls
      rw [phase] at polls
      cases polls

end RunnerLoop

namespace RunnerRun

variable {usizeSize : Nat} {allowed : RunResult → Prop} {run after : RunnerRun}
  {sources : Sources}

/-- Whatever a runner reported, or is going to report, is allowed. -/
structure Promises (allowed : RunResult → Prop) (run : RunnerRun) : Prop where
  loop : run.loop.Promises allowed
  reported
    : ∀ reason,
        .lifecycle (.stopped reason) ∈ run.history →
        ∃ result, allowed result ∧ reason = RunnerLoop.stoppedReason result

/-- A turn reports at most what the loop promised. -/
theorem Promises.turn (promises : run.Promises allowed)
    (turned : run.turn usizeSize sources = .ok after) (keeps : after.loop.Promises allowed)
    : after.Promises allowed := by
  refine ⟨keeps, fun reason member => ?_⟩
  obtain ⟨polled, polls, applied, _⟩ := turn_cases turned
  rw [applied.history] at member
  rcases List.mem_append.mp member with earlier | now
  · exact promises.reported reason earlier
  · have publishes : polled.effect = .pushLifecycle (.stopped reason) := by
      unfold pushedBy at now
      split at now
      · rename_i event same
        cases List.mem_singleton.mp now
        exact same
      · cases List.mem_singleton.mp now
      · cases now
    have promised := promises.loop
    rw [RunnerLoop.Promises, RunnerLoop.pollStep_publishes polls publishes] at promised
    exact promised reason rfl

/-- Every event keeps the promises of a runner whose total fits a `usize`, unless its upstream
ends early.
-/
theorem Promises.next {event : RunnerEvent} {total : Nat} (promises : run.Promises allowed)
    (sound : run.Sound) (checks : RunnerLoop.ChecksAllowed allowed)
    (known : run.loop.runner.total = some total) (fits : total < usizeSize)
    (interrupts
      : ∀ sources result,
          event = .turn sources → Interrupted sources result → allowed result)
    (fed : ∀ sources, event = .turn sources → ¬run.EndsEarly sources)
    (step : (machine usizeSize).Step run event after)
    : after.Promises allowed := by
  have done := step.next
  cases event with
  | turn sources =>
      refine promises.turn done ?_
      have dataOpen := sound.opened step.enabled.2.1
      by_cases streams : ∃ state, run.loop.phase = .streaming state
      · obtain ⟨state, streams⟩ := streams
        exact streaming_promises sound streams promises.loop checks known fits
          (fun result => interrupts sources result rfl) (fed sources rfl) done
      · exact unstreamed_promises (fun state streaming => streams ⟨state, streaming⟩) dataOpen
          promises.loop (fun result => interrupts sources result rfl) done
  | ready =>
      obtain ⟨resumed, resumes, _, same⟩ := sound.resume usizeSize step.enabled
      cases resumes.symm.trans done
      subst same
      exact ⟨.unstaged rfl, promises.reported⟩
  | takeLifecycle =>
      cases done
      exact ⟨promises.loop, promises.reported⟩
  | takeData =>
      cases done
      exact ⟨promises.loop, promises.reported⟩
  | dropLifecycle =>
      cases done
      exact ⟨promises.loop, promises.reported⟩
  | dropData =>
      cases done
      exact ⟨promises.loop, promises.reported⟩

-----------------------------------------------------------------------------------------
-- Whole runs
-----------------------------------------------------------------------------------------

/-- The upstream does not end early in this event. -/
def Fed (run : RunnerRun) : RunnerEvent → Prop
  | .turn sources => ¬run.EndsEarly sources
  | _ => True

/-- The upstream does not end early in this event, and nothing else disturbs the runner. -/
def Undisturbed (run : RunnerRun) : RunnerEvent → Prop
  | .turn sources => ¬run.EndsEarly sources ∧ ∀ result, ¬Interrupted sources result
  | .dropLifecycle => False
  | .dropData => False
  | _ => True

variable {start : RunnerRun} {total : Nat} {condition : RunnerRun → RunnerEvent → Prop}

/-- The runs of one runner under a condition on its events. -/
abbrev runsUnder (usizeSize : Nat) (start : RunnerRun) (condition : RunnerRun → RunnerEvent → Prop)
    : Machine RunnerRun RunnerEvent Panic :=
  ((machine usizeSize).startingAt start).restrict condition

/-- A run of a fed runner whose total fits a `usize` keeps the promises its events allow. -/
theorem promises_reachable (started : (machine usizeSize).Initial start)
    (known : start.loop.runner.total = some total) (wide : bufferSize < usizeSize - 1)
    (fits : total < usizeSize) (checks : RunnerLoop.ChecksAllowed allowed)
    (interrupts
      : ∀ run sources result,
          condition run (.turn sources) → Interrupted sources result → allowed result)
    (fed : ∀ run sources, condition run (.turn sources) → ¬run.EndsEarly sources)
    (reached : (runsUnder usizeSize start condition).Reachable run)
    : run.Promises allowed := by
  refine reached.invariant (fun state same => ?_) (fun before event after reached ih step => ?_)
  · subst same
    obtain ⟨driver, total, input, _, _, rfl⟩ := started
    refine ⟨?_, fun reason never => by cases never⟩
    cases input <;> trivial
  · have reached := reached.of_restrict
    have narrow : ∀ limit, start.loop.runner.total = some limit → limit < usizeSize := by
      intro limit same
      cases same.symm.trans known
      exact fits
    have metered := metered_reachable started wide narrow reached
    obtain ⟨lower, isLower, le⟩ := metered.loop.budget.lowered total known
    refine ih.next (reachable_sound (.of_startingAt (.initial started) reached)) checks isLower
      (le.trans_lt fits) (fun sources result same => ?_) (fun sources same => ?_)
      ⟨step.enabled.1, step.next⟩
    · exact interrupts before sources result (same ▸ step.enabled.2)
    · exact fed before sources (same ▸ step.enabled.2)

/-- `SmallerThanTotalSize` is only reported after the upstream ended early. -/
theorem fed_reachable (started : (machine usizeSize).Initial start)
    (known : start.loop.runner.total = some total) (wide : bufferSize < usizeSize - 1)
    (fits : total < usizeSize) (reached : (runsUnder usizeSize start Fed).Reachable run)
    : .lifecycle (.stopped (.failed .smallerThanTotalSize)) ∉ run.history := by
  have checks
      : RunnerLoop.ChecksAllowed (fun result => result ≠ .error (.failed .smallerThanTotalSize))
      := by
    intro runner total known reached
    unfold TaskRunner.validateSize
    simp only [known]
    split
    · exact fun never => by cases never
    · rw [if_neg (Nat.not_lt.mpr reached)]
      exact fun never => by cases never
  have promises := promises_reachable started known wide fits checks
    (fun _ _ result _ interrupted => by cases interrupted <;> exact fun never => by cases never)
    (fun _ _ fed => fed) reached
  intro member
  obtain ⟨result, allows, same⟩ := promises.reported _ member
  match result with
  | .ok () => cases same
  | .error .cancelled => cases same
  | .error (.failed error) =>
      cases same
      exact allows rfl

-----------------------------------------------------------------------------------------
-- Undisturbed runs
-----------------------------------------------------------------------------------------

/-- No limit was taken, and the consumer is still there. -/
structure Clear (total : Nat) (run : RunnerRun) : Prop where
  total : run.loop.runner.total = some total
  refused : run.refused = false
  lifecycleGone : run.lifecycleGone = false
  dataGone : run.dataGone = false

/-- Only a limit changes the total, or is refused. -/
theorem unlimited {polled : Polled} (polls : run.loop.pollStep sources = .ok polled)
    (undisturbed : ∀ result, ¬Interrupted sources result) (total : Option Nat)
    : limited total polled.effect = total ∧ refusedBy total polled.effect = false := by
  have effect := RunnerLoop.pollStep_from polls
  cases same : polled.effect with
  | takeControl signal =>
      rw [same] at effect
      exact absurd (.refused effect) (undisturbed _)
  | none => exact ⟨rfl, rfl⟩
  | readStream item => exact ⟨rfl, rfl⟩
  | pushLifecycle event => exact ⟨rfl, rfl⟩
  | pushData frame => exact ⟨rfl, rfl⟩

theorem Clear.next {event : RunnerEvent} (clear : run.Clear total) (sound : run.Sound)
    (undisturbed : run.Undisturbed event) (step : (machine usizeSize).Step run event after)
    : after.Clear total := by
  have done := step.next
  cases event with
  | turn sources =>
      obtain ⟨polled, turned, polls, turns, _, limits⟩ :=
        sound.turn usizeSize step.enabled.1 step.enabled.2.1 step.enabled.2.2
      cases turns.symm.trans done
      obtain ⟨applied, _⟩ := turn_applied polls done
      obtain ⟨keeps, accepts⟩ := unlimited polls undisturbed.2 run.loop.runner.total
      refine ⟨limits.trans (keeps.trans clear.total), ?_, applied.lifecycleGone.trans
        clear.lifecycleGone, applied.dataGone.trans clear.dataGone⟩
      rw [applied.refused, clear.refused, accepts]
      rfl
  | ready =>
      obtain ⟨resumed, resumes, _, same⟩ := sound.resume usizeSize step.enabled
      cases resumes.symm.trans done
      subst same
      exact ⟨clear.total, clear.refused, clear.lifecycleGone, clear.dataGone⟩
  | takeLifecycle =>
      cases done
      exact ⟨clear.total, clear.refused, clear.lifecycleGone, clear.dataGone⟩
  | takeData =>
      cases done
      exact ⟨clear.total, clear.refused, clear.lifecycleGone, clear.dataGone⟩
  | dropLifecycle => exact undisturbed.elim
  | dropData => exact undisturbed.elim

theorem clear_reachable (started : (machine usizeSize).Initial start)
    (known : start.loop.runner.total = some total)
    (reached : (runsUnder usizeSize start Undisturbed).Reachable run)
    : run.Clear total := by
  refine reached.invariant (fun state same => ?_) (fun before event after reached ih step => ?_)
  · subst same
    obtain ⟨driver, _, input, _, _, rfl⟩ := started
    exact ⟨known, rfl, rfl, rfl⟩
  · exact ih.next (reachable_sound (.of_startingAt (.initial started) reached.of_restrict))
      step.enabled.2 ⟨step.enabled.1, step.next⟩

/-- What a runner reported is its outcome. -/
theorem Sound.outcome {reason : StoppedReason} (sound : run.Sound)
    (member : .lifecycle (.stopped reason) ∈ run.history)
    : run.Outcome reason := by
  have reported : LifecycleEvent.stopped reason ∈ eventsOf run.history :=
    List.mem_filterMap.mpr ⟨_, member, rfl⟩
  obtain ⟨before, after, split⟩ := List.append_of_mem reported
  exact (sound.stopped_last split).1

/-- An undisturbed runner only reports that it finished, with exactly its total. -/
theorem undisturbed_finished {reason : StoppedReason} (started : (machine usizeSize).Initial start)
    (known : start.loop.runner.total = some total) (wide : bufferSize < usizeSize - 1)
    (fits : total < usizeSize)
    (reached : (runsUnder usizeSize start Undisturbed).Reachable run)
    (member : .lifecycle (.stopped reason) ∈ run.history)
    : reason = .finished ∧ run.pushed.length = total ∧ run.pushed <+: run.read := by
  have checks
      : RunnerLoop.ChecksAllowed
          (fun result => result = .ok () ∨ result = .error (.failed .exceededTotalSize)) := by
    intro runner total known reached
    unfold TaskRunner.validateSize
    simp only [known]
    split
    · exact .inl rfl
    · rw [if_neg (Nat.not_lt.mpr reached)]
      exact .inr rfl
  have promises := promises_reachable started known wide fits checks
    (fun _ _ result undisturbed interrupted => absurd interrupted (undisturbed.2 result))
    (fun _ _ undisturbed => undisturbed.1) reached
  have unrestricted := reached.of_restrict
  have sound := reachable_sound (.of_startingAt (.initial started) unrestricted)
  have clear := clear_reachable started known reached
  have outcome := sound.outcome member
  have within : run.loop.runner.downloaded ≤ total := by
    have narrow : ∀ limit, start.loop.runner.total = some limit → limit < usizeSize := by
      intro limit same
      cases same.symm.trans known
      exact fits
    have metered := metered_reachable started wide narrow unrestricted
    exact (Nat.le_add_right _ _).trans (metered.loop.budget.within total known)
  have finished : reason = .finished := by
    obtain ⟨result, allows, same⟩ := promises.reported _ member
    rcases allows with rfl | rfl
    · exact same
    · subst same
      rcases outcome.justified with ⟨limit, isLimit, exceeded⟩ | refused
      · cases isLimit.symm.trans clear.total
        exact absurd within (Nat.not_le.mpr exceeded)
      · cases refused.symm.trans clear.refused
  subst finished
  refine ⟨rfl, ?_⟩
  have delivered := outcome.justified
  rw [StoppedReason.Justified, TaskRunner.Delivered, clear.total] at delivered
  exact ⟨sound.counted.symm.trans delivered, sound.delivers⟩

end RunnerRun

end BoltLoad
