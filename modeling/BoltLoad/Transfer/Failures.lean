import BoltLoad.RunnerManager.Completion
import BoltLoad.Runner.Errors
import BoltLoad.Transfer.Writes

/-! What a tick reports of a failed attempt: an error of its runner or of its spawn, the
retryability of that error, and a runner that is not allocated any more.
-/

namespace BoltLoad

open OrderedMap

namespace Instance

/-- Taking from its rings leaves a runner's loop as it is. -/
theorem consumed_loop (inst : Instance) (manager : RunnerManager)
    (cause : Option RunnerManager.Cause) (port : Port)
    : (inst.consumed manager cause port).run.loop = inst.run.loop := by
  unfold Instance.consumed
  split
  · split <;> rfl
  · split <;> rfl
  · rfl

theorem consumed_lifecycle (inst : Instance) (manager : RunnerManager)
    (cause : Option RunnerManager.Cause) (port : Port)
    : ∀ event ∈ (inst.consumed manager cause port).run.lifecycle, event ∈ inst.run.lifecycle := by
  intro event member
  unfold Instance.consumed at member
  split at member
  · split at member
    · exact List.mem_of_mem_tail member
    · exact member
  · split at member <;> exact member
  · exact member

end Instance

namespace Transfer

open RunnerManager

variable {usizeSize : Nat} {transfer after : Transfer}

theorem intrinsic_reports : Intrinsic (fun inst => inst.run.Reports) where
  new range := .new _ _ _
  receive _ reports := reports
  polled manager after cause port reports := by
    refine ⟨?_, fun event member => ?_⟩
    · change ((Instance.consumed _ manager cause port).run.loop.phase).Reports
      rw [Instance.consumed_loop]
      exact reports.phase
    · exact reports.lifecycle event (Instance.consumed_lifecycle _ _ _ _ event member)
  vanish reports := reports

/-- The runners of an attempt only report errors of their own, by induction on the run. -/
theorem reachable_reports (reached : (machine usizeSize).Reachable transfer)
    : transfer.Every (fun inst => inst.run.Reports) := by
  induction reached with
  | initial start =>
      obtain ⟨total, maxConcurrency, -, same⟩ := start
      subst same
      intro port inst never
      cases never
  | @step before event after earlier step ih =>
      refine Every.next intrinsic_reports ih ?_ step.next
      intro port sources same turns
      unfold Transfer.turn at turns
      split at turns
      · cases turns
      rename_i inst found
      obtain ⟨polled, -, rest⟩ := Checked.bind_eq_ok.mp turns
      obtain ⟨run, turned, same⟩ := Checked.bind_eq_ok.mp rest
      cases same
      intro other otherInst otherFound
      rw [get?_insert] at otherFound
      split at otherFound
      · cases otherFound
        exact (ih found).turn turned
      · exact ih otherFound

/-- What a failure in a tick says. -/
structure Fails (transfer : Transfer) (tick : RunnerTick) (manager : RunnerManager)
    (failure : AttemptFailure) : Prop where
  /-- Nothing was downloaded with it. -/
  alone : tick.downloaded = none
  continues : tick.state = .downloading
  fromRunner : failure.error.fromRunner = true
  uncancelled : failure.error.isCancelled = false
  retryable : failure.retryable = isAttemptRetryable failure.error
  others
    : 0 < manager.allocatedRunnerCount
      ↔ ∃ other,
          other ≠ failure.runnerId
          ∧ transfer.managed.manager.idGenerator.isAllocated other = true

/-- A failed attempt is reported with its error, unless it was cancelled. -/
theorem attemptTick_fails {runnerId : RunnerId} {error : TaskError} {failure : AttemptFailure}
    {manager : RunnerManager} (fromRunner : error.fromRunner = true)
    (others
      : 0 < manager.allocatedRunnerCount
        ↔ ∃ other,
            other ≠ runnerId
            ∧ transfer.managed.manager.idGenerator.isAllocated other = true)
    (failed : (attemptTick runnerId error).failure = some failure)
    : transfer.Fails (attemptTick runnerId error) manager failure := by
  unfold attemptTick at failed ⊢
  split at failed
  · cases failed
  · rename_i uncancelled
    cases failed
    rw [if_neg uncancelled]
    exact ⟨rfl, rfl, fromRunner, eq_false_of_ne_true uncancelled, rfl, others⟩

/-- Every failure of a tick is one of its runner. -/
theorem Sound.handled_fails (sound : transfer.Sound)
    (reports : transfer.Every (fun inst => inst.run.Reports)) {cause : Cause} {tick : RunnerTick}
    {manager : RunnerManager} {failure : AttemptFailure} (offers : transfer.Offers cause)
    (handled : transfer.managed.manager.Handled cause tick manager)
    (failed : tick.failure = some failure)
    : transfer.Fails tick manager failure := by
  have joint := sound.run.joint
  have stopped {runnerId : RunnerId} {reason : StoppedReason}
      (offers : transfer.Offers (.lifecycle (.event runnerId (.stopped reason))))
      : (RunnerManager.connectError reason).fromRunner = true := by
    obtain ⟨port, -, inst, found, next⟩ := offers
    obtain ⟨rest, queue⟩ := List.head?_eq_some_iff.mp next
    have reported := (reports found).lifecycle (.stopped reason) (queue ▸ List.mem_cons_self)
    cases reason with
    | finished => rfl
    | failed error => exact reported
  cases handled with
  | @rejected runnerId _ _ chunk sampler queued owned =>
      have others := joint.allocatedRunnerCount_retired_pos_iff owned
        (transfer.managed.manager.chunkPlanner.release runnerId chunk) sampler
      exact attemptTick_fails rfl others failed
  | unconnected sampler owned pending =>
      exact attemptTick_fails (stopped offers)
        (joint.allocatedRunnerCount_retired_pos_iff owned _ sampler) failed
  | failed sampler owned running incomplete =>
      exact attemptTick_fails (stopped offers)
        (joint.allocatedRunnerCount_retired_pos_iff owned _ sampler) failed
  | completed =>
      split at failed <;> cases failed
  | lost sampler owned =>
      split at failed
      · cases failed
      · rename_i incomplete
        cases failed
        rw [if_neg incomplete]
        exact ⟨rfl, rfl, rfl, rfl, rfl,
          joint.allocatedRunnerCount_retired_pos_iff owned _ sampler⟩
  | started => cases failed
  | data => cases failed
  | dataClosed => cases failed

/-- What a poll of a reachable attempt reports of a failure. -/
theorem tick_fails (reached : (machine usizeSize).Reachable transfer) {now : Instant}
    {dataEnabled : Bool} {lifecycle : Option LifecycleStreamEvent}
    {data : Option DataStreamEvent} {tick : RunnerTick} {failure : AttemptFailure}
    (enabled : transfer.Enabled (.tick now dataEnabled lifecycle data))
    (ticks : transfer.tick now dataEnabled lifecycle data = .ok (some tick, after))
    (failed : tick.failure = some failure)
    : transfer.Fails tick after.managed.manager failure := by
  have sound := reachable_sound reached
  rcases sound.afterTick now enabled with ⟨found, next, ticksAgain, -, ticked⟩ | early
  · cases ticks.symm.trans ticksAgain
    generalize after.managed = managed at ticked ⊢
    cases ticked with
    | handled selects offered handled =>
        exact sound.handled_fails (reachable_reports reached) (enabled _ selects) handled failed
  · cases ticks.symm.trans early

/-- A poll that finds nothing in the rings is always possible. -/
theorem enabled_tick_none (transfer : Transfer) (now : Instant) (dataEnabled : Bool)
    : transfer.Enabled (.tick now dataEnabled none none) := by
  intro cause selects
  unfold RunnerManager.selected at selects
  split at selects
  · cases selects
    trivial
  · rename_i never
    cases never
  · split at selects <;> cases selects

end Transfer

end BoltLoad
