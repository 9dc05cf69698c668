import BoltLoad.RunnerManager.Protocol

/-! The manager never configures its planner: the total, the minimal chunk size and the absent
limit on the number of chunks stay what they were in the beginning.
-/

namespace BoltLoad

open OrderedMap

namespace RunnerManager

variable {manager after : RunnerManager}

theorem handled_configuration {cause : Cause} {tick : RunnerTick}
    (handled : manager.Handled cause tick after)
    : after.chunkPlanner.configuration = manager.chunkPlanner.configuration := by
  cases handled <;>
    simp [RunnerManager.retired, RunnerManager.started, advanced, finishedPlanner]

theorem spawned_configuration {range : Range} {port : Port}
    {outcome : Except SpawnFailed Unit} {result : Option Unit}
    (spawned : manager.Spawned range port outcome result after)
    : after.chunkPlanner.configuration = manager.chunkPlanner.configuration := by
  cases spawned <;> rfl

theorem resized_configuration {runnerId : RunnerId} {newSize : Nat} {receiving : Bool}
    {result : Except ResizeError Unit} {sent : Option (Port × Nat)}
    (resized : manager.Resized runnerId newSize receiving result sent after)
    : after.chunkPlanner.configuration = manager.chunkPlanner.configuration := by
  cases resized <;> rfl

end RunnerManager

namespace ManagerRun

open RunnerManager

variable {run : ManagerRun}

/-- Every step keeps the configuration, by cases on the event. -/
theorem step_configuration {before after : ManagerRun} {event : ManagerEvent}
    (sound : before.Sound) (step : machine.Step before event after)
    : after.manager.chunkPlanner.configuration = before.manager.chunkPlanner.configuration := by
  have next := step.next
  cases event with
  | spawn range outcome =>
      obtain ⟨result, manager, spawns, spawned⟩ :=
        sound.joint.spawns range before.nextPort outcome
      simp only [machine, ManagerRun.next, ManagerRun.spawn, spawns] at next
      cases next
      exact spawned_configuration spawned
  | resize runnerId newSize receiving =>
      obtain ⟨result, sent, manager, resizes, resized⟩ :=
        sound.joint.resizes runnerId newSize receiving
      simp only [machine, ManagerRun.next, ManagerRun.resize, resizes] at next
      cases next
      exact resized_configuration resized
  | tick now dataEnabled lifecycle data =>
      rcases sound.ticks now step.enabled with ⟨tick, ticked, ticks, outcome⟩ | ⟨early, -⟩
      · simp only [machine, ManagerRun.next, ticks] at next
        cases next
        cases outcome with
        | idle nothing => rfl
        | handled selects offered handled => exact handled_configuration handled
      · simp only [machine, ManagerRun.next, early] at next
        cases next
  | takeMetersSnapshot =>
      cases next
      rfl
  | observeOutcomes sampler =>
      cases next
      rfl

/-- The planner of a manager keeps the default limits, by induction on the run. -/
theorem reachable_configuration (reached : machine.Reachable run)
    : run.manager.chunkPlanner.minChunkSize = ChunkPlanner.defaultMinChunkSize
      ∧ run.manager.chunkPlanner.maxChunkCount = none := by
  induction reached with
  | initial start =>
      obtain ⟨total, maxConcurrency, -, same⟩ := start
      subst same
      exact ⟨rfl, rfl⟩
  | step earlier step ih =>
      have same := step_configuration (reachable_sound earlier) step
      simp only [ChunkPlanner.configuration, Prod.mk.injEq] at same
      exact ⟨same.2.1.trans ih.1, same.2.2.trans ih.2⟩

end ManagerRun

end BoltLoad
