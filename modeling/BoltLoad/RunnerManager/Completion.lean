import BoltLoad.ChunkPlanner.Completion
import BoltLoad.RunnerManager.Protocol

/-! When a completed task is reported. The last runner to end reports it, unless it fails
after its chunk was downloaded in full: a failed runner's tick never looks.
-/

namespace BoltLoad

open OrderedMap

namespace RunnerManager

variable {manager after : RunnerManager} {runnerId : RunnerId}

theorem Joint.allocatedRunnerCount_pos (joint : manager.Joint)
    (allocated : manager.idGenerator.isAllocated runnerId = true)
    : 0 < manager.allocatedRunnerCount := by
  obtain ⟨-, releases⟩ := Generator.release_of_allocated joint.generator allocated
  have counted := releases.counted
  simp only [allocatedRunnerCount]
  omega

/-- Retiring an allocated runner leaves one less. -/
theorem Joint.allocatedRunnerCount_retired (joint : manager.Joint) {chunk : ChunkState}
    (owned : manager.chunkPlanner.Owns runnerId chunk) (chunkPlanner : ChunkPlanner)
    (sampler : RunnerOutcomeSampler)
    : (manager.retired runnerId chunkPlanner sampler).allocatedRunnerCount + 1
      = manager.allocatedRunnerCount := by
  obtain ⟨-, releases⟩ :=
    Generator.release_of_allocated joint.generator (joint.allocated_of_owns owned)
  exact releases.counted

/-- Once a runner is retired, one is left exactly if another one was allocated. -/
theorem Joint.allocatedRunnerCount_retired_pos_iff (joint : manager.Joint) {chunk : ChunkState}
    (owned : manager.chunkPlanner.Owns runnerId chunk) (chunkPlanner : ChunkPlanner)
    (sampler : RunnerOutcomeSampler)
    : 0 < (manager.retired runnerId chunkPlanner sampler).allocatedRunnerCount
      ↔ ∃ other, other ≠ runnerId ∧ manager.idGenerator.isAllocated other = true := by
  obtain ⟨-, releases⟩ :=
    Generator.release_of_allocated joint.generator (joint.allocated_of_owns owned)
  refine (Generator.allocatedCount_pos_iff releases.consistent).trans ?_
  exact exists_congr releases.allocated

/-- The runner that fails is the last one, its chunk is full, and all else is downloaded. -/
def MissesCompletion (manager : RunnerManager) : Cause → Prop
  | .lifecycle (.event runnerId (.stopped (.failed error))) =>
    completes (.failed error) = false
    ∧ manager.allocatedRunnerCount = 1
    ∧ ∃ chunk,
        manager.chunkPlanner.getRunnerState runnerId = some chunk
        ∧ manager.chunkPlanner.Completes chunk
  | _ => False

/-- Releasing a chunk of which nothing is downloaded leaves something to do. -/
theorem Joint.incomplete_of_untouched (joint : manager.Joint) {chunk : ChunkState}
    (owned : manager.chunkPlanner.Owns runnerId chunk)
    (nothing : chunk.downloaded.stop = chunk.downloaded.start)
    : ¬ manager.chunkPlanner.Completes chunk := by
  intro completes
  have full := completes.full
  have shaped := joint.planner.shaped owned.found
  have nonempty := shaped.nonempty
  have anchored := shaped.anchored
  omega

/-- A tick after which the planner is complete and no runner is left reports it, or it is
the failure of the last runner of a chunk that was full.
-/
theorem Joint.handled_complete {cause : Cause} {tick : RunnerTick} (joint : manager.Joint)
    (untouched
      : ∀ {runnerId chunk},
          manager.chunkPlanner.getRunnerState runnerId = some chunk
          → chunk.status = .pending
          → chunk.downloaded.stop = chunk.downloaded.start)
    (offered : manager.Offers cause) (handled : manager.Handled cause tick after)
    (complete : after.chunkPlanner.isComplete = true) (none_left : after.allocatedRunnerCount = 0)
    : tick.state = .finished ∨ manager.MissesCompletion cause := by
  have state {runnerId : RunnerId} {chunk : ChunkState}
      (owned : manager.chunkPlanner.Owns runnerId chunk) :=
    (ChunkPlanner.getRunnerState_eq_some_iff joint.planner).mpr owned
  have incomplete {runnerId : RunnerId} {chunk : ChunkState}
      (owned : manager.chunkPlanner.Owns runnerId chunk) (pending : chunk.status = .pending)
      (released : (manager.chunkPlanner.release runnerId chunk).isComplete = true)
      : False :=
    joint.incomplete_of_untouched owned (untouched (state owned) pending)
      ((owned.release_isComplete_iff joint.planner).mp released)
  have busy {runnerId : RunnerId} (allocated : manager.idGenerator.isAllocated runnerId = true)
      (same : after.allocatedRunnerCount = manager.allocatedRunnerCount)
      : False := by
    have positive := joint.allocatedRunnerCount_pos allocated
    omega
  cases handled with
  | @rejected runnerId failed spawnFailures chunk sampler queued owned =>
      refine (incomplete owned ?_ complete).elim
      have member : runnerId ∈ manager.rejectedRunners := by simp [rejectedRunners, queued]
      have connecting := joint.rejected runnerId member
      rw [joint.isConnecting_eq owned] at connecting
      exact of_decide_eq_true connecting
  | started owned pending waiting => exact (busy (joint.allocated_of_owns owned) rfl).elim
  | unconnected sampler owned pending => exact (incomplete owned pending complete).elim
  | @completed runnerId reason chunk sampler owned running finishes =>
      refine Or.inl ?_
      have done : (manager.finishedPlanner runnerId chunk).isComplete = true := complete
      simp only [done, if_true, RunnerTick.finished]
  | @failed runnerId error chunk sampler owned running fails =>
      refine Or.inr ⟨fails, ?_, chunk, state owned, ?_⟩
      · have counted := joint.allocatedRunnerCount_retired owned
          (manager.chunkPlanner.release runnerId chunk) sampler
        omega
      · exact (owned.release_isComplete_iff joint.planner).mp complete
  | @lost runnerId chunk sampler owned =>
      refine Or.inl ?_
      have done : (manager.chunkPlanner.release runnerId chunk).isComplete = true := complete
      simp only [done, if_true, RunnerTick.finished]
  | data owned running => exact (busy (joint.allocated_of_owns owned) rfl).elim
  | dataClosed =>
      obtain ⟨port, polled⟩ := mem_keys_iff.mp offered
      have registered := (joint.data polled).1
      have allocated := joint.allocated_of_lifecycle (mem_keys_iff.mpr ⟨port, registered⟩)
      exact (busy allocated rfl).elim

theorem attemptTick_state_ne (runnerId : RunnerId) (error : TaskError)
    : (attemptTick runnerId error).state ≠ .finished := by
  unfold attemptTick
  split <;> simp [RunnerTick.downloading, RunnerTick.withFailure]

/-- A tick only reports a completed planner as finished, and then nothing else. -/
theorem handled_finished {cause : Cause} {tick : RunnerTick}
    (handled : manager.Handled cause tick after) (finished : tick.state = .finished)
    : tick = .finished ∧ after.chunkPlanner.isComplete = true := by
  cases handled with
  | rejected => exact absurd finished (attemptTick_state_ne _ _)
  | unconnected => exact absurd finished (attemptTick_state_ne _ _)
  | failed => exact absurd finished (attemptTick_state_ne _ _)
  | completed sampler owned running completes =>
      split at finished
      · rename_i complete
        exact ⟨if_pos complete, complete⟩
      · cases finished
  | lost sampler owned =>
      split at finished
      · rename_i complete
        exact ⟨if_pos complete, complete⟩
      · cases finished
  | started => cases finished
  | data => cases finished
  | dataClosed => cases finished

/-- Such a failure does complete the planner, leaves no runner, and does not report it. -/
theorem Joint.handled_misses {cause : Cause} {tick : RunnerTick} (joint : manager.Joint)
    (untouched
      : ∀ {runnerId chunk},
          manager.chunkPlanner.getRunnerState runnerId = some chunk
          → chunk.status = .pending
          → chunk.downloaded.stop = chunk.downloaded.start)
    (handled : manager.Handled cause tick after) (misses : manager.MissesCompletion cause)
    : after.chunkPlanner.isComplete = true
      ∧ after.allocatedRunnerCount = 0
      ∧ tick.state ≠ .finished := by
  have owned {runnerId : RunnerId} {chunk : ChunkState}
      (state : manager.chunkPlanner.getRunnerState runnerId = some chunk) :=
    (ChunkPlanner.getRunnerState_eq_some_iff joint.planner).mp state
  cases handled with
  | @failed runnerId error chunk sampler owner running fails =>
      obtain ⟨-, last, full, state, completes⟩ := misses
      obtain rfl := owner.unique (owned state)
      refine ⟨(owner.release_isComplete_iff joint.planner).mpr completes, ?_, ?_⟩
      · have counted := joint.allocatedRunnerCount_retired owner
          (manager.chunkPlanner.release runnerId chunk) sampler
        omega
      · unfold attemptTick
        split <;> simp [RunnerTick.downloading, RunnerTick.withFailure]
  | @unconnected runnerId reason chunk sampler owner pending =>
      cases reason with
      | finished => exact misses.elim
      | failed error =>
          obtain ⟨-, -, full, state, completes⟩ := misses
          obtain rfl := owner.unique (owned state)
          exact absurd completes (joint.incomplete_of_untouched owner (untouched state pending))
  | @completed runnerId reason chunk sampler owner running finishes =>
      cases reason with
      | finished => exact misses.elim
      | failed error =>
          have never := misses.1
          rw [finishes] at never
          cases never
  | _ => exact misses.elim

end RunnerManager

namespace ManagerRun

open RunnerManager

/-- The task is complete and nobody is left to report it. -/
def Done (run : ManagerRun) : Prop :=
  run.manager.chunkPlanner.isComplete = true ∧ run.manager.allocatedRunnerCount = 0

/-- A completed task was reported by this tick or an earlier one. -/
def Reported (run : ManagerRun) : Prop := run.Done → run.reportedFinished = true

/-- The poll handles a failure that completes the task, which no tick reported so far. -/
def MissesCompletion (run : ManagerRun) : ManagerEvent → Prop
  | .tick _ dataEnabled lifecycle data =>
    run.reportedFinished = false
    ∧ ∃ cause ∈ run.manager.selected dataEnabled lifecycle data,
        run.manager.MissesCompletion cause
  | _ => False

variable {run : ManagerRun}

/-- Only a tick that misses it leaves a completed task unreported. -/
theorem Sound.next_reported {event : ManagerEvent} {after : ManagerRun} (sound : run.Sound)
    (enabled : run.Enabled event) (next : run.next event = .ok after)
    (reported : run.Reported) (noticed : ¬ run.MissesCompletion event)
    : after.Reported := by
  intro done
  cases event with
  | spawn range outcome =>
      obtain ⟨result, manager, spawns, spawned⟩ :=
        sound.joint.spawns range run.nextPort outcome
      simp only [ManagerRun.next, ManagerRun.spawn, spawns] at next
      cases next
      obtain ⟨complete, none_left⟩ := done
      cases spawned with
      | full none_free => exact reported ⟨complete, none_left⟩
      | refused next allocates rejects =>
          have counted := allocates.counted
          refine reported ⟨complete, ?_⟩
          simp only [allocatedRunnerCount, Generator.released] at none_left ⊢
          omega
      | accepted next allocates free =>
          have counted := allocates.counted
          simp only [allocatedRunnerCount, RunnerManager.spawned] at none_left
          omega
      | rejected next allocates free =>
          have counted := allocates.counted
          simp only [allocatedRunnerCount, RunnerManager.rejectedSpawn] at none_left
          omega
  | resize runnerId newSize receiving =>
      obtain ⟨result, sent, manager, resizes, resized⟩ :=
        sound.joint.resizes runnerId newSize receiving
      simp only [ManagerRun.next, ManagerRun.resize, resizes] at next
      cases next
      cases resized with
      | refused => exact reported done
      | unchanged owned same => exact reported done
      | shrunk owned nonempty shrinks sender received =>
          have positive :=
            sound.joint.allocatedRunnerCount_pos (sound.joint.allocated_of_owns owned)
          have none_left : run.manager.allocatedRunnerCount = 0 := done.2
          omega
  | tick now dataEnabled lifecycle data =>
      rcases sound.ticks now enabled with ⟨tick, ticked, ticks, outcome⟩ | ⟨early, -⟩
      · simp only [ManagerRun.next, ticks] at next
        cases next
        cases outcome with
        | idle nothing => exact reported done
        | @handled cause tick manager selects offered handled =>
            simp only [ManagerRun.afterCause, Bool.or_eq_true]
            rcases sound.joint.handled_complete sound.untouched offered handled done.1 done.2
              with finished | misses
            · exact Or.inr (beq_iff_eq.mpr finished)
            · cases before : run.reportedFinished with
              | true => exact Or.inl rfl
              | false => exact absurd ⟨before, cause, selects, misses⟩ noticed
      · simp only [ManagerRun.next, early] at next
        cases next
  | takeMetersSnapshot =>
      cases next
      exact reported done
  | observeOutcomes sampler =>
      cases next
      exact reported done

/-- While no tick misses it, a completed task is reported, by induction on the run. -/
theorem reachable_reported
    (reached : (machine.restrict (fun run event => ¬ run.MissesCompletion event)).Reachable run)
    : run.Reported := by
  refine reached.invariant ?_ ?_
  · rintro start ⟨total, maxConcurrency, representable, same⟩ done
    subst same
    cases done.1
  · intro before event after earlier reported step
    exact (reachable_sound earlier.of_restrict).next_reported step.enabled.1 step.next reported
      step.enabled.2

/-- A tick that misses it leaves a completed task unreported. -/
theorem Sound.next_misses {event : ManagerEvent} {after : ManagerRun} (sound : run.Sound)
    (enabled : run.Enabled event) (next : run.next event = .ok after)
    (misses : run.MissesCompletion event)
    : after.Done ∧ after.reportedFinished = false := by
  cases event with
  | tick now dataEnabled lifecycle data =>
      obtain ⟨unreported, missed, selected, fails⟩ := misses
      rcases sound.ticks now enabled with ⟨tick, ticked, ticks, outcome⟩ | ⟨early, -⟩
      · simp only [ManagerRun.next, ticks] at next
        cases next
        cases outcome with
        | idle nothing =>
            rw [nothing] at selected
            cases selected
        | handled selects offered handled =>
            cases selects.symm.trans selected
            obtain ⟨complete, none_left, silent⟩ :=
              sound.joint.handled_misses sound.untouched handled fails
            refine ⟨⟨complete, none_left⟩, ?_⟩
            simp only [ManagerRun.afterCause, unreported, Bool.false_or]
            exact beq_eq_false_iff_ne.mpr silent
      · simp only [ManagerRun.next, early] at next
        cases next
  | spawn range outcome => exact misses.elim
  | resize runnerId newSize receiving => exact misses.elim
  | takeMetersSnapshot => exact misses.elim
  | observeOutcomes sampler => exact misses.elim

end ManagerRun

end BoltLoad
