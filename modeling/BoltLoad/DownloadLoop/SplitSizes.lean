import BoltLoad.ChunkPlanner.Candidates
import BoltLoad.DownloadLoop.Splits
import BoltLoad.Strategy.Steps

/-! How large the pieces of a split are. `getIncompleteStates` asks for twice the minimal chunk
size before it offers a runner for a split; a runner split by itself comes from
`findChunkToSplit`, which asks for the minimal chunk size once.
-/

namespace BoltLoad

open OrderedMap

namespace StrategyControl

variable {control after : StrategyControl} {maxConcurrency : Nat} {speed perRunner : ByteRate}
  {manager observed : RunnerManager} {clock : StepClock} {actions : List StrategyAction}
  {action : StrategyAction}

end StrategyControl

namespace DownloadLoop

open Transfer

variable {transfer : Transfer} {loop : DownloadLoop} {runnerId : RunnerId} {chunk : ChunkState}
  {outcome : Range → Except SpawnFailed Unit}

-----------------------------------------------------------------------------------------
-- The splits an action performs
-----------------------------------------------------------------------------------------

/-- The splits an action asks for. -/
def requestedSplits (loop : DownloadLoop) : StrategyAction → Checked (List (RunnerId × Range))
  | .splitAllTask plannedChunkSize =>
    loop.manager.chunkPlanner.getIncompleteStates (some plannedChunkSize)
  | .splitGivenTask taskId => do
    let state ← Checked.expect (loop.manager.chunkPlanner.getRunnerState taskId) taskIdMessage
    pure [(taskId, state.incompleteRange)]
  | _ => pure []

/-- Applying a split splits what it asks for, one runner after the other. -/
theorem apply_split {action : StrategyAction} (isSplit : action.isSplit = true)
    : loop.apply outcome action
      = (do
        let states ← loop.requestedSplits action
        let transfer ← splitAll outcome loop.transfer states
        pure { loop with transfer }) := by
  cases action with
  | changeMaxConcurrency => cases isSplit
  | createTask => cases isSplit
  | splitAllTask plannedChunkSize => rfl
  | splitGivenTask taskId =>
      simp only [apply, requestedSplits, splitAll, bind_assoc, pure_bind, bind_pure]

/-- A running runner with twice the minimal chunk size left. -/
def Splittable (transfer : Transfer) (runnerId : RunnerId) (incompleteRange : Range) : Prop :=
  ∃ chunk,
    transfer.managed.manager.chunkPlanner.getRunnerState runnerId = some chunk
    ∧ chunk.status = .running
    ∧ incompleteRange = chunk.incompleteRange
    ∧ 2 * transfer.managed.manager.chunkPlanner.minChunkSize ≤ chunk.incompleteRange.len

/-- A split leaves the other runners as splittable as they were. -/
theorem Splits.splittable {after : Transfer} {other : RunnerId} {otherRange : Range}
    (sound : transfer.Sound)
    (owned : transfer.managed.manager.chunkPlanner.Owns runnerId chunk)
    (splits : Splits transfer runnerId chunk (.ok after)) (distinct : other ≠ runnerId)
    (splittable : Splittable transfer other otherRange)
    : after.Sound ∧ Splittable after other otherRange := by
  cases splits with
  | refused => exact ⟨sound, splittable⟩
  | performed halved next unmapped afterSound generator planner =>
      obtain ⟨otherChunk, state, running, range, large⟩ := splittable
      refine ⟨afterSound, otherChunk, ?_, running, range, ?_⟩
      · rw [planner]
        exact owned.getRunnerState_handOver sound.planner halved.keptNonempty
          halved.keepsDownloaded halved.givenNonempty unmapped state distinct
      · rw [afterSound.minChunkSize_eq, ← sound.minChunkSize_eq]
        exact large

end DownloadLoop

end BoltLoad
