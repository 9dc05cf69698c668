import BoltLoad.RunnerManager.Model
import BoltLoad.Strategy.Dynamic

/-! The strategies of the download loop in turn: the control of the concurrency first, and the
dynamic strategy where that has nothing to ask for.
-/

namespace BoltLoad

structure StrategyControl where
  dynamicStrategy : DynamicStrategy
  concurrencyControlStrategy : ConcurrencyControlStrategy

/-- Converting to `u64` truncates towards zero, and saturates. -/
def asU64 (value : Rat) : Nat := min value.floor.toNat (u64Size - 1)

namespace StrategyControl

def new (initialMaxConcurrency : Nat) : StrategyControl where
  dynamicStrategy := .default
  concurrencyControlStrategy := .withDefaultConfig initialMaxConcurrency

/-- The message of a suggested range without a runner. -/
def emptyChunkMessage : String := "A empty chunk is not processed by concurrency control"

/-- The bytes of two seconds. -/
def plannedChunkSize (currentSpeed : ByteRate) : Nat := asU64 (currentSpeed * 2)

/-- What the concurrency control sees. -/
def controlContext (maxConcurrency : Nat) (manager : RunnerManager) : ConcurrencyControlContext where
  maxConcurrency := maxConcurrency
  activeRunners := manager.chunkPlanner.getActiveRunnersCount
  sampler := manager.runnerOutcomeSampler
  availableChunks := manager.chunkPlanner.getAvailableRanges

/-- What is split, once the concurrency control has nothing to ask for. -/
def executeDynamic (control : StrategyControl) (maxConcurrency : Nat)
    (currentSpeed perRunnerAvgSpeed : ByteRate) (manager : RunnerManager)
    : Checked (List StrategyAction × StrategyControl) := do
  let activeRunners := manager.chunkPlanner.getActiveRunnersCount
  let planned := plannedChunkSize currentSpeed
  match ← manager.chunkPlanner.findChunkToSplit planned with
  | none => pure ([], control)
  | some (runnerId, suggestedRange) =>
    if activeRunners < maxConcurrency then do
      let suggested ← Checked.sub suggestedRange.stop suggestedRange.start
      if suggested ≥ planned then do
        let runnerId ← Checked.expect runnerId emptyChunkMessage
        let (actions, dynamicStrategy) :=
          control.dynamicStrategy.step
            { speed := currentSpeed
              perRunnerSpeed := perRunnerAvgSpeed
              currentConcurrency := activeRunners
              maxConcurrency
              plannedChunkSize := planned
              remainingLargestRunnerId := runnerId }
        pure (actions, { control with dynamicStrategy })
      else
        pure ([], control)
    else
      pure ([], control)

/-- The actions to apply, none for `None`; the name of the strategy is only traced. -/
def execute (control : StrategyControl) (maxConcurrency : Nat)
    (currentSpeed perRunnerAvgSpeed : ByteRate) (manager : RunnerManager) (clock : StepClock)
    : Checked (List StrategyAction × StrategyControl × RunnerManager) := do
  let (actions, concurrencyControlStrategy, runnerOutcomeSampler) ←
    control.concurrencyControlStrategy.step (controlContext maxConcurrency manager) clock
  let control := { control with concurrencyControlStrategy }
  let manager := { manager with runnerOutcomeSampler }
  if actions.isEmpty then do
    let (actions, control) ←
      control.executeDynamic maxConcurrency currentSpeed perRunnerAvgSpeed manager
    pure (actions, control, manager)
  else
    pure (actions, control, manager)

end StrategyControl

end BoltLoad
