import BoltLoad.Strategy.ConcurrencyControl

/-! The strategy that splits chunks while the download speed changes. A speed is an exact
rational number of bytes per second.
-/

namespace BoltLoad

/-- Bytes per second. -/
abbrev ByteRate := Rat

inductive DynamicPlannerStage
  | quickStart
  | normal
  deriving DecidableEq, Repr

structure DynamicStrategy where
  threashold1 : ByteRate
  threashold2 : ByteRate
  currentStage : DynamicPlannerStage
  previousTotalDownloadSpeed : ByteRate
  deriving DecidableEq

structure DynamicStrategyContext where
  speed : ByteRate
  perRunnerSpeed : ByteRate
  currentConcurrency : Nat
  maxConcurrency : Nat
  plannedChunkSize : Nat
  /-- The runner with the most left to download. -/
  remainingLargestRunnerId : RunnerId

namespace DynamicStrategy

/-- One mebibyte per second. -/
def default : DynamicStrategy where
  threashold1 := 1024 * 1024
  threashold2 := 1024 * 1024
  currentStage := .quickStart
  previousTotalDownloadSpeed := 0

/-- The turn of the loop in the normal stage, which always ends it. -/
def stepNormal (strategy : DynamicStrategy) (context : DynamicStrategyContext)
    : List StrategyAction × DynamicStrategy :=
  let expected := strategy.previousTotalDownloadSpeed + context.perRunnerSpeed
  (if strategy.threashold2 < |context.speed - expected|
      ∧ context.currentConcurrency + 1 < context.maxConcurrency then
    [.splitGivenTask context.remainingLargestRunnerId]
  else
    [],
    { strategy with previousTotalDownloadSpeed := context.speed })

/-- The quick start turns normal once it has nothing to split. -/
def step (strategy : DynamicStrategy) (context : DynamicStrategyContext)
    : List StrategyAction × DynamicStrategy :=
  match strategy.currentStage with
  | .quickStart =>
    if strategy.threashold1 < |context.speed - 2 * strategy.previousTotalDownloadSpeed|
        ∧ context.currentConcurrency * 2 < context.maxConcurrency then
      ([.splitAllTask context.plannedChunkSize],
        { strategy with previousTotalDownloadSpeed := context.speed })
    else
      stepNormal { strategy with currentStage := .normal } context
  | .normal => strategy.stepNormal context

end DynamicStrategy

end BoltLoad
