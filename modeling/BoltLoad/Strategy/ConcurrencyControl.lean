import BoltLoad.Strategy.RunnerOutcomeSampler

/-! The strategy that controls the max concurrency of the task, according to the failure rate
of the runners. Rates are exact rationals; a step reads the clock three times.
-/

namespace BoltLoad

inductive StrategyAction
  | changeMaxConcurrency (maxConcurrency : Nat)
  | splitAllTask (plannedChunkSize : Nat)
  | splitGivenTask (taskId : RunnerId)
  | createTask (range : Range)
  deriving DecidableEq, Repr

structure ConcurrencyControlConfig where
  failureRateThreshold : Rat
  /-- Fewer samples are not judged. -/
  minSamples : Nat
  recoveryDelay : Duration
  recoveryObservationPeriod : Duration
  degradationStep : Nat
  recoveryStep : Nat
  minConcurrency : Nat
  unretryableDetectionWindow : Duration

def ConcurrencyControlConfig.default : ConcurrencyControlConfig where
  failureRateThreshold := 3 / 10
  minSamples := 5
  recoveryDelay := seconds 30
  recoveryObservationPeriod := seconds 15
  degradationStep := 1
  recoveryStep := 1
  minConcurrency := 1
  unretryableDetectionWindow := seconds 5

structure ConcurrencyControlContext where
  maxConcurrency : Nat
  activeRunners : Nat
  sampler : RunnerOutcomeSampler
  availableChunks : List Range

inductive StrategyState
  | normal
  | degraded (targetConcurrency : Nat) (degradedAt : Instant)
  | recovering (trialConcurrency : Nat) (startedAt : Instant) (initialFailures : Nat)
  deriving DecidableEq, Repr

structure ConcurrencyControlStrategy where
  config : ConcurrencyControlConfig
  state : StrategyState
  initialMaxConcurrency : Nat
  firstExecute : Bool

/-- What the clock shows as a step begins, as it looks for an unretryable failure, and as it
counts the outcomes.
-/
structure StepClock where
  now : Instant
  lookedAt : Instant
  countedAt : Instant

namespace ConcurrencyControlStrategy

def new (config : ConcurrencyControlConfig) (initialMaxConcurrency : Nat)
    : ConcurrencyControlStrategy where
  config := config
  state := .normal
  initialMaxConcurrency := initialMaxConcurrency
  firstExecute := true

def withDefaultConfig (initialMaxConcurrency : Nat) : ConcurrencyControlStrategy :=
  new .default initialMaxConcurrency

/-- Enter a state, asking for a concurrency. -/
def enter (strategy : ConcurrencyControlStrategy) (state : StrategyState) (concurrency : Nat)
    : List StrategyAction × ConcurrencyControlStrategy :=
  ([.changeMaxConcurrency concurrency], { strategy with state })

/-- Never degrade to zero: with no active runner nothing would be scheduled again. -/
def handleImmediateDegradation (strategy : ConcurrencyControlStrategy)
    (context : ConcurrencyControlContext) (now : Instant)
    : List StrategyAction × ConcurrencyControlStrategy :=
  let newConcurrency := max (max context.activeRunners strategy.config.minConcurrency) 1
  strategy.enter (.degraded newConcurrency now) newConcurrency

def handleNormalState (strategy : ConcurrencyControlStrategy)
    (context : ConcurrencyControlContext) (stats : OutcomeStats) (now : Instant)
    : List StrategyAction × ConcurrencyControlStrategy :=
  if stats.total < strategy.config.minSamples then
    ([], strategy)
  else if strategy.config.failureRateThreshold ≤ stats.failureRate
      ∧ strategy.config.minConcurrency < context.maxConcurrency then
    let newConcurrency :=
      max (context.maxConcurrency - strategy.config.degradationStep)
        strategy.config.minConcurrency
    strategy.enter (.degraded newConcurrency now) newConcurrency
  else
    ([], strategy)

/-- The recovery threshold is half of the failure threshold. -/
def handleDegradedState (strategy : ConcurrencyControlStrategy) (stats : OutcomeStats)
    (now : Instant) (targetConcurrency : Nat) (degradedAt : Instant)
    : List StrategyAction × ConcurrencyControlStrategy :=
  if now - degradedAt < strategy.config.recoveryDelay then
    ([], strategy)
  else if stats.failureRate < strategy.config.failureRateThreshold * (1 / 2) then
    let trial :=
      min (targetConcurrency + strategy.config.recoveryStep) strategy.initialMaxConcurrency
    if targetConcurrency < trial then
      strategy.enter (.recovering trial now stats.totalFailures) trial
    else
      ([], { strategy with state := .normal })
  else
    ([], strategy)

/-- The failure rate since the recovery began, estimated from the failures there were then. -/
def recoveryFailureRate (stats : OutcomeStats) (initialFailures : Nat) : Rat :=
  let newFailures := stats.totalFailures - initialFailures
  let recoverySamples := stats.total - initialFailures
  if 0 < recoverySamples then (newFailures : Rat) / recoverySamples else 0

def handleRecoveringState (strategy : ConcurrencyControlStrategy) (stats : OutcomeStats)
    (now : Instant) (trialConcurrency : Nat) (startedAt : Instant) (initialFailures : Nat)
    : List StrategyAction × ConcurrencyControlStrategy :=
  if strategy.config.failureRateThreshold ≤ stats.failureRate then
    -- A rollback at once.
    let fallback :=
      max (trialConcurrency - strategy.config.degradationStep) strategy.config.minConcurrency
    strategy.enter (.degraded fallback now) fallback
  else if strategy.config.recoveryObservationPeriod ≤ now - startedAt then
    if recoveryFailureRate stats initialFailures < strategy.config.failureRateThreshold then
      if trialConcurrency < strategy.initialMaxConcurrency then
        let nextTrial :=
          min (trialConcurrency + strategy.config.recoveryStep) strategy.initialMaxConcurrency
        strategy.enter (.recovering nextTrial now stats.totalFailures) nextTrial
      else
        ([], { strategy with state := .normal })
    else
      let fallback :=
        max (trialConcurrency - strategy.config.recoveryStep) strategy.config.minConcurrency
      strategy.enter (.degraded fallback now) fallback
  else
    ([], strategy)

/-- What the current state makes of the outcomes. -/
def handleState (strategy : ConcurrencyControlStrategy) (context : ConcurrencyControlContext)
    (stats : OutcomeStats) (now : Instant)
    : List StrategyAction × ConcurrencyControlStrategy :=
  match strategy.state with
  | .normal => strategy.handleNormalState context stats now
  | .degraded targetConcurrency degradedAt =>
    strategy.handleDegradedState stats now targetConcurrency degradedAt
  | .recovering trialConcurrency startedAt initialFailures =>
    strategy.handleRecoveringState stats now trialConcurrency startedAt initialFailures

/-- Runners for the first `count` available chunks. -/
def createTasks (context : ConcurrencyControlContext) (count : Nat) : List StrategyAction :=
  (context.availableChunks.take count).map .createTask

/-- Runners for available chunks, as long as fewer are active than allowed. -/
def refill (context : ConcurrencyControlContext) : List StrategyAction :=
  if context.activeRunners < context.maxConcurrency then
    createTasks context (context.maxConcurrency - context.activeRunners)
  else
    []

/-- The actions of a step, with the strategy and the sampler it leaves behind. -/
def step (strategy : ConcurrencyControlStrategy) (context : ConcurrencyControlContext)
    (clock : StepClock)
    : Checked (List StrategyAction × ConcurrencyControlStrategy × RunnerOutcomeSampler) :=
  if strategy.firstExecute then
    .ok (createTasks context context.maxConcurrency, { strategy with firstExecute := false },
      context.sampler)
  else
    match context.sampler.hasRecentUnretryable clock.lookedAt
        strategy.config.unretryableDetectionWindow with
    | (true, sampler) =>
      let (actions, strategy) := strategy.handleImmediateDegradation context clock.now
      .ok (actions, strategy, sampler)
    | (false, sampler) => do
      let (stats, sampler) ← sampler.stats clock.countedAt
      let (actions, strategy) := strategy.handleState context stats clock.now
      pure (if actions.isEmpty then refill context else actions, strategy, sampler)

end ConcurrencyControlStrategy

end BoltLoad
