import BoltLoad.Strategy.ConcurrencyControl

/-! What a step of the concurrency control can do: start runners, degrade at once, or move
between its states as the outcomes suggest.
-/

namespace BoltLoad

/-- Whether an action splits a runner's chunk. -/
def StrategyAction.isSplit : StrategyAction → Bool
  | splitAllTask _ | splitGivenTask _ => true
  | _ => false

namespace ConcurrencyControlStrategy

variable {strategy after : ConcurrencyControlStrategy} {context : ConcurrencyControlContext}
  {clock : StepClock} {actions : List StrategyAction}

-----------------------------------------------------------------------------------------
-- The moves between the states
-----------------------------------------------------------------------------------------

/-- What the outcomes of a recovery lead to once it is over, or at once if too many failed. -/
inductive TrialEnds (strategy : ConcurrencyControlStrategy) (stats : OutcomeStats)
    (now : Instant) (trialConcurrency : Nat) (startedAt : Instant) (initialFailures : Nat)
    : List StrategyAction → StrategyState → Prop
  | rollsBackAtOnce {fallback : Nat}
    (fallsBack
      : fallback
        = max (trialConcurrency - strategy.config.degradationStep) strategy.config.minConcurrency)
    (failing : strategy.config.failureRateThreshold ≤ stats.failureRate)
    : TrialEnds strategy stats now trialConcurrency startedAt initialFailures
        [.changeMaxConcurrency fallback] (.degraded fallback now)
  | rollsBack {fallback : Nat}
    (fallsBack
      : fallback
        = max (trialConcurrency - strategy.config.recoveryStep) strategy.config.minConcurrency)
    (observed : strategy.config.recoveryObservationPeriod ≤ now - startedAt)
    (unstable
      : strategy.config.failureRateThreshold ≤ recoveryFailureRate stats initialFailures)
    : TrialEnds strategy stats now trialConcurrency startedAt initialFailures
        [.changeMaxConcurrency fallback] (.degraded fallback now)
  | advances {nextTrial : Nat}
    (goesOn
      : nextTrial
        = min (trialConcurrency + strategy.config.recoveryStep) strategy.initialMaxConcurrency)
    (calm : stats.failureRate < strategy.config.failureRateThreshold)
    (observed : strategy.config.recoveryObservationPeriod ≤ now - startedAt)
    (stable : recoveryFailureRate stats initialFailures < strategy.config.failureRateThreshold)
    (below : trialConcurrency < strategy.initialMaxConcurrency)
    : TrialEnds strategy stats now trialConcurrency startedAt initialFailures
        [.changeMaxConcurrency nextTrial] (.recovering nextTrial now stats.totalFailures)
  | returns (calm : stats.failureRate < strategy.config.failureRateThreshold)
    (observed : strategy.config.recoveryObservationPeriod ≤ now - startedAt)
    (stable : recoveryFailureRate stats initialFailures < strategy.config.failureRateThreshold)
    (full : strategy.initialMaxConcurrency ≤ trialConcurrency)
    : TrialEnds strategy stats now trialConcurrency startedAt initialFailures [] .normal

/-- Everything the outcomes can lead to: the actions, and the next state. -/
inductive Moves (strategy : ConcurrencyControlStrategy) (context : ConcurrencyControlContext)
    (stats : OutcomeStats) (now : Instant)
    : List StrategyAction → StrategyState → Prop
  | stays : Moves strategy context stats now [] strategy.state
  | stepsDown {level : Nat} (normal : strategy.state = .normal)
    (steps
      : level
        = max (context.maxConcurrency - strategy.config.degradationStep)
            strategy.config.minConcurrency)
    (enough : strategy.config.minSamples ≤ stats.total)
    (failing : strategy.config.failureRateThreshold ≤ stats.failureRate)
    (above : strategy.config.minConcurrency < context.maxConcurrency)
    : Moves strategy context stats now [.changeMaxConcurrency level] (.degraded level now)
  | tries {target trial : Nat} {degradedAt : Instant}
    (degraded : strategy.state = .degraded target degradedAt)
    (waited : strategy.config.recoveryDelay ≤ now - degradedAt)
    (quiet : stats.failureRate < strategy.config.failureRateThreshold * (1 / 2))
    (goesOn : trial = min (target + strategy.config.recoveryStep) strategy.initialMaxConcurrency)
    (more : target < trial)
    : Moves strategy context stats now [.changeMaxConcurrency trial]
        (.recovering trial now stats.totalFailures)
  | restored {target : Nat} {degradedAt : Instant}
    (degraded : strategy.state = .degraded target degradedAt)
    (waited : strategy.config.recoveryDelay ≤ now - degradedAt)
    (quiet : stats.failureRate < strategy.config.failureRateThreshold * (1 / 2))
    (full : min (target + strategy.config.recoveryStep) strategy.initialMaxConcurrency ≤ target)
    : Moves strategy context stats now [] .normal
  | trialEnds {trialConcurrency initialFailures : Nat} {startedAt : Instant}
    {actions : List StrategyAction} {state : StrategyState}
    (recovering : strategy.state = .recovering trialConcurrency startedAt initialFailures)
    (ends
      : TrialEnds strategy stats now trialConcurrency startedAt initialFailures actions state)
    : Moves strategy context stats now actions state

theorem handleRecoveringState_cases {stats : OutcomeStats} {now startedAt : Instant}
    {trialConcurrency initialFailures : Nat}
    : strategy.handleRecoveringState stats now trialConcurrency startedAt initialFailures
        = ([], strategy)
      ∨ ∃ actions state,
          strategy.handleRecoveringState stats now trialConcurrency startedAt initialFailures
            = (actions, { strategy with state })
          ∧ TrialEnds strategy stats now trialConcurrency startedAt initialFailures actions
              state := by
  unfold handleRecoveringState
  split
  · rename_i failing
    exact Or.inr ⟨_, _, rfl, .rollsBackAtOnce rfl failing⟩
  rename_i calm
  split
  · rename_i observed
    split
    · rename_i stable
      split
      · rename_i below
        exact Or.inr ⟨_, _, rfl, .advances rfl (not_le.mp calm) observed stable below⟩
      · rename_i full
        exact Or.inr ⟨_, _, rfl, .returns (not_le.mp calm) observed stable (not_lt.mp full)⟩
    · rename_i unstable
      exact Or.inr ⟨_, _, rfl, .rollsBack rfl observed (not_lt.mp unstable)⟩
  · exact Or.inl rfl

/-- The handler of a state does what is listed, by cases on the state. -/
theorem handleState_moves (strategy : ConcurrencyControlStrategy)
    (context : ConcurrencyControlContext) (stats : OutcomeStats) (now : Instant)
    : ∃ actions state,
        strategy.handleState context stats now = (actions, { strategy with state })
        ∧ strategy.Moves context stats now actions state := by
  unfold handleState
  split
  · rename_i normal
    unfold handleNormalState
    split
    · exact ⟨_, _, rfl, .stays⟩
    rename_i enough
    split
    · rename_i degrades
      exact ⟨_, _, rfl, .stepsDown normal rfl (not_lt.mp enough) degrades.1 degrades.2⟩
    · exact ⟨_, _, rfl, .stays⟩
  · rename_i target degradedAt degraded
    unfold handleDegradedState
    split
    · exact ⟨_, _, rfl, .stays⟩
    rename_i waited
    split
    · rename_i quiet
      dsimp only
      split
      · rename_i more
        exact ⟨_, _, rfl, .tries degraded (not_lt.mp waited) quiet rfl more⟩
      · rename_i full
        exact ⟨_, _, rfl, .restored degraded (not_lt.mp waited) quiet (not_lt.mp full)⟩
    · exact ⟨_, _, rfl, .stays⟩
  · rename_i trialConcurrency startedAt initialFailures recovering
    rcases @handleRecoveringState_cases strategy stats now startedAt trialConcurrency
        initialFailures with same | ⟨actions, state, handled, ends⟩
    · exact ⟨_, _, same, .stays⟩
    · exact ⟨actions, state, handled, .trialEnds recovering ends⟩

-----------------------------------------------------------------------------------------
-- A step
-----------------------------------------------------------------------------------------

/-- The concurrency an immediate degradation asks for. -/
def degradedLevel (strategy : ConcurrencyControlStrategy) (context : ConcurrencyControlContext)
    : Nat :=
  max (max context.activeRunners strategy.config.minConcurrency) 1

/-- Everything a step can do: its actions, and the strategy and the sampler afterwards. -/
inductive Steps (strategy : ConcurrencyControlStrategy) (context : ConcurrencyControlContext)
    (clock : StepClock)
    : List StrategyAction → ConcurrencyControlStrategy → RunnerOutcomeSampler → Prop
  | first (first : strategy.firstExecute = true)
    : Steps strategy context clock (createTasks context context.maxConcurrency)
        { strategy with firstExecute := false } context.sampler
  | degrades {sampler : RunnerOutcomeSampler} (started : strategy.firstExecute = false)
    (recent
      : context.sampler.hasRecentUnretryable clock.lookedAt
          strategy.config.unretryableDetectionWindow
        = (true, sampler))
    : Steps strategy context clock [.changeMaxConcurrency (strategy.degradedLevel context)]
        { strategy with state := .degraded (strategy.degradedLevel context) clock.now } sampler
  | moves {sampler counted : RunnerOutcomeSampler} {stats : OutcomeStats}
    {actions : List StrategyAction} {state : StrategyState}
    (started : strategy.firstExecute = false)
    (quiet
      : context.sampler.hasRecentUnretryable clock.lookedAt
          strategy.config.unretryableDetectionWindow
        = (false, sampler))
    (counts : sampler.stats clock.countedAt = .ok (stats, counted))
    (handled : strategy.handleState context stats clock.now = (actions, { strategy with state }))
    (moves : strategy.Moves context stats clock.now actions state)
    : Steps strategy context clock (if actions.isEmpty then refill context else actions)
        { strategy with state } counted

theorem step_steps {sampler : RunnerOutcomeSampler}
    (stepped : strategy.step context clock = .ok (actions, after, sampler))
    : strategy.Steps context clock actions after sampler := by
  unfold step at stepped
  split at stepped
  · rename_i first
    cases stepped
    exact .first first
  rename_i later
  have started := eq_false_of_ne_true later
  split at stepped
  · rename_i recent
    cases stepped
    exact .degrades started recent
  · rename_i quiet
    obtain ⟨⟨stats, counted⟩, counts, same⟩ := Checked.bind_eq_ok.mp stepped
    obtain ⟨moved, state, handled, moves⟩ :=
      strategy.handleState_moves context stats clock.now
    simp only [handled] at same
    cases same
    exact .moves started quiet counts handled moves

/-- A step that sees a recent unretryable failure degrades at once. -/
theorem step_degrades (started : strategy.firstExecute = false)
    (recent
      : (context.sampler.hasRecentUnretryable clock.lookedAt
          strategy.config.unretryableDetectionWindow).1
        = true)
    : ∃ sampler,
        strategy.step context clock
        = .ok ([.changeMaxConcurrency (strategy.degradedLevel context)],
            { strategy with state := .degraded (strategy.degradedLevel context) clock.now },
            sampler) := by
  cases looked : context.sampler.hasRecentUnretryable clock.lookedAt
      strategy.config.unretryableDetectionWindow with
  | mk found sampler =>
      rw [looked] at recent
      cases recent
      refine ⟨sampler, ?_⟩
      rw [step, if_neg (by simp [started]), looked]
      rfl

-----------------------------------------------------------------------------------------
-- What a step leaves alone
-----------------------------------------------------------------------------------------

theorem Steps.configured {sampler : RunnerOutcomeSampler}
    (steps : strategy.Steps context clock actions after sampler)
    : after.config = strategy.config
      ∧ after.initialMaxConcurrency = strategy.initialMaxConcurrency := by
  cases steps <;> exact ⟨rfl, rfl⟩

end ConcurrencyControlStrategy

end BoltLoad
