import BoltLoad.Strategy.Levels

/-! The decision at the end of a recovery's trial. The strategy judges the trial by the sliding
window, less the failures there were when it began; a ghost history keeps every outcome, and
with it the outcomes of the trial alone.
-/

namespace BoltLoad

open ConcurrencyControlStrategy StrategyAction

-----------------------------------------------------------------------------------------
-- Counting outcomes
-----------------------------------------------------------------------------------------

def OutcomeRecord.isFailure (record : OutcomeRecord) : Bool := record.outcome != .completed

/-- The statistics of a list of records. -/
def OutcomeStats.ofRecords (records : List OutcomeRecord) : OutcomeStats :=
  records.foldl OutcomeStats.count .empty

/-- Less than three in ten failed, or there was none. -/
def LowRate (failures total : Nat) : Prop := 10 * failures < 3 * total ∨ total = 0

namespace OutcomeStats

end OutcomeStats

-----------------------------------------------------------------------------------------
-- Runs with outcomes
-----------------------------------------------------------------------------------------

/-- The concurrency control with the sampler it reads, and every outcome recorded so far. -/
structure SampledRun where
  control : ControlRun
  sampler : RunnerOutcomeSampler
  history : List OutcomeRecord

inductive SampledEvent
  | record (now : Instant) (outcome : RunnerOutcome)
  | tick (activeRunners : Nat) (availableChunks : List Range) (clock : StepClock)

namespace SampledRun

def new (initialMaxConcurrency : Nat) : SampledRun where
  control := .new .default initialMaxConcurrency
  sampler := .withDefaults
  history := []

def observation (run : SampledRun) (activeRunners : Nat) (availableChunks : List Range)
    (clock : StepClock)
    : Observation where
  activeRunners := activeRunners
  sampler := run.sampler
  availableChunks := availableChunks
  clock := clock

def next (run : SampledRun) : SampledEvent → Checked SampledRun
  | .record now outcome => do
    let sampler ← run.sampler.record now outcome
    pure { run with sampler, history := run.history ++ [⟨now, outcome⟩] }
  | .tick activeRunners availableChunks clock => do
    let (actions, strategy, sampler) ←
      run.control.strategy.step
        (run.control.context (run.observation activeRunners availableChunks clock)) clock
    pure {
      run with
      control := ⟨strategy, levelAfter actions run.control.maxConcurrency⟩
      sampler }

/-- Outcomes and ticks in any order, at any readings of the clock. -/
def machine (initialMaxConcurrency : Nat) : Machine SampledRun SampledEvent Panic where
  Initial run := 0 < initialMaxConcurrency ∧ run = .new initialMaxConcurrency
  Enabled _ _ := True
  next := next

instance (initialMaxConcurrency : Nat) (run : SampledRun) (event : SampledEvent)
    : Decidable ((machine initialMaxConcurrency).Enabled run event) :=
  inferInstanceAs (Decidable True)

variable {initialMaxConcurrency : Nat} {run after : SampledRun}

/-- The outcomes recorded since a trial began. -/
def trialOutcomes (run : SampledRun) (startedAt : Instant) : List OutcomeRecord :=
  run.history.filter (fun record => decide (startedAt ≤ record.timestamp))

/-- The records a tick counts: those that are not older than the time window. -/
def window (run : SampledRun) (clock : StepClock) : List OutcomeRecord :=
  run.sampler.records.dropWhile
    (fun record => decide (record.timestamp < clock.countedAt - run.sampler.timeWindow))

/-- The rates the window shows, of all its records and of those that the initial failures are
taken out of, are both low exactly when the rate of the trial is.
-/
def Shows (run : SampledRun) (clock : StepClock) (startedAt : Instant) (initialFailures : Nat)
    : Prop :=
  let failures := (run.window clock).countP OutcomeRecord.isFailure
  let total := (run.window clock).length
  let trial := run.trialOutcomes startedAt
  LowRate failures total ∧ LowRate (failures - initialFailures) (total - initialFailures)
  ↔ LowRate (trial.countP OutcomeRecord.isFailure) trial.length

/-- A window of nothing but the trial's outcomes shows them. -/
theorem shows_of_own_window {clock : StepClock} {startedAt : Instant}
    (own : run.window clock = run.trialOutcomes startedAt)
    : run.Shows clock startedAt 0 := by
  simp only [Shows, own, Nat.sub_zero, and_self]

end SampledRun

end BoltLoad
