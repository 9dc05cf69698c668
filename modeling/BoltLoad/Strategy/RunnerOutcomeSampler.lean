import BoltLoad.Rust.Checked

/-! The sliding window over the outcomes of runners. An instant is the number of nanoseconds
since the origin of the clock, before which no instant can be represented; a reading of the
clock is an argument.
-/

namespace BoltLoad

abbrev Instant := Nat

abbrev Duration := Nat

/-- `Duration::from_secs`. -/
def seconds (count : Nat) : Duration := count * 1000000000

inductive RunnerFailureKind
  | retryable
  | unretryable
  deriving DecidableEq, Repr

inductive RunnerOutcome
  | completed
  | connectFailed (kind : RunnerFailureKind)
  | streamClosed (kind : RunnerFailureKind)
  deriving DecidableEq, Repr

def RunnerOutcome.isUnretryable : RunnerOutcome → Bool
  | connectFailed .unretryable | streamClosed .unretryable => true
  | _ => false

structure OutcomeRecord where
  timestamp : Instant
  outcome : RunnerOutcome
  deriving DecidableEq, Repr

structure OutcomeStats where
  total : Nat
  completed : Nat
  connectFailedRetryable : Nat
  connectFailedUnretryable : Nat
  streamClosedRetryable : Nat
  streamClosedUnretryable : Nat
  deriving DecidableEq, Repr

structure RunnerOutcomeSampler where
  records : List OutcomeRecord
  timeWindow : Duration
  maxRecords : Nat
  lastUnretryableAt : Option Instant
  deriving DecidableEq, Repr

namespace OutcomeStats

def empty : OutcomeStats := ⟨0, 0, 0, 0, 0, 0⟩

/-- One turn of the loop of `stats`. -/
def count (stats : OutcomeStats) (record : OutcomeRecord) : OutcomeStats :=
  let stats := { stats with total := stats.total + 1 }
  match record.outcome with
  | .completed => { stats with completed := stats.completed + 1 }
  | .connectFailed .retryable =>
    { stats with connectFailedRetryable := stats.connectFailedRetryable + 1 }
  | .connectFailed .unretryable =>
    { stats with connectFailedUnretryable := stats.connectFailedUnretryable + 1 }
  | .streamClosed .retryable =>
    { stats with streamClosedRetryable := stats.streamClosedRetryable + 1 }
  | .streamClosed .unretryable =>
    { stats with streamClosedUnretryable := stats.streamClosedUnretryable + 1 }

/-- The completed runners are some of all runners, so this never underflows. -/
def totalFailures (stats : OutcomeStats) : Nat := stats.total - stats.completed

/-- The failure rate, exactly. With at most a hundred records the source's `f64` quotient
compares with the thresholds as the exact one does.
-/
def failureRate (stats : OutcomeStats) : Rat :=
  if stats.total = 0 then 0 else (stats.totalFailures : Rat) / stats.total

end OutcomeStats

namespace RunnerOutcomeSampler

def new (timeWindow : Duration) (maxRecords : Nat) : RunnerOutcomeSampler where
  records := []
  timeWindow := timeWindow
  maxRecords := maxRecords
  lastUnretryableAt := none

def withDefaults : RunnerOutcomeSampler := new (seconds 60) 100

/-- The message of a clock reading within the first time window. -/
def clockMessage : String := "overflow when subtracting duration from instant"

/-- Forget the records older than the time window. -/
def cleanupExpired (sampler : RunnerOutcomeSampler) (now : Instant)
    : Checked RunnerOutcomeSampler := do
  let cutoff ← Checked.expect
    (if sampler.timeWindow ≤ now then some (now - sampler.timeWindow) else none) clockMessage
  pure { sampler with
    records := sampler.records.dropWhile (fun record => decide (record.timestamp < cutoff)) }

def record (sampler : RunnerOutcomeSampler) (now : Instant) (outcome : RunnerOutcome)
    : Checked RunnerOutcomeSampler := do
  let sampler ← sampler.cleanupExpired now
  let records := sampler.records ++ [⟨now, outcome⟩]
  pure { sampler with
    lastUnretryableAt := if outcome.isUnretryable then some now else sampler.lastUnretryableAt
    records := records.drop (records.length - sampler.maxRecords) }

def recordCompleted (sampler : RunnerOutcomeSampler) (now : Instant)
    : Checked RunnerOutcomeSampler :=
  sampler.record now .completed

def recordConnectFailed (sampler : RunnerOutcomeSampler) (now : Instant)
    (kind : RunnerFailureKind)
    : Checked RunnerOutcomeSampler :=
  sampler.record now (.connectFailed kind)

def recordStreamClosed (sampler : RunnerOutcomeSampler) (now : Instant)
    (kind : RunnerFailureKind)
    : Checked RunnerOutcomeSampler :=
  sampler.record now (.streamClosed kind)

def stats (sampler : RunnerOutcomeSampler) (now : Instant)
    : Checked (OutcomeStats × RunnerOutcomeSampler) := do
  let sampler ← sampler.cleanupExpired now
  pure (sampler.records.foldl OutcomeStats.count .empty, sampler)

/-- Whether an unretryable failure occurred within the given time; it is reported once. -/
def hasRecentUnretryable (sampler : RunnerOutcomeSampler) (now : Instant) (within : Duration)
    : Bool × RunnerOutcomeSampler :=
  match sampler.lastUnretryableAt with
  | some last =>
    if now - last ≤ within then
      (true, { sampler with lastUnretryableAt := none })
    else
      (false, sampler)
  | none => (false, sampler)

/-- Recording succeeds, or panics on a clock that has not run for a time window yet. -/
theorem record_cases (sampler : RunnerOutcomeSampler) (now : Instant) (outcome : RunnerOutcome)
    : (∃ after, sampler.record now outcome = .ok after
        ∧ after.timeWindow = sampler.timeWindow
        ∧ after.maxRecords = sampler.maxRecords
        ∧ sampler.timeWindow ≤ now)
      ∨ sampler.record now outcome = .error (.expect clockMessage) ∧ now < sampler.timeWindow := by
  by_cases elapsed : sampler.timeWindow ≤ now
  · simp only [record, cleanupExpired, elapsed, if_true, Checked.expect_some, Checked.ok_bind]
    exact Or.inl ⟨_, rfl, rfl, rfl, trivial⟩
  · refine Or.inr ⟨?_, not_le.mp elapsed⟩
    simp only [record, cleanupExpired, elapsed, if_false, Checked.expect_none, Checked.error_bind]

end RunnerOutcomeSampler

end BoltLoad
