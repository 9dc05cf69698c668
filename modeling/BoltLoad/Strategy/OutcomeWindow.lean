import BoltLoad.Library.SlidingWindow
import BoltLoad.Strategy.Trials

/-! The outcome sampler over every sequence of its calls: when the clock makes one of them
panic, and which records the window counts when none does.
-/

namespace BoltLoad

/-- A call of the sampler, with its reading of the clock. -/
inductive SamplerCall
  | record (now : Instant) (outcome : RunnerOutcome)
  | stats (now : Instant)
  deriving DecidableEq

namespace SamplerCall

def now : SamplerCall → Instant
  | record now _ => now
  | stats now => now

def recorded : SamplerCall → Option OutcomeRecord
  | record now outcome => some ⟨now, outcome⟩
  | stats _ => none

end SamplerCall

/-- The records these calls make. -/
def recordsOf (calls : List SamplerCall) : List OutcomeRecord :=
  calls.filterMap SamplerCall.recorded

namespace RunnerOutcomeSampler

def perform (sampler : RunnerOutcomeSampler) : SamplerCall → Checked RunnerOutcomeSampler
  | .record now outcome => sampler.record now outcome
  | .stats now => do
    let (_, sampler) ← sampler.stats now
    pure sampler

/-- The calls one after the other. -/
def performAll : RunnerOutcomeSampler → List SamplerCall → Checked RunnerOutcomeSampler
  | sampler, [] => pure sampler
  | sampler, call :: rest => do
    let sampler ← sampler.perform call
    performAll sampler rest

-----------------------------------------------------------------------------------------
-- The clock
-----------------------------------------------------------------------------------------

variable {sampler after : RunnerOutcomeSampler}

/-- The sampler with the records of this cutoff on. -/
def expired (sampler : RunnerOutcomeSampler) (cutoff : Instant) : RunnerOutcomeSampler :=
  { sampler with
    records := sampler.records.dropWhile (fun record => decide (record.timestamp < cutoff)) }

theorem cleanupExpired_eq (sampler : RunnerOutcomeSampler) (now : Instant)
    : sampler.cleanupExpired now
      = if sampler.timeWindow ≤ now then
          .ok (sampler.expired (now - sampler.timeWindow))
        else
          .error (.expect clockMessage) := by
  unfold cleanupExpired
  split <;> rfl

/-- A call panics exactly when the clock has not run for a time window yet. -/
theorem perform_cases (sampler : RunnerOutcomeSampler) (call : SamplerCall)
    : (∃ after,
          sampler.perform call = .ok after
          ∧ after.timeWindow = sampler.timeWindow
          ∧ after.maxRecords = sampler.maxRecords
          ∧ sampler.timeWindow ≤ call.now)
      ∨ sampler.perform call = .error (.expect clockMessage)
        ∧ call.now < sampler.timeWindow := by
  cases call with
  | record now outcome => exact sampler.record_cases now outcome
  | stats now =>
      by_cases elapsed : sampler.timeWindow ≤ now
      · refine Or.inl ⟨sampler.expired (now - sampler.timeWindow), ?_, rfl, rfl, elapsed⟩
        simp only [perform, stats, cleanupExpired_eq, if_pos elapsed]
        rfl
      · refine Or.inr ⟨?_, not_le.mp elapsed⟩
        simp only [perform, stats, cleanupExpired_eq, if_neg elapsed]
        rfl

/-- Calls panic, with the message of the clock, exactly when one of them comes too early. By
induction on the calls.
-/
theorem performAll_cases (sampler : RunnerOutcomeSampler) (calls : List SamplerCall)
    : ((∃ after, sampler.performAll calls = .ok after)
        ∧ ∀ call ∈ calls, sampler.timeWindow ≤ call.now)
      ∨ sampler.performAll calls = .error (.expect clockMessage)
        ∧ ∃ call ∈ calls, call.now < sampler.timeWindow := by
  induction calls generalizing sampler with
  | nil => exact Or.inl ⟨⟨sampler, rfl⟩, (fun _ never => by cases never)⟩
  | cons call rest ih =>
      rcases sampler.perform_cases call with ⟨middle, performed, window, -, late⟩ | ⟨panics, early⟩
      · simp only [performAll, performed, Checked.ok_bind]
        rcases window ▸ ih middle with ⟨done, laters⟩ | ⟨panics, later, member, early⟩
        · exact Or.inl ⟨done, List.forall_mem_cons.mpr ⟨late, laters⟩⟩
        · exact Or.inr ⟨panics, later, List.mem_cons_of_mem _ member, early⟩
      · refine Or.inr ⟨?_, call, List.mem_cons_self, early⟩
        simp only [performAll, panics, Checked.error_bind]

/-- Calls of a new sampler do not panic exactly when the clock has run for a time window at
each of them.
-/
theorem performs_iff (timeWindow : Duration) (maxRecords : Nat) (calls : List SamplerCall)
    : (∃ after, (new timeWindow maxRecords).performAll calls = .ok after)
      ↔ ∀ call ∈ calls, timeWindow ≤ call.now := by
  rcases (new timeWindow maxRecords).performAll_cases calls with ⟨done, late⟩ | ⟨panics, early⟩
  · exact iff_of_true done late
  · obtain ⟨call, member, early⟩ := early
    refine iff_of_false ?_ (fun late => absurd (late call member) (not_le.mpr early))
    rintro ⟨after, done⟩
    cases panics.symm.trans done

/-- Five seconds after the clock started, the default sampler panics. -/
theorem performs_early
    : ¬ (∀ (timeWindow : Duration) (maxRecords : Nat) (calls : List SamplerCall),
          (calls.map SamplerCall.now).Pairwise (· ≤ ·)
          → ∃ after, (new timeWindow maxRecords).performAll calls = .ok after) := by
  intro performs
  obtain ⟨after, done⟩ := performs (seconds 60) 100 [.stats (seconds 5)]
    (List.pairwise_singleton _ _)
  cases done

-----------------------------------------------------------------------------------------
-- The window
-----------------------------------------------------------------------------------------

open SlidingWindow

/-- The records of an instant on. -/
def since (cutoff : Instant) (record : OutcomeRecord) : Bool := decide (cutoff ≤ record.timestamp)

/-- The records are in the order of the clock, and none is later than its last reading. -/
structure Recorded (history : List OutcomeRecord) (now : Instant) : Prop where
  ordered : history.Pairwise (fun earlier later => earlier.timestamp ≤ later.timestamp)
  past : ∀ record ∈ history, record.timestamp ≤ now

/-- The deque is the window of some cutoff over the history. -/
structure Holds (timeWindow : Duration) (maxRecords : Nat) (history : List OutcomeRecord)
    (now : Instant) (sampler : RunnerOutcomeSampler) : Prop where
  window : sampler.timeWindow = timeWindow
  cap : sampler.maxRecords = maxRecords
  recorded : Recorded history now
  records : ∃ cutoff ≤ now - timeWindow, sampler.records = held maxRecords (since cutoff) history

variable {timeWindow : Duration} {maxRecords : Nat} {history : List OutcomeRecord}
  {now later cutoff : Instant}

theorem Recorded.settles (recorded : Recorded history now) (cutoff : Instant)
    : Settles (since cutoff) history := by
  refine recorded.ordered.imp (fun {earlier later} le keeps => ?_)
  exact decide_eq_true ((of_decide_eq_true keeps).trans le)

theorem Recorded.concat (recorded : Recorded history now) (forward : now ≤ later)
    (outcome : RunnerOutcome)
    : Recorded (history ++ [⟨later, outcome⟩]) later where
  ordered := by
    refine List.pairwise_append.mpr
      ⟨recorded.ordered, List.pairwise_singleton _ _, fun record member last isLast => ?_⟩
    cases List.mem_singleton.mp isLast
    exact (recorded.past record member).trans forward
  past := by
    intro record member
    rcases List.mem_append.mp member with before | last
    · exact (recorded.past record before).trans forward
    · cases List.mem_singleton.mp last
      exact Nat.le_refl later

/-- Expiring the deque moves its cutoff. -/
theorem Holds.expired (holds : sampler.Holds timeWindow maxRecords history now)
    (forward : now ≤ later)
    : (sampler.expired (later - timeWindow)).records
      = held maxRecords (since (later - timeWindow)) history := by
  obtain ⟨cutoff, early, records⟩ := holds.records
  have expires : (fun record : OutcomeRecord => decide (record.timestamp < later - timeWindow))
      = (fun record => !since (later - timeWindow) record) := by
    funext record
    rw [since, ← decide_not, decide_eq_decide, not_le]
  have implies : ∀ record ∈ history,
      since (later - timeWindow) record = true → since cutoff record = true := by
    intro record _ keeps
    have moved : now - timeWindow ≤ later - timeWindow := Nat.sub_le_sub_right forward _
    exact decide_eq_true ((early.trans moved).trans (of_decide_eq_true keeps))
  simp only [RunnerOutcomeSampler.expired, expires, records]
  exact (holds.recorded.settles _).expire implies

theorem Holds.cleans (holds : sampler.Holds timeWindow maxRecords history now)
    (late : timeWindow ≤ later)
    : sampler.cleanupExpired later = .ok (sampler.expired (later - timeWindow)) := by
  rw [cleanupExpired_eq, holds.window, if_pos late]

/-- A call keeps the deque the window over the records made so far. -/
theorem Holds.perform (holds : sampler.Holds timeWindow maxRecords history now)
    {call : SamplerCall} (forward : now ≤ call.now) (late : timeWindow ≤ call.now)
    : ∃ after,
        sampler.perform call = .ok after
        ∧ after.Holds timeWindow maxRecords (history ++ recordsOf [call]) call.now := by
  have expired := holds.expired forward
  have cleans := holds.cleans late
  cases call with
  | stats reading =>
      dsimp only [SamplerCall.now] at forward expired cleans
      refine ⟨sampler.expired (reading - timeWindow), ?_, holds.window, holds.cap, ?_, ?_⟩
      · simp only [RunnerOutcomeSampler.perform, stats, cleans]
        rfl
      · rw [recordsOf, List.filterMap_cons_none rfl, List.filterMap_nil, List.append_nil]
        exact ⟨holds.recorded.ordered,
          fun record member => (holds.recorded.past record member).trans forward⟩
      · rw [recordsOf, List.filterMap_cons_none rfl, List.filterMap_nil, List.append_nil]
        exact ⟨_, Nat.le_refl _, expired⟩
  | record reading outcome =>
      dsimp only [SamplerCall.now] at forward expired cleans
      let last : OutcomeRecord := ⟨reading, outcome⟩
      have recorded := holds.recorded.concat forward outcome
      have young : since (reading - timeWindow) last = true := decide_eq_true (Nat.sub_le _ _)
      have pushed := @held_push _ maxRecords _ history _ young
      let after : RunnerOutcomeSampler :=
        { sampler with
          records := ((sampler.expired (reading - timeWindow)).records ++ [last]).rtake maxRecords
          lastUnretryableAt :=
            if outcome.isUnretryable then some reading else sampler.lastUnretryableAt }
      refine ⟨after, ?_, holds.window, holds.cap, recorded, reading - timeWindow,
        Nat.le_refl _, ?_⟩
      · simp only [RunnerOutcomeSampler.perform, record, cleans, Checked.ok_bind, after,
          List.rtake, ← holds.cap]
        rfl
      · simp only [after, expired]
        exact pushed

/-- By induction on the calls. -/
theorem Holds.performAll {calls : List SamplerCall}
    (holds : sampler.Holds timeWindow maxRecords history now)
    (forward : (now :: calls.map SamplerCall.now).Pairwise (· ≤ ·))
    (late : ∀ call ∈ calls, timeWindow ≤ call.now)
    : ∃ after reading,
        sampler.performAll calls = .ok after
        ∧ (now :: calls.map SamplerCall.now).getLast? = some reading
        ∧ after.Holds timeWindow maxRecords (history ++ recordsOf calls) reading := by
  induction calls generalizing sampler history now with
  | nil =>
      refine ⟨sampler, now, rfl, rfl, ?_⟩
      rw [recordsOf, List.filterMap_nil, List.append_nil]
      exact holds
  | cons call rest ih =>
      obtain ⟨first, forward⟩ := List.pairwise_cons.mp forward
      obtain ⟨middle, performed, holds⟩ :=
        holds.perform (first call.now List.mem_cons_self) (late call List.mem_cons_self)
      obtain ⟨after, reading, done, last, holds⟩ :=
        ih holds forward (fun later member => late later (List.mem_cons_of_mem _ member))
      refine ⟨after, reading, ?_, ?_, ?_⟩
      · simp only [RunnerOutcomeSampler.performAll, performed, Checked.ok_bind, done]
      · rw [List.map_cons, List.getLast?_cons_cons]
        exact last
      · have split : recordsOf (call :: rest) = recordsOf [call] ++ recordsOf rest :=
          @List.filterMap_append _ _ [call] rest _
        rwa [List.append_assoc, ← split] at holds

/-- A new sampler holds the window over no record. -/
theorem Holds.new (timeWindow : Duration) (maxRecords : Nat)
    : (new timeWindow maxRecords).Holds timeWindow maxRecords [] 0 where
  window := rfl
  cap := rfl
  recorded := ⟨List.Pairwise.nil, (fun _ never => by cases never)⟩
  records := by
    refine ⟨0, Nat.zero_le _, ?_⟩
    rw [held, List.filter_nil, List.rtake_nil]
    rfl

-----------------------------------------------------------------------------------------
-- The counts
-----------------------------------------------------------------------------------------

end RunnerOutcomeSampler

/-- The statistics of these records, one category at a time. -/
structure OutcomeStats.Counts (stats : OutcomeStats) (records : List OutcomeRecord) : Prop where
  total : stats.total = records.length
  completed : stats.completed = records.countP (·.outcome == .completed)
  connectFailedRetryable
    : stats.connectFailedRetryable = records.countP (·.outcome == .connectFailed .retryable)
  connectFailedUnretryable
    : stats.connectFailedUnretryable = records.countP (·.outcome == .connectFailed .unretryable)
  streamClosedRetryable
    : stats.streamClosedRetryable = records.countP (·.outcome == .streamClosed .retryable)
  streamClosedUnretryable
    : stats.streamClosedUnretryable = records.countP (·.outcome == .streamClosed .unretryable)

namespace OutcomeStats

variable {stats : OutcomeStats} {records : List OutcomeRecord}

theorem Counts.concat (counts : stats.Counts records) (record : OutcomeRecord)
    : (stats.count record).Counts (records ++ [record]) := by
  obtain ⟨total, completed, connectRetryable, connectUnretryable, streamRetryable,
    streamUnretryable⟩ := counts
  obtain ⟨timestamp, outcome⟩ := record
  rcases outcome with - | ⟨- | -⟩ | ⟨- | -⟩ <;>
    exact ⟨by simp [OutcomeStats.count, total], by simp [OutcomeStats.count, completed],
      by simp [OutcomeStats.count, connectRetryable],
      by simp [OutcomeStats.count, connectUnretryable],
      by simp [OutcomeStats.count, streamRetryable],
      by simp [OutcomeStats.count, streamUnretryable]⟩

/-- By induction on the records from the last one on. -/
theorem counts_ofRecords (records : List OutcomeRecord) : (ofRecords records).Counts records := by
  induction records using List.reverseRecOn with
  | nil => exact ⟨rfl, rfl, rfl, rfl, rfl, rfl⟩
  | append_singleton records record ih =>
      rw [ofRecords, List.foldl_append]
      exact ih.concat record

/-- Every record belongs to one category. -/
theorem categories_ofRecords (records : List OutcomeRecord)
    : (ofRecords records).completed + (ofRecords records).connectFailedRetryable
        + (ofRecords records).connectFailedUnretryable
        + (ofRecords records).streamClosedRetryable
        + (ofRecords records).streamClosedUnretryable
      = (ofRecords records).total := by
  induction records using List.reverseRecOn with
  | nil => rfl
  | append_singleton records record ih =>
      rw [ofRecords, List.foldl_append]
      change _ = (((ofRecords records).count record).total)
      obtain ⟨timestamp, outcome⟩ := record
      rcases outcome with - | ⟨- | -⟩ | ⟨- | -⟩ <;>
        simp only [OutcomeStats.count, List.foldl_cons, List.foldl_nil, ofRecords] at ih ⊢ <;>
        omega

end OutcomeStats

namespace RunnerOutcomeSampler

/-- What a call of `stats` counts. -/
structure StatsExact (timeWindow : Duration) (maxRecords : Nat) (history : List OutcomeRecord)
    (now : Instant) (stats : OutcomeStats) : Prop where
  counts
    : stats.Counts
        ((history.rtake maxRecords).filter
          (fun record => decide (now - timeWindow ≤ record.timestamp)))
  categories
    : stats.completed + stats.connectFailedRetryable + stats.connectFailedUnretryable
        + stats.streamClosedRetryable + stats.streamClosedUnretryable
      = stats.total
  failures : stats.completed ≤ stats.total

/-- After any calls, the statistics count the last records made that are not older than the
time window, and no other.
-/
theorem stats_exact (timeWindow : Duration) (maxRecords : Nat) (calls : List SamplerCall)
    (now : Instant) (forward : (calls.map SamplerCall.now ++ [now]).Pairwise (· ≤ ·))
    (late : ∀ reading ∈ calls.map SamplerCall.now ++ [now], timeWindow ≤ reading)
    : ∃ sampler stats after,
        (new timeWindow maxRecords).performAll calls = .ok sampler
        ∧ sampler.stats now = .ok (stats, after)
        ∧ StatsExact timeWindow maxRecords (recordsOf calls) now stats := by
  obtain ⟨ordered, -, before⟩ := List.pairwise_append.mp forward
  have started : (0 :: calls.map SamplerCall.now).Pairwise (· ≤ ·) :=
    List.pairwise_cons.mpr ⟨fun _ _ => Nat.zero_le _, ordered⟩
  obtain ⟨sampler, reading, performed, last, holds⟩ :=
    (Holds.new timeWindow maxRecords).performAll started
      (fun call member => late call.now (List.mem_append_left _ (List.mem_map_of_mem member)))
  have past : reading ≤ now := by
    rcases List.mem_cons.mp (List.mem_of_getLast? last) with isZero | member
    · exact isZero ▸ Nat.zero_le now
    · exact before reading member now List.mem_cons_self
  rw [List.nil_append] at holds
  have cleans := holds.cleans (late now (List.mem_append_right _ List.mem_cons_self))
  have counted : (sampler.expired (now - timeWindow)).records
      = ((recordsOf calls).rtake maxRecords).filter
          (fun record => decide (now - timeWindow ≤ record.timestamp)) :=
    (holds.expired past).trans (holds.recorded.settles _).held_eq
  refine ⟨sampler, .ofRecords (sampler.expired (now - timeWindow)).records,
    sampler.expired (now - timeWindow), performed, ?_, ?_⟩
  · simp only [stats, cleans]
    rfl
  · rw [counted]
    refine ⟨OutcomeStats.counts_ofRecords _, OutcomeStats.categories_ofRecords _, ?_⟩
    have sum := OutcomeStats.categories_ofRecords (((recordsOf calls).rtake maxRecords).filter
      (fun record => decide (now - timeWindow ≤ record.timestamp)))
    omega

/-- Of three records the first is beyond the cap and the second too old. -/
theorem stats_exact_last
    : ∃ sampler stats after,
        (new 10 2).performAll
            [.record 20 .completed, .record 25 .completed, .stats 26,
              .record 26 (.connectFailed .retryable)]
          = .ok sampler
        ∧ sampler.stats 36 = .ok (stats, after)
        ∧ StatsExact 10 2
            [⟨20, .completed⟩, ⟨25, .completed⟩, ⟨26, .connectFailed .retryable⟩] 36 stats :=
  stats_exact 10 2
    [.record 20 .completed, .record 25 .completed, .stats 26,
      .record 26 (.connectFailed .retryable)]
    36 (by decide) (by decide)

end RunnerOutcomeSampler

end BoltLoad
