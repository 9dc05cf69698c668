import BoltLoad.DownloadLoop.Runs
import BoltLoad.Transfer.Failures

/-! When the loop gives up. The runs of the loop are told with the events it handled and when:
a clock that never goes back. The retry budget is what failed since the last write, the
progress budget the time since the last chunk, whatever order the events come in.
-/

namespace BoltLoad

-----------------------------------------------------------------------------------------
-- The budgets of a history
-----------------------------------------------------------------------------------------

/-- A non-empty range was written. -/
def WriteCompletion.wrote (completion : WriteCompletion) : Bool :=
  !completion.failed && decide (completion.range.start < completion.range.stop)

namespace LoopEvent

/-- The failed attempt a tick reports. -/
def failure : LoopEvent → Option AttemptFailure
  | runner tick => tick.failure
  | _ => none

/-- A retryable failure. -/
def retries (event : LoopEvent) : Bool := event.failure.any AttemptFailure.retryable

/-- A successful non-empty write completed. -/
def writes (event : LoopEvent) : Bool := event.completions.any WriteCompletion.wrote

/-- A non-empty chunk was accepted. -/
def progresses : LoopEvent → Bool
  | runner tick => tick.downloaded.any (fun chunk => chunk.range.start < chunk.range.stop)
  | _ => false

end LoopEvent

/-- An event the loop handled, with the clock as it did. -/
structure Occurrence where
  event : LoopEvent
  now : Instant

/-- The retryable failures since the last successful non-empty write. -/
def spentRetries (history : List Occurrence) : Nat :=
  (history.reverse.takeWhile (fun occurrence => !occurrence.event.writes)).countP
    (fun occurrence => occurrence.event.retries)

/-- The instant of the last non-empty chunk, or of the start. -/
def lastProgress (startedAt : Instant) (history : List Occurrence) : Instant :=
  ((history.reverse.find? (fun occurrence => occurrence.event.progresses)).map
    Occurrence.now).getD startedAt

theorem spentRetries_append (history : List Occurrence) (last : Occurrence)
    : spentRetries (history ++ [last])
      = if last.event.writes then 0
        else spentRetries history + (if last.event.retries then 1 else 0) := by
  rw [spentRetries, List.reverse_append]
  simp only [List.reverse_singleton, List.singleton_append, List.takeWhile_cons]
  cases last.event.writes with
  | true => rfl
  | false => simp [spentRetries, List.countP_cons]

theorem lastProgress_append (startedAt : Instant) (history : List Occurrence)
    (last : Occurrence)
    : lastProgress startedAt (history ++ [last])
      = if last.event.progresses then last.now else lastProgress startedAt history := by
  rw [lastProgress, List.reverse_append]
  simp only [List.reverse_singleton, List.singleton_append, List.find?_cons]
  cases last.event.progresses <;> rfl

-----------------------------------------------------------------------------------------
-- The policy
-----------------------------------------------------------------------------------------

namespace FailurePolicy

/-- The policy holds the budgets of the history. -/
structure Keeps (options : TaskOptions) (startedAt now : Instant) (history : List Occurrence)
    (policy : FailurePolicy) : Prop where
  limit : policy.maxConsecutive = options.maxConsecutiveFailures
  timeout : policy.noProgress = options.noProgressTimeout
  spent : policy.consecutive = spentRetries history
  within : policy.consecutive < policy.maxConsecutive
  progressed : policy.lastProgressAt = lastProgress startedAt history
  past : policy.lastProgressAt ≤ now

variable {options : TaskOptions} {startedAt now later : Instant} {history : List Occurrence}
  {policy : FailurePolicy} {event : LoopEvent}

theorem Keeps.new (valid : options.validate = .ok ())
    : (new options now).Keeps options now now [] where
  limit := rfl
  timeout := rfl
  spent := rfl
  within := (TaskOptions.positive_of_validate valid).2
  progressed := rfl
  past := Nat.le_refl now

/-- The instant the policy gives up at. -/
theorem Keeps.deadline (keeps : policy.Keeps options startedAt now history)
    : policy.deadline = lastProgress startedAt history + options.noProgressTimeout := by
  rw [FailurePolicy.deadline, keeps.progressed, keeps.timeout]

/-- The event spends nothing and restores nothing. -/
theorem Keeps.quiet (keeps : policy.Keeps options startedAt now history) (forward : now ≤ later)
    (noRetry : event.retries = false) (noWrite : event.writes = false)
    (noProgress : event.progresses = false)
    : policy.Keeps options startedAt later (history ++ [⟨event, later⟩]) where
  limit := keeps.limit
  timeout := keeps.timeout
  spent := by simp [spentRetries_append, noWrite, noRetry, keeps.spent]
  within := keeps.within
  progressed := by simp [lastProgress_append, noProgress, keeps.progressed]
  past := Nat.le_trans keeps.past forward

theorem Keeps.onProgress (keeps : policy.Keeps options startedAt now history)
    (noRetry : event.retries = false) (noWrite : event.writes = false)
    (progresses : event.progresses = true)
    : (policy.onProgress later).Keeps options startedAt later (history ++ [⟨event, later⟩]) where
  limit := keeps.limit
  timeout := keeps.timeout
  spent := by simp [spentRetries_append, noWrite, noRetry, FailurePolicy.onProgress, keeps.spent]
  within := keeps.within
  progressed := by simp [lastProgress_append, progresses, FailurePolicy.onProgress]
  past := Nat.le_refl later

theorem Keeps.onWriteOk {written : Nat} (keeps : policy.Keeps options startedAt now history)
    (forward : now ≤ later) (noRetry : event.retries = false)
    (writes : event.writes = true ↔ 0 < written) (noProgress : event.progresses = false)
    : (policy.onWriteOk written).Keeps options startedAt later (history ++ [⟨event, later⟩]) := by
  unfold FailurePolicy.onWriteOk
  split
  · rename_i positive
    have resets := writes.mpr positive
    exact {
      limit := keeps.limit
      timeout := keeps.timeout
      spent := by simp [spentRetries_append, resets]
      within := Nat.zero_lt_of_lt keeps.within
      progressed := by simp [lastProgress_append, noProgress, keeps.progressed]
      past := Nat.le_trans keeps.past forward }
  · rename_i empty
    have noWrite : event.writes = false := eq_false_of_ne_true (fun resets => empty (writes.mp resets))
    exact keeps.quiet forward noRetry noWrite noProgress

/-- Failures do not move the deadline. -/
theorem onFailure_deadline (policy : FailurePolicy) (failure : AttemptFailure) (inFlight : Nat)
    : (policy.onFailure failure inFlight).2.deadline = policy.deadline := by
  unfold FailurePolicy.onFailure
  split <;> rfl

/-- An unretryable failure ends the task, unless it is tolerated. -/
theorem onFailure_unretryable {failure : AttemptFailure} (unretryable : failure.retryable = false)
    (policy : FailurePolicy) (inFlight : Nat)
    : policy.onFailure failure inFlight
      = (if 0 < inFlight ∧ isCongestion failure.error = true then none else some failure.error,
          policy) := by
  simp [FailurePolicy.onFailure, unretryable]

/-- A retryable failure spends one retry; it ends the task if that was the last one. -/
theorem Keeps.onFailure_retryable {failure : AttemptFailure}
    (keeps : policy.Keeps options startedAt now history) (later : Instant) (inFlight : Nat)
    (retryable : failure.retryable = true) (failed : event.failure = some failure)
    (noWrite : event.writes = false)
    : (policy.onFailure failure inFlight).1
      = if spentRetries (history ++ [⟨event, later⟩]) = options.maxConsecutiveFailures then
          some (.retryLimitExceeded options.maxConsecutiveFailures failure.error)
        else
          none := by
  have retries : event.retries = true := by simp [LoopEvent.retries, failed, retryable]
  have within := keeps.within
  simp only [onFailure, retryable, Bool.not_true, Bool.false_eq_true, if_false,
    spentRetries_append, noWrite, retries, if_true, ← keeps.spent, ← keeps.limit]
  exact if_congr (by omega) rfl rfl

/-- A retryable failure that does not end the task leaves the rest of the budget. -/
theorem Keeps.onFailure {failure : AttemptFailure} {inFlight : Nat} {after : FailurePolicy}
    (keeps : policy.Keeps options startedAt now history) (forward : now ≤ later)
    (failed : event.failure = some failure) (noWrite : event.writes = false)
    (noProgress : event.progresses = false)
    (goesOn : policy.onFailure failure inFlight = (none, after))
    : after.Keeps options startedAt later (history ++ [⟨event, later⟩]) := by
  unfold FailurePolicy.onFailure at goesOn
  split at goesOn
  · rename_i unretryable
    have noRetry : event.retries = false := by
      simpa [LoopEvent.retries, failed] using unretryable
    have same := (Prod.mk.inj goesOn).2
    subst same
    exact keeps.quiet forward noRetry noWrite noProgress
  · rename_i retryable
    have retries : event.retries = true := by
      simpa [LoopEvent.retries, failed] using retryable
    dsimp only at goesOn
    split at goesOn
    · cases goesOn
    · rename_i left
      cases goesOn
      exact {
        limit := keeps.limit
        timeout := keeps.timeout
        spent := by simp [spentRetries_append, noWrite, retries, keeps.spent]
        within := Nat.lt_of_not_le left
        progressed := by simp [lastProgress_append, noProgress, keeps.progressed]
        past := Nat.le_trans keeps.past forward }

end FailurePolicy

-----------------------------------------------------------------------------------------
-- Handling an event
-----------------------------------------------------------------------------------------

/-- The server rejects the connections while another runner is allocated. -/
structure Transfer.Tolerates (transfer : Transfer) (failure : AttemptFailure) : Prop where
  congestion : FailurePolicy.isCongestion failure.error = true
  others
    : ∃ other,
        other ≠ failure.runnerId ∧ transfer.managed.manager.idGenerator.isAllocated other = true

namespace DownloadLoop

variable {loop next : DownloadLoop} {now : Instant}

/-- The bytes of a batch without errors, by induction on it: some, if it wrote any range. -/
theorem checkFrom_wrote {completions : List WriteCompletion} {written total : Nat}
    (checks : checkFrom written completions = .ok (.ok total))
    : written ≤ total ∧ (completions.any WriteCompletion.wrote = true ↔ written < total) := by
  induction completions generalizing written with
  | nil =>
      cases checks
      simp
  | cons completion rest ih =>
      simp only [checkFrom] at checks
      split at checks
      · rename_i succeeded
        obtain ⟨length, lengths, later⟩ := Checked.bind_eq_ok.mp checks
        obtain ⟨ordered, same⟩ := Checked.sub_eq_ok.mp lengths
        obtain ⟨grows, wrote⟩ := ih later
        have first
            : completion.wrote = true ↔ completion.range.start < completion.range.stop := by
          simp [WriteCompletion.wrote, WriteCompletion.failed, succeeded]
        rw [List.any_cons, Bool.or_eq_true, first, wrote]
        omega
      · cases checks

theorem checkFrom_error {completions : List WriteCompletion} {written : Nat}
    {error : DownloadError} (checks : checkFrom written completions = .ok (.error error))
    : ∃ message, error = .other message := by
  induction completions generalizing written with
  | nil => cases checks
  | cons completion rest ih =>
      simp only [checkFrom] at checks
      split at checks
      · obtain ⟨length, -, later⟩ := Checked.bind_eq_ok.mp checks
        exact ih later
      · cases checks
        exact ⟨_, rfl⟩

/-- How a loop with this policy and this armed deadline answers an event: with a result, a
policy and an armed deadline.
-/
inductive Answers (transfer : Transfer) (policy : FailurePolicy) (armed now : Instant)
    : Option LoopEvent → Except DownloadError ControlFlow → FailurePolicy → Instant → Prop
  | cancelled
    : Answers transfer policy armed now (some .cancelled) (.error .cancelled) policy armed
  | expired (due : policy.deadline ≤ now)
    : Answers transfer policy armed now (some .deadline)
        (.error (.transfer (.noProgress policy.noProgress))) policy armed
  | rearmed (early : now < policy.deadline)
    : Answers transfer policy armed now (some .deadline) (.ok .continues) policy policy.deadline
  /-- A write failed, or the writer was full. -/
  | unwritten {event : LoopEvent} {message : String} {next : FailurePolicy}
    (unfailed : event.failure = none) (handles : event ≠ .deadline)
    : Answers transfer policy armed now (some event) (.error (.other message)) next armed
  | written {completions : List WriteCompletion} {written : Nat}
    (wrote : completions.any WriteCompletion.wrote = true ↔ 0 < written)
    : Answers transfer policy armed now (some (.writerCompleted (some completions)))
        (.ok .continues) (policy.onWriteOk written) armed
  /-- The strategies or the throughput. -/
  | timer {event : LoopEvent} (unfailed : event.failure = none) (writes : event.writes = false)
    (progresses : event.progresses = false) (handles : event ≠ .deadline)
    : Answers transfer policy armed now (some event) (.ok .continues) policy armed
  | idle : Answers transfer policy armed now none (.ok .continues) policy armed
  | ticked {tick : RunnerTick} (unfailed : tick.failure = none)
    : Answers transfer policy armed now (some (.runner tick)) (.ok (flow tick))
        (if (LoopEvent.runner tick).progresses then policy.onProgress now else policy) armed
  | unsupported {tick : RunnerTick} {failure : AttemptFailure} {manager : RunnerManager}
    {error : DownloadError} (failed : tick.failure = some failure)
    (fails : transfer.Fails tick manager failure)
    (unsupported : rangeUnsupported failure.error = some error)
    : Answers transfer policy armed now (some (.runner tick)) (.error error) policy armed
  | ended {tick : RunnerTick} {failure : AttemptFailure} {manager : RunnerManager}
    {error : TaskError} {next : FailurePolicy} (failed : tick.failure = some failure)
    (fails : transfer.Fails tick manager failure)
    (supported : rangeUnsupported failure.error = none)
    (ends : policy.onFailure failure manager.allocatedRunnerCount = (some error, next))
    : Answers transfer policy armed now (some (.runner tick)) (.error (.ofTaskError error)) next
        armed
  | tolerated {tick : RunnerTick} {failure : AttemptFailure} {manager : RunnerManager}
    {next : FailurePolicy} (failed : tick.failure = some failure)
    (fails : transfer.Fails tick manager failure)
    (supported : rangeUnsupported failure.error = none)
    (goesOn : policy.onFailure failure manager.allocatedRunnerCount = (none, next))
    : Answers transfer policy armed now (some (.runner tick)) (.ok .continues) next armed

/-- The deadline timer fires too early if progress moved the deadline since it was armed. -/
theorem onDeadline_answers (transfer : Transfer)
    : Answers transfer loop.policy loop.deadlineAt now (some .deadline)
        ((loop.onDeadline now).1.map (fun _ => .continues)) (loop.onDeadline now).2.policy
        (loop.onDeadline now).2.deadlineAt := by
  unfold onDeadline FailurePolicy.check
  by_cases due : loop.policy.deadline ≤ now
  · simp only [due, if_true]
    exact .expired due
  · simp only [due, if_false]
    exact .rearmed (Nat.lt_of_not_le due)

/-- Looking at a failure, or at none. -/
theorem afterChunk_answers {transfer : Transfer} {tick : RunnerTick}
    {result : Except DownloadError ControlFlow}
    (fails
      : ∀ failure, tick.failure = some failure → transfer.Fails tick loop.manager failure)
    (handled : loop.afterChunk tick = (result, next)) (quiet : tick.downloaded = none)
    : Answers transfer loop.policy loop.deadlineAt now (some (.runner tick)) result next.policy
        next.deadlineAt := by
  unfold afterChunk at handled
  split at handled
  · rename_i unfailed
    cases handled
    have silent : (LoopEvent.runner tick).progresses = false := by
      simp [LoopEvent.progresses, quiet]
    simpa [silent] using @Answers.ticked transfer loop.policy loop.deadlineAt now tick unfailed
  · rename_i failure failed
    have found := fails failure failed
    have goes : flow tick = .continues := by
      simp [flow, found.continues]
    unfold onFailure at handled
    cases supported : rangeUnsupported failure.error with
    | some error =>
        simp only [supported] at handled
        cases handled
        exact .unsupported failed found supported
    | none =>
        simp only [supported] at handled
        cases answers : loop.policy.onFailure failure loop.manager.allocatedRunnerCount with
        | mk ended policy =>
            rw [answers] at handled
            cases ended with
            | some error =>
                cases handled
                exact .ended failed found supported answers
            | none =>
                cases handled
                rw [goes]
                exact .tolerated failed found supported answers

/-- A tick carries a chunk, a failure or neither. -/
theorem onRunner_answers {transfer : Transfer} {tick : RunnerTick} {immediate : Immediate}
    {result : Except DownloadError ControlFlow}
    (fails
      : ∀ failure, tick.failure = some failure → transfer.Fails tick loop.manager failure)
    (handled : loop.onRunner tick now immediate = .ok (result, next))
    : Answers transfer loop.policy loop.deadlineAt now (some (.runner tick)) result next.policy
        next.deadlineAt := by
  unfold onRunner at handled
  split at handled
  · rename_i quiet
    exact afterChunk_answers fails (Except.ok.inj handled) quiet
  · rename_i chunk downloaded
    have unfailed : tick.failure = none := by
      cases failed : tick.failure with
      | none => rfl
      | some failure =>
          have never := (fails failure failed).alone.symm.trans downloaded
          cases never
    obtain ⟨⟨accepted, written⟩, accepts, rest⟩ := Checked.bind_eq_ok.mp handled
    obtain ⟨⟨status, writer⟩, -, same⟩ := Checked.bind_eq_ok.mp accepts
    cases status with
    | error full =>
        cases same
        cases rest
        exact .unwritten unfailed (by simp)
    | ok status =>
        cases same
        simp only [afterChunk, unfailed] at rest
        cases rest
        have progresses
            : (LoopEvent.runner tick).progresses
              = decide (chunk.range.start < chunk.range.stop) := by
          simp [LoopEvent.progresses, downloaded]
        simpa [progresses] using @Answers.ticked transfer loop.policy loop.deadlineAt now tick unfailed

-----------------------------------------------------------------------------------------
-- The budgets over an answer
-----------------------------------------------------------------------------------------

/-- Ranges carry the file after a retryable failure. -/
theorem rangeUnsupported_of_retryable {error : TaskError}
    (retryable : isAttemptRetryable error = true)
    : rangeUnsupported error = none := by
  unfold rangeUnsupported
  split
  · cases retryable
  · rfl

theorem rangeUnsupported_ne_transfer {error source : TaskError}
    : rangeUnsupported error ≠ some (.transfer source) := by
  unfold rangeUnsupported
  split
  · dsimp only
    split <;> simp
  · simp

theorem ofTaskError_eq {error : TaskError} (uncancelled : error.isCancelled = false)
    : DownloadError.ofTaskError error = .transfer error := by
  cases error <;> first | rfl | cases uncancelled

section Answers

variable {transfer : Transfer} {policy after : FailurePolicy} {armed rearmed earlier : Instant}
  {event : Option LoopEvent} {result : Except DownloadError ControlFlow}
  {options : TaskOptions} {startedAt : Instant} {history : List Occurrence}

/-- A loop that goes on holds the budgets of the longer history, and is woken in time. -/
theorem Answers.keeps
    (answers : Answers transfer policy armed now event result after rearmed)
    (goesOn : result = .ok .continues) (keeps : policy.Keeps options startedAt earlier history)
    (forward : earlier ≤ now) (inTime : armed ≤ policy.deadline)
    : after.Keeps options startedAt now
          (history ++ (event.map (fun found => ⟨found, now⟩)).toList)
      ∧ rearmed ≤ after.deadline := by
  cases answers with
  | cancelled => cases goesOn
  | expired => cases goesOn
  | rearmed early => exact ⟨keeps.quiet forward rfl rfl rfl, Nat.le_refl _⟩
  | unwritten => cases goesOn
  | written wrote =>
      refine ⟨keeps.onWriteOk forward rfl wrote rfl, ?_⟩
      unfold FailurePolicy.onWriteOk
      split <;> exact inTime
  | @timer found unfailed writes progresses handles =>
      have noRetry : found.retries = false := by simp [LoopEvent.retries, unfailed]
      exact ⟨keeps.quiet forward noRetry writes progresses, inTime⟩
  | idle =>
      refine ⟨?_, inTime⟩
      simp only [Option.map_none, Option.toList_none, List.append_nil]
      exact { keeps with past := Nat.le_trans keeps.past forward }
  | @ticked tick unfailed =>
      have noRetry : (LoopEvent.runner tick).retries = false := by
        simp [LoopEvent.retries, LoopEvent.failure, unfailed]
      cases progresses : (LoopEvent.runner tick).progresses with
      | true =>
          refine ⟨keeps.onProgress noRetry rfl progresses, Nat.le_trans inTime ?_⟩
          have later := Nat.le_trans keeps.past forward
          exact Nat.add_le_add_right later policy.noProgress
      | false => exact ⟨keeps.quiet forward noRetry rfl progresses, inTime⟩
  | unsupported => cases goesOn
  | ended => cases goesOn
  | @tolerated tick failure manager _ failed fails supported goesOn =>
      have noProgress : (LoopEvent.runner tick).progresses = false := by
        simp [LoopEvent.progresses, fails.alone]
      refine ⟨keeps.onFailure forward failed rfl noProgress goesOn, ?_⟩
      have same := policy.onFailure_deadline failure manager.allocatedRunnerCount
      rw [goesOn] at same
      exact same ▸ inTime

/-- A retryable failure with this error spends the last retry of the budget. -/
def SpendsLast (options : TaskOptions) (history : List Occurrence) (now : Instant)
    (source : TaskError) (event : Option LoopEvent)
    : Prop :=
  ∃ found failure,
    event = some found
    ∧ found.failure = some failure
    ∧ failure.retryable = true
    ∧ failure.error = source
    ∧ spentRetries (history ++ [⟨found, now⟩]) = options.maxConsecutiveFailures

theorem not_spendsLast_of_unfailed {found : LoopEvent} {source : TaskError}
    (unfailed : found.failure = none)
    : ¬ SpendsLast options history now source (some found) := by
  rintro ⟨other, failure, same, failed, -⟩
  cases same
  cases unfailed.symm.trans failed

theorem spendsLast_runner_iff {tick : RunnerTick} {failure : AttemptFailure}
    {source : TaskError} (failed : tick.failure = some failure)
    : SpendsLast options history now source (some (.runner tick))
      ↔ failure.retryable = true
        ∧ failure.error = source
        ∧ spentRetries (history ++ [⟨.runner tick, now⟩]) = options.maxConsecutiveFailures := by
  constructor
  · rintro ⟨found, other, same, failedAgain, spends⟩
    cases same
    cases failed.symm.trans failedAgain
    exact spends
  · exact fun spends => ⟨_, failure, rfl, failed, spends⟩

/-- The last retry is spent by a retryable failure, and nothing else ends the loop so. -/
theorem Answers.retryLimit_iff
    (answers : Answers transfer policy armed now event result after rearmed)
    (keeps : policy.Keeps options startedAt earlier history) (limit : Nat) (source : TaskError)
    : result = .error (.transfer (.retryLimitExceeded limit source))
      ↔ limit = options.maxConsecutiveFailures
        ∧ SpendsLast options history now source event := by
  have quiet {found : LoopEvent} {result : Except DownloadError ControlFlow}
      (unfailed : found.failure = none)
      (differs : result ≠ .error (.transfer (.retryLimitExceeded limit source)))
      : result = .error (.transfer (.retryLimitExceeded limit source))
        ↔ limit = options.maxConsecutiveFailures
          ∧ SpendsLast options history now source (some found) :=
    ⟨fun same => absurd same differs,
      fun ⟨_, spends⟩ => absurd spends (not_spendsLast_of_unfailed unfailed)⟩
  cases answers with
  | cancelled => exact quiet rfl (by simp)
  | expired => exact quiet rfl (by simp)
  | rearmed => exact quiet rfl (by simp)
  | unwritten unfailed =>
      exact quiet unfailed (by simp [DownloadError.other, DownloadError.ofTaskError])
  | written => exact quiet rfl (by simp)
  | timer unfailed => exact quiet unfailed (by simp)
  | idle => simp [SpendsLast]
  | ticked unfailed => exact quiet unfailed (by simp)
  | @unsupported tick failure manager error failed fails unsupported =>
      rw [spendsLast_runner_iff failed]
      constructor
      · intro same
        cases same
        exact absurd unsupported rangeUnsupported_ne_transfer
      · rintro ⟨-, retryable, -⟩
        rw [fails.retryable] at retryable
        cases (rangeUnsupported_of_retryable retryable).symm.trans unsupported
  | @ended tick failure manager error _ failed fails supported ends =>
      rw [spendsLast_runner_iff failed]
      cases retryable : failure.retryable with
      | true =>
          have verdict := keeps.onFailure_retryable now manager.allocatedRunnerCount retryable
            (show (LoopEvent.runner tick).failure = some failure from failed) rfl
          rw [ends] at verdict
          split at verdict
          · rename_i spent
            cases verdict
            simp [DownloadError.ofTaskError, spent, eq_comm]
          · cases verdict
      | false =>
          have own := fails.fromRunner
          rw [FailurePolicy.onFailure_unretryable retryable] at ends
          split at ends
          · cases ends
          · cases ends
            rw [ofTaskError_eq fails.uncancelled]
            constructor
            · intro same
              rw [(DownloadError.transfer.inj (Except.error.inj same))] at own
              cases own
            · rintro ⟨-, never, -⟩
              cases never
  | @tolerated tick failure manager _ failed fails supported goesOn =>
      rw [spendsLast_runner_iff failed]
      refine ⟨(fun never => by cases never), ?_⟩
      rintro ⟨-, retryable, -, spent⟩
      have verdict := keeps.onFailure_retryable now manager.allocatedRunnerCount retryable
        (show (LoopEvent.runner tick).failure = some failure from failed) rfl
      rw [goesOn, if_pos spent] at verdict
      cases verdict

/-- The loop ends without progress at the deadline of the policy, and not before. -/
theorem Answers.noProgress_due
    (answers : Answers transfer policy armed now event result after rearmed) {timeout : Duration}
    (ends : result = .error (.transfer (.noProgress timeout)))
    : policy.deadline ≤ now ∧ timeout = policy.noProgress := by
  cases answers with
  | expired due =>
      cases ends
      exact ⟨due, rfl⟩
  | unsupported failed fails unsupported =>
      cases ends
      exact absurd unsupported rangeUnsupported_ne_transfer
  | @ended tick failure manager error _ failed fails supported answered =>
      exfalso
      have own := fails.fromRunner
      unfold FailurePolicy.onFailure at answered
      split at answered
      · have same := (Prod.mk.inj answered).1
        split at same
        · cases same
        · cases same
          rw [ofTaskError_eq fails.uncancelled] at ends
          rw [DownloadError.transfer.inj (Except.error.inj ends)] at own
          cases own
      · have same := (Prod.mk.inj answered).1
        split at same
        · cases same
          cases ends
        · cases same
  | _ => cases ends

/-- An unretryable failure ends the loop at once, unless the server rejects the connections
while another runner is allocated.
-/
theorem Answers.unretryable {tick : RunnerTick} {failure : AttemptFailure}
    (answers
      : Answers transfer policy armed now (some (.runner tick)) result after rearmed)
    (failed : tick.failure = some failure) (unretryable : failure.retryable = false)
    (supported : rangeUnsupported failure.error = none)
    : (transfer.Tolerates failure → result = .ok .continues ∧ after = policy)
      ∧ (¬ transfer.Tolerates failure → result = .error (.transfer failure.error)) := by
  cases answers with
  | unwritten unfailed => cases failed.symm.trans unfailed
  | timer unfailed => cases failed.symm.trans unfailed
  | ticked unfailed => cases failed.symm.trans unfailed
  | unsupported failedAgain fails unsupported =>
      cases failed.symm.trans failedAgain
      cases supported.symm.trans unsupported
  | ended failedAgain fails _ ends =>
      cases failed.symm.trans failedAgain
      rw [FailurePolicy.onFailure_unretryable unretryable] at ends
      split at ends
      · cases ends
      · rename_i refused
        cases ends
        refine ⟨fun tolerates => absurd ?_ refused, fun _ => ?_⟩
        · exact ⟨fails.others.mpr tolerates.others, tolerates.congestion⟩
        · rw [ofTaskError_eq fails.uncancelled]
  | tolerated failedAgain fails _ goesOn =>
      cases failed.symm.trans failedAgain
      rw [FailurePolicy.onFailure_unretryable unretryable] at goesOn
      split at goesOn
      · rename_i accepted
        cases goesOn
        refine ⟨fun _ => ⟨rfl, rfl⟩, fun refused => absurd ?_ refused⟩
        exact ⟨accepted.2, fails.others.mp accepted.1⟩
      · cases goesOn

end Answers

end DownloadLoop

namespace LoopRun

open DownloadLoop

variable {usizeSize : Nat} {run after : LoopRun} {sources : LoopSources}

/-- What a turn finds, and how it is answered. -/
theorem poll_answers (reached : (Transfer.machine usizeSize).Reachable run.transfer)
    (enabled : run.Enabled (.poll sources)) (polled : run.poll sources = .ok after)
    : ∃ event loop result,
        run.loop.pollEvent sources = .ok (event, loop)
        ∧ after.stage = stageAfter after.loop result
        ∧ Answers run.transfer run.loop.policy run.loop.deadlineAt sources.now event result
            after.loop.policy after.loop.deadlineAt := by
  obtain ⟨running, -, offers⟩ := enabled
  obtain ⟨⟨event, loop⟩, found, handled⟩ := Checked.bind_eq_ok.mp polled
  have finds := pollEvent_finds found
  cases finds with
  | cancelled =>
      cases handled
      exact ⟨_, _, _, found, rfl, .cancelled⟩
  | deadline =>
      cases handled
      exact ⟨_, _, _, found, rfl, onDeadline_answers _⟩
  | @written completions writer flushed =>
      obtain ⟨⟨result, loop⟩, recorded, same⟩ := Checked.bind_eq_ok.mp handled
      obtain ⟨⟨written, recording⟩, records, goes⟩ := Checked.bind_eq_ok.mp recorded
      cases goes
      cases same
      refine ⟨_, _, _, found, rfl, ?_⟩
      obtain ⟨checked, checks, same⟩ := Checked.bind_eq_ok.mp records
      cases checked with
      | ok total =>
          cases same
          exact .written (checkFrom_wrote checks).2
      | error error =>
          cases same
          obtain ⟨message, same⟩ := checkFrom_error checks
          subst same
          exact .unwritten rfl (by simp)
  | strategy =>
      obtain ⟨⟨result, loop⟩, ticked, same⟩ := Checked.bind_eq_ok.mp handled
      obtain ⟨ticks, ticked, goes⟩ := Checked.bind_eq_ok.mp ticked
      cases goes
      cases same
      obtain ⟨transfer, strategy, maxConcurrency, same⟩ := onStrategyTick_frame ticked
      subst same
      exact ⟨_, _, _, found, rfl, .timer rfl rfl rfl (by simp)⟩
  | sampled =>
      cases handled
      exact ⟨_, _, _, found, rfl, .timer rfl rfl rfl (by simp)⟩
  | idle reaches ticked =>
      cases handled
      exact ⟨_, _, .ok .continues, found, running, .idle⟩
  | @runner tick transfer reaches ticked =>
      obtain ⟨⟨result, loop⟩, runs, same⟩ := Checked.bind_eq_ok.mp handled
      cases same
      have answers := @onRunner_answers { run.loop with transfer } loop sources.now run.transfer
        tick sources.immediate result
        (fun failure failed => Transfer.tick_fails reached offers ticked failed) runs
      exact ⟨_, _, _, found, rfl, answers⟩

end LoopRun

-----------------------------------------------------------------------------------------
-- The runs, told with their events
-----------------------------------------------------------------------------------------

structure TimedRun where
  run : LoopRun
  options : TaskOptions
  startedAt : Instant
  /-- The clock as it was read last. -/
  now : Instant
  /-- What the loop handled so far, oldest first. -/
  history : List Occurrence

namespace TimedRun

def new (total maxConcurrency : Nat) (options : TaskOptions) (now : Instant) : TimedRun where
  run := .new total maxConcurrency options now
  options := options
  startedAt := now
  now := now
  history := []

/-- What a turn of the loop handles, unless it panics before. -/
def finds (timed : TimedRun) (sources : LoopSources) : Option LoopEvent :=
  match timed.run.loop.pollEvent sources with
  | .ok (event, _) => event
  | .error _ => none

/-- The history after a turn. -/
def recorded (timed : TimedRun) (sources : LoopSources) : List Occurrence :=
  timed.history ++ ((timed.finds sources).map (fun event => ⟨event, sources.now⟩)).toList

/-- The clock never goes back. -/
def Enabled (timed : TimedRun) : LoopRunEvent → Prop
  | .poll sources => timed.now ≤ sources.now ∧ timed.run.Enabled (.poll sources)
  | event => timed.run.Enabled event

def next (usizeSize : Nat) (timed : TimedRun) (event : LoopRunEvent) : Checked TimedRun := do
  let run ← timed.run.next usizeSize event
  match event with
  | .poll sources =>
    pure { timed with run, now := sources.now, history := timed.recorded sources }
  | _ => pure { timed with run }

instance (timed : TimedRun) : (event : LoopRunEvent) → Decidable (timed.Enabled event)
  | .poll sources =>
    inferInstanceAs (Decidable (timed.now ≤ sources.now ∧ timed.run.Enabled (.poll sources)))
  | .turn port sources => inferInstanceAs (Decidable (timed.run.Enabled (.turn port sources)))
  | .vanish port => inferInstanceAs (Decidable (timed.run.Enabled (.vanish port)))
  | .complete index result =>
    inferInstanceAs (Decidable (timed.run.Enabled (.complete index result)))
  | .join immediate => inferInstanceAs (Decidable (timed.run.Enabled (.join immediate)))
  | .flushStep immediate =>
    inferInstanceAs (Decidable (timed.run.Enabled (.flushStep immediate)))

/-- The attempts of a task, whose builder has validated the options. -/
def machine (usizeSize : Nat) : Machine TimedRun LoopRunEvent Panic where
  Initial timed :=
    ∃ total maxConcurrency options now,
      total < u64Size
      ∧ 0 < maxConcurrency
      ∧ options.validate = .ok ()
      ∧ timed = .new total maxConcurrency options now
  Enabled := Enabled
  next := next usizeSize

instance (usizeSize : Nat) (timed : TimedRun) (event : LoopRunEvent)
    : Decidable ((machine usizeSize).Enabled timed event) :=
  inferInstanceAs (Decidable (timed.Enabled event))

/-- The error a turn ended the loop with. -/
def gaveUp (timed : TimedRun) : Option DownloadError :=
  match timed.run.stage with
  | .joining (.error error) _ => some error
  | _ => none

open DownloadLoop

variable {usizeSize : Nat} {timed after : TimedRun} {sources : LoopSources}

/-- The instant of the last progress so far. -/
def progressedAt (timed : TimedRun) : Instant := lastProgress timed.startedAt timed.history

theorem gaveUp_of_stage {loop : DownloadLoop} {result : Except DownloadError ControlFlow}
    (stage : timed.run.stage = LoopRun.stageAfter loop result) (error : DownloadError)
    : timed.gaveUp = some error ↔ result = .error error := by
  unfold gaveUp
  rw [stage]
  cases result with
  | error other => simp [LoopRun.stageAfter]
  | ok flow => cases flow <;> simp [LoopRun.stageAfter]

theorem running_of_stage {loop : DownloadLoop} {result : Except DownloadError ControlFlow}
    (stage : timed.run.stage = LoopRun.stageAfter loop result)
    : timed.run.stage = .running ↔ result = .ok .continues := by
  rw [stage]
  cases result with
  | error other => simp [LoopRun.stageAfter]
  | ok flow => cases flow <;> simp [LoopRun.stageAfter]

/-- A turn tells what it found. -/
theorem next_poll (next : timed.next usizeSize (.poll sources) = .ok after)
    : timed.run.poll sources = .ok after.run
      ∧ after
        = { timed with
            run := after.run, now := sources.now, history := timed.recorded sources } := by
  obtain ⟨run, polled, same⟩ := Checked.bind_eq_ok.mp next
  cases same
  exact ⟨polled, rfl⟩

theorem Enabled.run {event : LoopRunEvent} (enabled : timed.Enabled event)
    : timed.run.Enabled event := by
  cases event with
  | poll sources => exact enabled.2
  | _ => exact enabled

/-- Every state of a task told so is one of the loop. -/
theorem reachable_run (reached : (machine usizeSize).Reachable timed)
    : (LoopRun.machine usizeSize).Reachable timed.run := by
  induction reached with
  | initial start =>
      obtain ⟨total, maxConcurrency, options, now, representable, positive, -, same⟩ := start
      subst same
      exact .initial ⟨total, maxConcurrency, options, now, representable, positive, rfl⟩
  | @step before event after earlier step ih =>
      obtain ⟨run, next, same⟩ := Checked.bind_eq_ok.mp step.next
      have stepped : (LoopRun.machine usizeSize).Step before.run event run :=
        ⟨step.enabled.run, next⟩
      cases event <;> (cases same; exact ih.step stepped)

/-- While the loop runs, its policy holds the budgets and its timer fires in time. -/
structure Budgeted (timed : TimedRun) : Prop where
  keeps
    : timed.run.loop.policy.Keeps timed.options timed.startedAt timed.now timed.history
  armed : timed.run.loop.deadlineAt ≤ timed.run.loop.policy.deadline

/-- What a turn finds in a state whose budgets are kept, and how it is answered. -/
theorem poll_answers (reached : (machine usizeSize).Reachable timed)
    (enabled : timed.Enabled (.poll sources))
    (next : timed.next usizeSize (.poll sources) = .ok after)
    : ∃ result,
        after.run.stage = LoopRun.stageAfter after.run.loop result
        ∧ Answers timed.run.transfer timed.run.loop.policy timed.run.loop.deadlineAt sources.now
            (timed.finds sources) result after.run.loop.policy after.run.loop.deadlineAt := by
  obtain ⟨polled, -⟩ := next_poll next
  have transfers := LoopRun.reachable_transfer (reachable_run reached)
  obtain ⟨event, loop, result, found, stage, answers⟩ :=
    LoopRun.poll_answers transfers enabled.2 polled
  refine ⟨result, stage, ?_⟩
  simp only [finds, found]
  exact answers

/-- Besides its turns, nothing starts a loop again or touches its policy and its timers. -/
theorem next_other {event : LoopRunEvent} (enabled : timed.Enabled event)
    (other : ∀ sources, event ≠ .poll sources) (next : timed.next usizeSize event = .ok after)
    (running : after.run.stage = .running)
    : timed.run.stage = .running
      ∧ after.run.loop.policy = timed.run.loop.policy
      ∧ after.run.loop.deadlineAt = timed.run.loop.deadlineAt
      ∧ after = { timed with run := after.run } := by
  obtain ⟨run, runs, same⟩ := Checked.bind_eq_ok.mp next
  cases event with
  | poll sources => exact absurd rfl (other sources)
  | turn port sources =>
      cases same
      obtain ⟨transfer, -, same⟩ := Checked.bind_eq_ok.mp runs
      cases same
      exact ⟨running, rfl, rfl, rfl⟩
  | vanish port =>
      cases same
      obtain ⟨transfer, -, same⟩ := Checked.bind_eq_ok.mp runs
      cases same
      exact ⟨running, rfl, rfl, rfl⟩
  | complete index result =>
      cases same
      obtain ⟨writer, -, same⟩ := Checked.bind_eq_ok.mp runs
      cases same
      exact ⟨running, rfl, rfl, rfl⟩
  | join immediate =>
      cases same
      obtain ⟨result, progress, joining⟩ := LoopStage.isJoining_iff.mp enabled
      simp only [LoopRun.next, joining] at runs
      obtain ⟨_, -, same⟩ := Checked.bind_eq_ok.mp runs
      cases same
      cases running
  | flushStep immediate =>
      cases same
      obtain ⟨result, progress, completions, flushing⟩ := LoopStage.isFlushing_iff.mp enabled
      simp only [LoopRun.next, flushing] at runs
      obtain ⟨⟨batch, writer⟩, -, rest⟩ := Checked.bind_eq_ok.mp runs
      cases batch with
      | some batch =>
          cases rest
          cases running
      | none =>
          obtain ⟨_, -, same⟩ := Checked.bind_eq_ok.mp rest
          cases same
          cases running

/-- Every state reached while the loop runs has its budgets kept, by induction on the run. -/
theorem reachable_budgeted (reached : (machine usizeSize).Reachable timed)
    (running : timed.run.stage = .running)
    : timed.Budgeted := by
  induction reached with
  | initial start =>
      obtain ⟨total, maxConcurrency, options, now, -, -, valid, same⟩ := start
      subst same
      exact ⟨.new valid, Nat.le_refl _⟩
  | @step before event after earlier step ih =>
      by_cases polls : ∃ sources, event = .poll sources
      · obtain ⟨sources, same⟩ := polls
        subst same
        obtain ⟨result, stage, answers⟩ := poll_answers earlier step.enabled step.next
        obtain ⟨-, same⟩ := next_poll step.next
        have budgeted := ih step.enabled.2.1
        obtain ⟨keeps, armed⟩ := answers.keeps ((running_of_stage stage).mp running)
          budgeted.keeps step.enabled.1 budgeted.armed
        refine ⟨?_, armed⟩
        rw [same]
        exact keeps
      · have others (sources : LoopSources) : event ≠ .poll sources :=
          fun same => polls ⟨sources, same⟩
        obtain ⟨before, policy, timer, same⟩ :=
          next_other step.enabled others step.next running
        have budgeted := ih before
        refine ⟨?_, ?_⟩
        · rw [policy, same]
          exact budgeted.keeps
        · rw [policy, timer]
          exact budgeted.armed

/-- When a running loop gives up: its next turn, whatever it finds, ends it exactly as its
budgets say.
-/
structure GivesUp (usizeSize : Nat) (timed : TimedRun) : Prop where
  left : spentRetries timed.history < timed.options.maxConsecutiveFailures
  /-- The last retry of the budget ends the loop, and no other event does so. -/
  retries
    : ∀ {sources after},
        timed.Enabled (.poll sources)
        → timed.next usizeSize (.poll sources) = .ok after
        → ∀ limit source,
            after.gaveUp = some (.transfer (.retryLimitExceeded limit source))
            ↔ limit = timed.options.maxConsecutiveFailures
              ∧ ∃ event failure,
                  timed.finds sources = some event
                  ∧ event.failure = some failure
                  ∧ failure.retryable = true
                  ∧ failure.error = source
                  ∧ spentRetries after.history = timed.options.maxConsecutiveFailures
  /-- An unretryable failure ends the loop, or spends nothing. -/
  unretryable
    : ∀ {sources after tick failure},
        timed.Enabled (.poll sources)
        → timed.next usizeSize (.poll sources) = .ok after
        → timed.finds sources = some (.runner tick)
        → tick.failure = some failure
        → failure.retryable = false
        → rangeUnsupported failure.error = none
        → (timed.run.transfer.Tolerates failure
            → after.run.stage = .running
              ∧ after.run.loop.policy = timed.run.loop.policy
              ∧ spentRetries after.history = spentRetries timed.history)
          ∧ (¬ timed.run.transfer.Tolerates failure
            → after.gaveUp = some (.transfer failure.error))
  /-- The loop ends without progress once the time since the last one is spent. -/
  noProgress
    : ∀ {sources after timeout},
        timed.Enabled (.poll sources)
        → timed.next usizeSize (.poll sources) = .ok after
        → after.gaveUp = some (.transfer (.noProgress timeout))
        → timed.progressedAt + timed.options.noProgressTimeout ≤ sources.now
          ∧ timeout = timed.options.noProgressTimeout
  deadline
    : timed.run.loop.policy.deadline
      = timed.progressedAt + timed.options.noProgressTimeout
  armed : timed.run.loop.deadlineAt ≤ timed.run.loop.policy.deadline
  /-- The timer may fire from the instant it is armed for on. -/
  fires
    : ∀ now,
        timed.now ≤ now
        → timed.run.loop.deadlineAt ≤ now
        → timed.Enabled (.poll { deadline := true, now })
  /-- A timer that fires at the deadline or later ends the loop. -/
  woken
    : ∀ {sources},
        sources.cancelled = false
        → sources.deadline = true
        → timed.run.loop.policy.deadline ≤ sources.now
        → ∃ after,
            timed.next usizeSize (.poll sources) = .ok after
            ∧ after.gaveUp = some (.transfer (.noProgress timed.options.noProgressTimeout))

/-- A turn that finds an event is told at the end of the history. -/
theorem history_of_finds {event : LoopEvent}
    (next : timed.next usizeSize (.poll sources) = .ok after)
    (finds : timed.finds sources = some event)
    : after.history = timed.history ++ [⟨event, sources.now⟩] := by
  rw [(next_poll next).2]
  simp [recorded, finds]

/-- A fired deadline is looked at before anything but a cancellation. -/
theorem poll_deadline (uncancelled : sources.cancelled = false)
    (fired : sources.deadline = true)
    (due : timed.run.loop.policy.deadline ≤ sources.now)
    : ∃ after,
        timed.next usizeSize (.poll sources) = .ok after
        ∧ after.gaveUp = some (.transfer (.noProgress timed.run.loop.policy.noProgress)) := by
  have found : timed.run.loop.pollEvent sources = .ok (some .deadline, timed.run.loop) := by
    simp only [pollEvent, uncancelled, fired, if_true, Bool.false_eq_true, if_false]
    rfl
  have handled
      : timed.run.loop.handleEvent sources .deadline
        = .ok
            (.error (.transfer (.noProgress timed.run.loop.policy.noProgress)), timed.run.loop) := by
    simp only [handleEvent, onDeadline, FailurePolicy.check, due, if_true]
    rfl
  have polled
      : timed.run.poll sources
        = .ok
            ⟨timed.run.loop,
              LoopRun.stageAfter timed.run.loop
                (.error (.transfer (.noProgress timed.run.loop.policy.noProgress))),
              timed.run.reported ++ LoopEvent.completions .deadline⟩ := by
    simp only [LoopRun.poll, found, handled, Checked.ok_bind]
    rfl
  have turned := congrArg (fun polled => polled >>= fun run =>
    (pure { timed with run, now := sources.now, history := timed.recorded sources }
      : Checked TimedRun)) polled
  exact ⟨_, turned, rfl⟩

/-- The loop gives up exactly when its budgets are spent. -/
theorem gives_up_when_spent (reached : (machine usizeSize).Reachable timed)
    (running : timed.run.stage = .running)
    : timed.GivesUp usizeSize := by
  have budgeted := reachable_budgeted reached running
  have keeps := budgeted.keeps
  refine {
    left := ?_, retries := ?_, unretryable := ?_, noProgress := ?_, deadline := keeps.deadline
    armed := budgeted.armed, fires := ?_, woken := ?_ }
  · rw [← keeps.spent, ← keeps.limit]
    exact keeps.within
  · intro sources after enabled next limit source
    obtain ⟨result, stage, answers⟩ := poll_answers reached enabled next
    rw [gaveUp_of_stage stage, answers.retryLimit_iff keeps]
    refine and_congr_right (fun _ => exists_congr (fun event => exists_congr (fun failure => ?_)))
    refine and_congr_right (fun finds => ?_)
    rw [history_of_finds next finds]
  · intro sources after tick failure enabled next finds failed unretryable supported
    obtain ⟨result, stage, answers⟩ := poll_answers reached enabled next
    rw [finds] at answers
    obtain ⟨tolerated, ended⟩ := answers.unretryable failed unretryable supported
    refine ⟨fun tolerates => ?_, fun refused => ?_⟩
    · obtain ⟨continues, kept⟩ := tolerated tolerates
      refine ⟨(running_of_stage stage).mpr continues, kept, ?_⟩
      have noRetry : (LoopEvent.runner tick).retries = false := by
        simp [LoopEvent.retries, LoopEvent.failure, failed, unretryable]
      have noWrite : (LoopEvent.runner tick).writes = false := rfl
      simp [history_of_finds next finds, spentRetries_append, noRetry, noWrite]
    · exact (gaveUp_of_stage stage _).mpr (ended refused)
  · intro sources after timeout enabled next gaveUp
    obtain ⟨result, stage, answers⟩ := poll_answers reached enabled next
    obtain ⟨due, same⟩ := answers.noProgress_due ((gaveUp_of_stage stage _).mp gaveUp)
    rw [keeps.deadline] at due
    exact ⟨due, same.trans keeps.timeout⟩
  · intro now forward fired
    exact ⟨forward, running, fun _ => fired, Transfer.enabled_tick_none _ _ _⟩
  · intro sources uncancelled fired due
    rw [← keeps.timeout]
    exact poll_deadline uncancelled fired due

/-- The runner on a port times out connecting. -/
def timesOut (port : Port) : List LoopRunEvent :=
  [.turn port { connectTimeout := true },
    .turn port { drained := true },
    .turn port { lifecycleReady := some true }]

/-- The loop takes the runner's report. -/
def takesTimeout (now : Instant) : LoopSources where
  lifecycle := some (.event 0 (.stopped (.failed .timeout)))
  now := now

/-- A runner times out, and so does the one started in its place. -/
def timesOutTwice : List LoopRunEvent :=
  [.poll { strategyTimer := true }]
    ++ timesOut 0
    ++ [.poll (takesTimeout (seconds 70)),
      .poll {
        strategyTimer := true
        now := seconds 71
        clock := ⟨seconds 71, seconds 71, seconds 71⟩ }]
    ++ timesOut 1

/-- Of two retries, the second one ends the loop. -/
theorem gives_up_when_spent_twice
    : ∃ timed after,
        (machine u64Size).Reachable timed
        ∧ timed.GivesUp u64Size
        ∧ spentRetries timed.history = 1
        ∧ timed.next u64Size (.poll (takesTimeout (seconds 80))) = .ok after
        ∧ after.gaveUp = some (.transfer (.retryLimitExceeded 2 .timeout)) := by
  let start : TimedRun := .new 10 1 ⟨2, seconds 60⟩ 0
  have seen
      : ((machine u64Size).execute start timesOutTwice).map
          (fun timed =>
            (timed.next u64Size (.poll (takesTimeout (seconds 80)))).map
              (fun after => (timed.run.stage, spentRetries timed.history, after.gaveUp)))
        = some (.ok (.running, 1, some (.transfer (.retryLimitExceeded 2 .timeout)))) := by
    decide +kernel
  obtain ⟨timed, after, executed, turned, fields⟩ := Checked.exists_of_map_map seen
  simp only [Prod.mk.injEq] at fields
  obtain ⟨running, spent, ended⟩ := fields
  have started : (machine u64Size).Reachable start :=
    .initial ⟨10, 1, _, 0, by decide, by decide, rfl, rfl⟩
  have reached := started.execute timesOutTwice executed
  exact ⟨timed, after, reached, gives_up_when_spent reached running, spent, turned, ended⟩

end TimedRun

end BoltLoad
