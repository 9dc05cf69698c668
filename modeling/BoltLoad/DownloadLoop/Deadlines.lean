import BoltLoad.DownloadLoop.Budgets

/-! The deadline on a clock whose instants end. Adding the timeout to an instant panics past
their end, wherever the loop computes its deadline: as it is constructed and as the deadline
timer wakes it. Everything else a turn does is what it does on an endless clock.
-/

namespace BoltLoad

/-- `Instant + Duration`, for the instants below `instantSize`. -/
def Instant.add (instantSize : Nat) (instant : Instant) (duration : Duration) : Checked Instant :=
  if instant + duration < instantSize then
    .ok (instant + duration)
  else
    .error (.expect "overflow when adding duration to instant")

namespace Bounded

/-- `FailurePolicy::deadline`. -/
def deadline (instantSize : Nat) (policy : FailurePolicy) : Checked Instant :=
  Instant.add instantSize policy.lastProgressAt policy.noProgress

/-- `FailurePolicy::check`. -/
def check (instantSize : Nat) (policy : FailurePolicy) (now : Instant)
    : Checked (Option TaskError) := do
  let deadline ← deadline instantSize policy
  pure (if deadline ≤ now then some (.noProgress policy.noProgress) else none)

/-- `DownloadLoop::new`. -/
def new (instantSize total maxConcurrency : Nat) (options : TaskOptions) (now : Instant)
    : Checked DownloadLoop := do
  let policy := FailurePolicy.new options now
  let deadlineAt ← deadline instantSize policy
  pure { DownloadLoop.new total maxConcurrency options now with policy, deadlineAt }

/-- `on_deadline`. -/
def onDeadline (instantSize : Nat) (loop : DownloadLoop) (now : Instant)
    : Checked (Except DownloadError Unit × DownloadLoop) := do
  match ← check instantSize loop.policy now with
  | some error => pure (.error (.ofTaskError error), loop)
  | none => do
      let deadlineAt ← deadline instantSize loop.policy
      pure (.ok (), { loop with deadlineAt })

/-- `handle_event`. -/
def handleEvent (instantSize : Nat) (loop : DownloadLoop) (sources : LoopSources)
    (event : LoopEvent)
    : Checked (Except DownloadError ControlFlow × DownloadLoop) :=
  match event with
  | .deadline => do
      let handled ← onDeadline instantSize loop sources.now
      pure (DownloadLoop.goesOn handled)
  | event => loop.handleEvent sources event

/-- A turn of the loop. -/
def poll (instantSize : Nat) (run : LoopRun) (sources : LoopSources) : Checked LoopRun := do
  match ← run.loop.pollEvent sources with
  | (none, loop) => pure { run with loop }
  | (some event, loop) => do
      let (result, loop) ← handleEvent instantSize loop sources event
      pure {
        loop
        stage := LoopRun.stageAfter loop result
        reported := run.reported ++ event.completions }

def next (instantSize usizeSize : Nat) (timed : TimedRun) : LoopRunEvent → Checked TimedRun
  | .poll sources => do
      let run ← poll instantSize timed.run sources
      pure { timed with run, now := sources.now, history := timed.recorded sources }
  | event => timed.next usizeSize event

/-- The attempts of a task with validated options, on a clock that shows the instants below
`instantSize`, once their loop is constructed.
-/
def machine (instantSize usizeSize : Nat) : Machine TimedRun LoopRunEvent Panic where
  Initial timed :=
    ∃ total maxConcurrency options now loop,
      total < u64Size
      ∧ 0 < maxConcurrency
      ∧ options.validate = .ok ()
      ∧ now < instantSize
      ∧ new instantSize total maxConcurrency options now = .ok loop
      ∧ timed = ⟨⟨loop, .running, []⟩, options, now, now, []⟩
  Enabled timed event :=
    timed.Enabled event ∧ ∀ sources, event = .poll sources → sources.now < instantSize
  next := next instantSize usizeSize

variable {instantSize usizeSize total maxConcurrency : Nat} {policy : FailurePolicy}
  {options : TaskOptions} {now : Instant} {timed : TimedRun} {event : LoopRunEvent}

-----------------------------------------------------------------------------------------
-- The functions that compute the deadline
-----------------------------------------------------------------------------------------

theorem deadline_fits (fits : policy.deadline < instantSize)
    : deadline instantSize policy = .ok policy.deadline :=
  if_pos fits

theorem deadline_overflows (overflows : ¬policy.deadline < instantSize)
    : deadline instantSize policy
      = .error (.expect "overflow when adding duration to instant") :=
  if_neg overflows

/-- The loop is constructed as on an endless clock, or not at all. -/
theorem new_eq
    : new instantSize total maxConcurrency options now
      = if now + options.noProgressTimeout < instantSize then
          .ok (DownloadLoop.new total maxConcurrency options now)
        else
          .error (.expect "overflow when adding duration to instant") := by
  unfold new
  dsimp only
  split
  · rename_i fits
    have first := @deadline_fits instantSize (FailurePolicy.new options now) fits
    rw [first]
    rfl
  · rename_i overflows
    have first := @deadline_overflows instantSize (FailurePolicy.new options now) overflows
    rw [first]
    rfl

/-- A wakeup is handled as on an endless clock, or panics. -/
theorem onDeadline_eq (loop : DownloadLoop)
    : onDeadline instantSize loop now
      = if loop.policy.deadline < instantSize then
          .ok (loop.onDeadline now)
        else
          .error (.expect "overflow when adding duration to instant") := by
  unfold onDeadline check
  split
  · rename_i fits
    simp only [deadline_fits fits, Checked.ok_bind, DownloadLoop.onDeadline, FailurePolicy.check]
    split <;> rfl
  · rename_i overflows
    rw [deadline_overflows overflows]
    rfl

-----------------------------------------------------------------------------------------
-- The runs
-----------------------------------------------------------------------------------------

/-- A turn that finds no fired deadline is one on an endless clock. -/
theorem next_quiet
    (quiet : ∀ sources, event = .poll sources → timed.finds sources ≠ some .deadline)
    : next instantSize usizeSize timed event = timed.next usizeSize event := by
  cases event with
  | poll sources =>
      have found := quiet sources rfl
      unfold TimedRun.finds at found
      simp only [next, TimedRun.next, LoopRun.next, poll, LoopRun.poll]
      cases polled : timed.run.loop.pollEvent sources with
      | error panic => rfl
      | ok result =>
          obtain ⟨finds, loop⟩ := result
          rw [polled] at found
          cases finds with
          | none => rfl
          | some event => cases event <;> first | rfl | exact absurd rfl found
  | _ => rfl

/-- A turn that finds the fired deadline is one on an endless clock, or panics. -/
theorem next_deadline {sources : LoopSources} (found : timed.finds sources = some .deadline)
    : next instantSize usizeSize timed (.poll sources)
      = if timed.run.loop.policy.deadline < instantSize then
          timed.next usizeSize (.poll sources)
        else
          .error (.expect "overflow when adding duration to instant") := by
  unfold TimedRun.finds at found
  split at found
  · rename_i finds loop polled
    cases found
    have same : loop = timed.run.loop := by
      generalize isDeadline : some LoopEvent.deadline = event at polled
      cases LoopRun.pollEvent_finds polled <;> first | rfl | cases isDeadline
    subst same
    simp only [next, TimedRun.next, LoopRun.next, poll, LoopRun.poll, polled, Checked.ok_bind,
      handleEvent, DownloadLoop.handleEvent, onDeadline_eq]
    split <;> rfl
  · cases found

/-- On an endless clock such a turn does not panic. -/
theorem endless_deadline {sources : LoopSources} (found : timed.finds sources = some .deadline)
    : ∃ after, timed.next usizeSize (.poll sources) = .ok after := by
  unfold TimedRun.finds at found
  split at found
  · rename_i finds loop polled
    cases found
    simp only [TimedRun.next, LoopRun.next, LoopRun.poll, polled, Checked.ok_bind,
      DownloadLoop.handleEvent]
    exact ⟨_, rfl⟩
  · cases found

/-- What a run on the bounded clock reaches is reached on an endless one. -/
theorem simulation (instantSize usizeSize : Nat)
    : Machine.Simulation (machine instantSize usizeSize) (TimedRun.machine usizeSize) id where
  initial timed start := by
    obtain ⟨total, maxConcurrency, options, now, loop, representable, positive, valid, _,
      constructed, same⟩ := start
    refine ⟨total, maxConcurrency, options, now, representable, positive, valid, ?_⟩
    rw [new_eq] at constructed
    split at constructed
    · cases constructed
      exact same
    · cases constructed
  step before event after _ step := by
    refine .inr ⟨event, step.enabled.1, ?_⟩
    have bounded : next instantSize usizeSize before event = .ok after := step.next
    by_cases quiet : ∀ sources, event = .poll sources → before.finds sources ≠ some .deadline
    · rw [next_quiet quiet] at bounded
      exact bounded
    · push Not at quiet
      obtain ⟨sources, rfl, found⟩ := quiet
      rw [next_deadline found] at bounded
      split at bounded
      · exact bounded
      · cases bounded

/-- The deadline after the last progress is one of the instants, if the turn looks at it. -/
def DeadlineFits (instantSize : Nat) (timed : TimedRun) (event : LoopRunEvent) : Prop :=
  ∀ sources, event = .poll sources → timed.finds sources = some .deadline →
    timed.progressedAt + timed.options.noProgressTimeout < instantSize

/-- No addition overflows exactly when each deadline that is looked at is an instant: the one
the loop is constructed with, and in every state a run reaches the one after the last progress
as the fired timer wakes the loop. Where it is not, the loop panics.
-/
theorem deadlines_fit_iff (instantSize usizeSize : Nat)
    : (∀ total maxConcurrency options now,
        options.validate = .ok () →
        now < instantSize →
        ((∃ loop, new instantSize total maxConcurrency options now = .ok loop)
          ↔ now + options.noProgressTimeout < instantSize))
      ∧ ∀ timed,
          (machine instantSize usizeSize).Reachable timed →
          ∀ event,
            (machine instantSize usizeSize).Enabled timed event →
            (next instantSize usizeSize timed event = timed.next usizeSize event
                ↔ DeadlineFits instantSize timed event)
              ∧ (¬DeadlineFits instantSize timed event →
                  next instantSize usizeSize timed event
                    = .error (.expect "overflow when adding duration to instant")) := by
  constructor
  · intro total maxConcurrency options now _ _
    rw [new_eq]
    split
    · rename_i fits
      exact iff_of_true ⟨_, rfl⟩ fits
    · rename_i overflows
      exact iff_of_false (fun ⟨_, never⟩ => by cases never) overflows
  · intro timed reached event enabled
    by_cases quiet : ∀ sources, event = .poll sources → timed.finds sources ≠ some .deadline
    · have fits : DeadlineFits instantSize timed event :=
        fun sources same found => absurd found (quiet sources same)
      exact ⟨iff_of_true (next_quiet quiet) fits, fun refuted => absurd fits refuted⟩
    · push Not at quiet
      obtain ⟨sources, rfl, found⟩ := quiet
      have running : timed.run.stage = .running := enabled.1.2.1
      have budgeted := TimedRun.reachable_budgeted ((simulation _ _).reachable reached) running
      have deadline : timed.run.loop.policy.deadline
          = timed.progressedAt + timed.options.noProgressTimeout := budgeted.keeps.deadline
      have fits_iff : DeadlineFits instantSize timed (.poll sources)
          ↔ timed.run.loop.policy.deadline < instantSize := by
        rw [deadline]
        constructor
        · exact fun fits => fits sources rfl found
        · rintro fits _ same _
          exact fits
      rw [fits_iff, next_deadline found]
      by_cases fits : timed.run.loop.policy.deadline < instantSize
      · rw [if_pos fits]
        exact ⟨iff_of_true rfl fits, fun refuted => absurd fits refuted⟩
      · rw [if_neg fits]
        refine ⟨iff_of_false (fun same => ?_) fits, fun _ => rfl⟩
        obtain ⟨after, endless⟩ := @endless_deadline usizeSize timed sources found
        rw [endless] at same
        cases same

/-- The instants of a clock that counts seconds in 64 bits with a sign. -/
def monotonicInstants : Nat := 2 ^ 63 * 1000000000

/-- `Duration::MAX`. -/
def maxDuration : Duration := 2 ^ 64 * 1000000000 - 1

/-- The longest timeout is valid, and panics before the loop is constructed. -/
theorem deadlines_fit_never
    : ¬∀ options now,
        options.validate = .ok () →
        now < monotonicInstants →
        ∃ loop, new monotonicInstants 10 1 options now = .ok loop := by
  intro always
  obtain ⟨loop, constructed⟩ := always ⟨100, maxDuration⟩ 0 rfl (by decide)
  rw [new_eq, if_neg (by decide)] at constructed
  cases constructed

/-- With a timeout of a minute the timer of the constructed loop fires without a panic. -/
theorem deadlines_fit_minute
    : ∃ loop,
        new monotonicInstants 10 1 ⟨100, seconds 60⟩ 0 = .ok loop
        ∧ next monotonicInstants u64Size ⟨⟨loop, .running, []⟩, ⟨100, seconds 60⟩, 0, 0, []⟩
            (.poll { deadline := true, now := seconds 60 })
          = TimedRun.next u64Size ⟨⟨loop, .running, []⟩, ⟨100, seconds 60⟩, 0, 0, []⟩
              (.poll { deadline := true, now := seconds 60 }) := by
  obtain ⟨constructs, runs⟩ := deadlines_fit_iff monotonicInstants u64Size
  obtain ⟨loop, constructed⟩ :=
    (constructs 10 1 ⟨100, seconds 60⟩ 0 rfl (by decide)).mpr (by decide)
  have started : (machine monotonicInstants u64Size).Reachable
      ⟨⟨loop, .running, []⟩, ⟨100, seconds 60⟩, 0, 0, []⟩ :=
    .initial ⟨10, 1, _, 0, loop, by decide, by decide, rfl, by decide, constructed, rfl⟩
  refine ⟨loop, constructed, (runs _ started _ ⟨?_, ?_⟩).1.mpr ?_⟩
  · have same : loop = DownloadLoop.new 10 1 ⟨100, seconds 60⟩ 0 := by
      rw [new_eq, if_pos (by decide)] at constructed
      exact (Except.ok.inj constructed).symm
    subst same
    decide +kernel
  · rintro sources same
    cases same
    decide
  · intro sources _ _
    exact (by decide : 0 + seconds 60 < monotonicInstants)

end Bounded

end BoltLoad
