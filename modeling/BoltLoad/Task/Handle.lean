import BoltLoad.Attempt.Outcome

/-! The handle of a spawned download, and what may happen to it while the attempt runs on its own
thread: it is awaited, dropped or detached, and whoever holds the token cancels. To `stop` a task is
to cancel it, and then to await it.
-/

namespace BoltLoad

/-- The outcome of a finished task. -/
structure TaskOutput where
  path : Path
  progress : Progress
  mode : DownloadMode
  deriving DecidableEq, Repr

/-- The outcome recorded in the final status. -/
def outcome (status : TaskStatus) : Except DownloadError TaskOutput :=
  match status.state with
  | .finished =>
      match status.info with
      | some info => .ok ⟨info.path, status.progress, info.mode⟩
      | none => .error .aborted
  | .cancelled => .error .cancelled
  | .failed => .error (status.error.getD .aborted)
  | _ => .error .aborted

/-- `StatusReceiver::borrow`: the newest status. -/
def Shared.current (shared : Shared) : TaskStatus :=
  shared.published.getLast?.getD (.new .pending .zero none)

theorem Shared.current_eq {shared : Shared} {status : TaskStatus}
    (last : status ∈ shared.published.getLast?)
    : shared.current = status := by
  rw [current, Option.mem_def.mp last]
  rfl

theorem outcome_finished {status : TaskStatus} {info : TaskInfo}
    (finished : status.state = .finished) (is : status.info = some info)
    : outcome status = .ok ⟨info.path, status.progress, info.mode⟩ := by
  rw [outcome, finished, is]

theorem outcome_failed {status : TaskStatus} {error : DownloadError}
    (failed : (status.state, some error) = Status.TaskState.ofOutcome (.error error))
    (is : status.error = some error)
    : status.state ≠ .finished ∧ outcome status = .error error := by
  obtain ⟨state, _⟩ := Prod.mk.inj failed
  rw [outcome, is, state]
  cases error with
  | cancelled => exact ⟨fun never => (by cases never), rfl⟩
  | _ => exact ⟨fun never => (by cases never), rfl⟩

/-- `Task`, beside the status and the token, which are the attempt's. -/
structure TaskHandle where
  /-- The attempt's thread is neither joined nor detached. -/
  join : Bool
  outcome : Option (Except DownloadError TaskOutput)

/-- A download: its attempt, and its handle until that is dropped or detached. -/
structure TaskRun where
  attempt : AttemptRun
  handle : Option TaskHandle
  /-- What awaiting the handle has returned. -/
  awaited : List (Except DownloadError TaskOutput)

inductive TaskEvent
  /-- The attempt goes on, or someone else cancels its token. -/
  | attempt (event : AttemptEvent)
  | cancel
  | poll
  | detach
  | drop

namespace TaskRun

/-- `TaskBuilder::spawn`. -/
def new (attempt : Drive.Attempt) (files : Path → Option Bytes) (cancelled : Bool) : TaskRun where
  attempt := .new attempt files cancelled
  handle := some ⟨true, none⟩
  awaited := []

def Enabled (usizeSize : Nat) (run : TaskRun) : TaskEvent → Prop
  | .attempt event => run.attempt.Enabled usizeSize event
  | _ => run.handle.isSome = true

instance (usizeSize : Nat) (run : TaskRun)
    : (event : TaskEvent) → Decidable (run.Enabled usizeSize event)
  | .attempt event => inferInstanceAs (Decidable (run.attempt.Enabled usizeSize event))
  | .cancel => inferInstanceAs (Decidable (_ = _))
  | .poll => inferInstanceAs (Decidable (_ = _))
  | .detach => inferInstanceAs (Decidable (_ = _))
  | .drop => inferInstanceAs (Decidable (_ = _))

/-- The token is cancelled. -/
def cancel (run : TaskRun) : TaskRun := { run with attempt := { run.attempt with cancelled := true } }

/-- Whether `blocking::Task` is ready: the closure of the attempt has returned. -/
def isReturned : AttemptStage → Bool
  | .returned => true
  | _ => false

/-- `Future::poll`. -/
def poll (run : TaskRun) (handle : TaskHandle) : Checked TaskRun :=
  if handle.join = true ∧ isReturned run.attempt.stage = false then
    .ok run
  else
    let handle : TaskHandle :=
      if handle.join then ⟨false, some (outcome run.attempt.shared.current)⟩ else handle
    match handle.outcome with
    | some result => .ok { run with handle := some handle, awaited := run.awaited ++ [result] }
    | none =>
        .error (.assertion "a task that is neither running nor detached has an outcome")

/-- `Drop::drop`. -/
def dropHandle (run : TaskRun) (handle : TaskHandle) : TaskRun :=
  if handle.join then { run.cancel with handle := none } else { run with handle := none }

/-- `detach`: the handle is dropped without its thread. -/
def detach (run : TaskRun) (handle : TaskHandle) : TaskRun :=
  run.dropHandle { handle with join := false }

def next (usizeSize : Nat) (run : TaskRun) : TaskEvent → Checked TaskRun
  | .attempt event => do
      let attempt ← run.attempt.next usizeSize event
      pure { run with attempt }
  | .cancel => pure run.cancel
  | .poll =>
      match run.handle with
      | some handle => run.poll handle
      | none => pure run
  | .detach =>
      match run.handle with
      | some handle => pure (run.detach handle)
      | none => pure run
  | .drop =>
      match run.handle with
      | some handle => pure (run.dropHandle handle)
      | none => pure run

/-- Every download, whatever its attempt is given. -/
def machine (usizeSize : Nat) : Machine TaskRun TaskEvent Panic where
  Initial run := ∃ attempt files cancelled, run = .new attempt files cancelled
  Enabled := Enabled usizeSize
  next := next usizeSize

instance (usizeSize : Nat) (run : TaskRun) (event : TaskEvent)
    : Decidable ((machine usizeSize).Enabled run event) :=
  inferInstanceAs (Decidable (run.Enabled usizeSize event))

-----------------------------------------------------------------------------------------
-- What one event does
-----------------------------------------------------------------------------------------

variable {usizeSize : Nat} {start before after run : TaskRun} {event : TaskEvent}

/-- A poll waits for the thread, or returns an outcome: the recorded one, or the one it takes from
the status.
-/
inductive Polls (run : TaskRun) (handle : TaskHandle) : TaskRun → Prop
  | waits (join : handle.join = true) (running : isReturned run.attempt.stage = false)
    : Polls run handle run
  | joins (join : handle.join = true) (returned : isReturned run.attempt.stage = true)
    : Polls run handle
        { run with
          handle := some ⟨false, some (outcome run.attempt.shared.current)⟩
          awaited := run.awaited ++ [outcome run.attempt.shared.current] }
  | again {result : Except DownloadError TaskOutput} (join : handle.join = false)
    (cached : handle.outcome = some result)
    : Polls run handle { run with awaited := run.awaited ++ [result], handle := some handle }

theorem polls_of_poll {handle : TaskHandle} (polls : run.poll handle = .ok after)
    : run.Polls handle after := by
  unfold poll at polls
  split at polls
  · rename_i waits
    cases polls
    exact .waits waits.1 waits.2
  · rename_i ready
    cases join : handle.join with
    | true =>
        have returned : isReturned run.attempt.stage = true :=
          eq_true_of_ne_false (fun running => ready ⟨join, running⟩)
        simp only [join, if_true] at polls
        cases polls
        exact .joins join returned
    | false =>
        simp only [join, Bool.false_eq_true, if_false] at polls
        cases cached : handle.outcome with
        | none =>
            rw [cached] at polls
            cases polls
        | some result =>
            rw [cached] at polls
            cases polls
            exact .again join cached

/-- Everything an event can do. -/
inductive Moves (usizeSize : Nat) (before : TaskRun) : TaskEvent → TaskRun → Prop
  | attempt {event : AttemptEvent} {attempt : AttemptRun}
    (step : (AttemptRun.machine usizeSize).Step before.attempt event attempt)
    : Moves usizeSize before (.attempt event) { before with attempt }
  | cancel : Moves usizeSize before .cancel before.cancel
  | poll {handle : TaskHandle} {after : TaskRun} (held : before.handle = some handle)
    (polls : before.Polls handle after)
    : Moves usizeSize before .poll after
  | detach : Moves usizeSize before .detach { before with handle := none }
  | drop {handle : TaskHandle} (held : before.handle = some handle)
    : Moves usizeSize before .drop (before.dropHandle handle)

theorem moves_of_step (step : (machine usizeSize).Step before event after)
    : Moves usizeSize before event after := by
  obtain ⟨enabled, next⟩ := step
  cases event with
  | attempt event =>
      obtain ⟨attempt, stepped, same⟩ := Checked.bind_eq_ok.mp next
      cases same
      exact .attempt ⟨enabled, stepped⟩
  | cancel =>
      cases next
      exact .cancel
  | poll =>
      obtain ⟨handle, held⟩ := Option.isSome_iff_exists.mp enabled
      simp only [machine, TaskRun.next, held] at next
      exact .poll held (polls_of_poll next)
  | detach =>
      obtain ⟨handle, held⟩ := Option.isSome_iff_exists.mp enabled
      simp only [machine, TaskRun.next, held] at next
      cases next
      exact .detach
  | drop =>
      obtain ⟨handle, held⟩ := Option.isSome_iff_exists.mp enabled
      simp only [machine, TaskRun.next, held] at next
      cases next
      exact .drop held

/-- A cancellation of the token is a step of the attempt. -/
theorem cancel_step (run : TaskRun)
    : (AttemptRun.machine usizeSize).Step run.attempt .cancel run.cancel.attempt :=
  ⟨trivial, rfl⟩

/-- What an event does to the attempt: one step of its own, or a cancellation, or nothing. -/
theorem Moves.attempt_step (moves : Moves usizeSize before event after)
    : after.attempt = before.attempt
      ∨ ∃ attemptEvent,
          (AttemptRun.machine usizeSize).Step before.attempt attemptEvent after.attempt
          ∧ (event = .attempt attemptEvent ∨ attemptEvent = .cancel) := by
  cases moves with
  | attempt step => exact .inr ⟨_, step, .inl rfl⟩
  | cancel => exact .inr ⟨.cancel, cancel_step before, .inr rfl⟩
  | poll held polls => cases polls <;> exact .inl rfl
  | detach => exact .inl rfl
  | @drop handle held =>
      unfold dropHandle
      split
      · exact .inr ⟨.cancel, cancel_step before, .inr rfl⟩
      · exact .inl rfl

/-- The attempt of a download is an attempt. -/
theorem simulates
    : Machine.Simulation (machine usizeSize) (AttemptRun.machine usizeSize) TaskRun.attempt where
  initial := by
    rintro _ ⟨attempt, files, cancelled, rfl⟩
    exact ⟨attempt, files, cancelled, rfl⟩
  step before event after _ step := by
    rcases (moves_of_step step).attempt_step with same | ⟨attemptEvent, stepped, _⟩
    · exact .inl same
    · exact .inr ⟨attemptEvent, stepped⟩

-----------------------------------------------------------------------------------------
-- Awaiting
-----------------------------------------------------------------------------------------

theorem isReturned_iff {stage : AttemptStage} : isReturned stage = true ↔ stage = .returned := by
  cases stage with
  | returned => exact iff_of_true rfl rfl
  | _ => exact iff_of_false (fun never => by cases never) (fun never => by cases never)

/-- What was awaited, and what is cached, is the outcome of the status there is. -/
structure Sound (run : TaskRun) : Prop where
  awaited
    : ∀ result ∈ run.awaited,
        run.attempt.stage = .returned ∧ result = outcome run.attempt.shared.current
  cached
    : ∀ handle ∈ run.handle,
        handle.join = false
        → run.attempt.stage = .returned
          ∧ handle.outcome = some (outcome run.attempt.shared.current)

/-- The status of an attempt that returned stays. -/
theorem Sound.of_attempt {attempt : AttemptRun} (sound : run.Sound)
    (stays
      : run.attempt.stage = .returned
        → attempt.stage = .returned ∧ attempt.shared = run.attempt.shared)
    : Sound { run with attempt } := by
  constructor
  · intro result inside
    obtain ⟨returned, same⟩ := sound.awaited result inside
    obtain ⟨stage, shared⟩ := stays returned
    exact ⟨stage, by rw [shared]; exact same⟩
  · intro handle held join
    obtain ⟨returned, same⟩ := sound.cached handle held join
    obtain ⟨stage, shared⟩ := stays returned
    exact ⟨stage, by rw [shared]; exact same⟩

theorem Sound.next (sound : before.Sound) (step : (machine usizeSize).Step before event after)
    : after.Sound := by
  have moves := moves_of_step step
  clear step
  cases moves with
  | attempt step =>
      refine sound.of_attempt (fun returned => ?_)
      rw [AttemptRun.next_of_returned returned step]
      exact ⟨returned, rfl⟩
  | cancel => exact sound.of_attempt (fun returned => ⟨returned, rfl⟩)
  | @poll handle _ held polls =>
      cases polls with
      | waits => exact sound
      | joins join returned =>
          have gone := isReturned_iff.mp returned
          constructor
          · intro result inside
            rcases List.mem_append.mp inside with earlier | last
            · exact sound.awaited result earlier
            · exact ⟨gone, List.mem_singleton.mp last⟩
          · rintro _ ⟨⟩ _
            exact ⟨gone, rfl⟩
      | again join cached =>
          obtain ⟨gone, same⟩ := sound.cached handle held join
          constructor
          · intro result inside
            rcases List.mem_append.mp inside with earlier | last
            · exact sound.awaited result earlier
            · rw [List.mem_singleton.mp last]
              exact ⟨gone, Option.some.inj (cached.symm.trans same)⟩
          · rintro _ ⟨⟩ _
            exact ⟨gone, same⟩
  | detach => exact ⟨sound.awaited, fun _ never => by cases never⟩
  | drop held =>
      unfold dropHandle
      split
      · have cancels := @Sound.of_attempt before before.cancel.attempt sound
          (fun returned => ⟨returned, rfl⟩)
        exact ⟨cancels.awaited, fun _ never => by cases never⟩
      · exact ⟨sound.awaited, fun _ never => by cases never⟩

theorem reachable_sound (reached : (machine usizeSize).Reachable run)
    : run.Sound := by
  refine reached.invariant ?_ (fun _ _ _ _ sound step => sound.next step)
  rintro _ ⟨attempt, files, cancelled, rfl⟩
  refine ⟨fun _ never => (by cases never), ?_⟩
  rintro _ ⟨⟩ never
  cases never

/-- How a task is awaited. -/
structure Awaits (usizeSize : Nat) (run : TaskRun) : Prop where
  /-- Nothing panics, neither the attempt's status nor a poll. -/
  returns : ∀ event, run.Enabled usizeSize event → ∃ after, run.next usizeSize event = .ok after
  /-- A poll is ready once the attempt's thread has returned. -/
  ready
    : run.attempt.stage = .returned
      → ∀ handle ∈ run.handle,
          ∃ after,
            run.next usizeSize .poll = .ok after
            ∧ after.awaited = run.awaited ++ [outcome run.attempt.shared.current]
            ∧ after.attempt = run.attempt
  /-- Before, it changes nothing. -/
  waits
    : run.attempt.stage ≠ .returned → ∀ handle ∈ run.handle, run.next usizeSize .poll = .ok run
  /-- What it returns, every time, is what the terminal status records. -/
  awaited
    : ∀ result ∈ run.awaited,
        run.attempt.stage = .returned
        ∧ ∃ status ∈ run.attempt.shared.published.getLast?,
            status.state.isTerminal = true
            ∧ (status.state = .finished
              ∧ (∃ info ∈ run.attempt.shared.info,
                status.info = some info ∧ result = .ok ⟨info.path, status.progress, info.mode⟩)
              ∨ status.state ≠ .finished
                ∧ ∃ error, status.error = some error ∧ result = .error error)

/-- Awaiting a task returns once its attempt has, and then always the same: the outcome it published
last.
-/
theorem awaits_outcome (reached : (machine usizeSize).Reachable run)
    : run.Awaits usizeSize := by
  have attempt := simulates.reachable reached
  have sound := reachable_sound reached
  obtain ⟨phase, stands, fits⟩ := AttemptRun.reachable_course attempt
  have pollReady (returned : run.attempt.stage = .returned) {handle : TaskHandle}
      (held : run.handle = some handle)
      : ∃ after,
          run.next usizeSize .poll = .ok after
          ∧ after.awaited = run.awaited ++ [outcome run.attempt.shared.current]
          ∧ after.attempt = run.attempt := by
    have ready : isReturned run.attempt.stage = true := isReturned_iff.mpr returned
    simp only [TaskRun.next, held, poll, ready, Bool.true_eq_false, and_false, if_false]
    cases join : handle.join with
    | true => exact ⟨_, rfl, rfl, rfl⟩
    | false =>
        have cached := (sound.cached handle held join).2
        simp only [Bool.false_eq_true, if_false, cached]
        exact ⟨_, rfl, rfl, rfl⟩
  have pollWaits (running : run.attempt.stage ≠ .returned) {handle : TaskHandle}
      (held : run.handle = some handle)
      : run.next usizeSize .poll = .ok run := by
    have join : handle.join = true :=
      eq_true_of_ne_false (fun joined => running (sound.cached handle held joined).1)
    have waits : isReturned run.attempt.stage = false :=
      eq_false_of_ne_true (fun returned => running (isReturned_iff.mp returned))
    simp only [TaskRun.next, held, poll, join, waits, and_self, if_true]
  refine ⟨?_, ?_, ?_, ?_⟩
  · intro event enabled
    cases event with
    | attempt event =>
        obtain ⟨after, _, stepped, _⟩ := AttemptRun.next_keeps stands fits enabled
        exact ⟨{ run with attempt := after }, by simp only [TaskRun.next, stepped]; rfl⟩
    | cancel => exact ⟨_, rfl⟩
    | poll =>
        obtain ⟨handle, held⟩ := Option.isSome_iff_exists.mp enabled
        by_cases returned : run.attempt.stage = .returned
        · obtain ⟨after, polls, _⟩ := pollReady returned held
          exact ⟨after, polls⟩
        · exact ⟨run, pollWaits returned held⟩
    | detach =>
        obtain ⟨handle, held⟩ := Option.isSome_iff_exists.mp enabled
        exact ⟨run.detach handle, by simp only [TaskRun.next, held]; rfl⟩
    | drop =>
        obtain ⟨handle, held⟩ := Option.isSome_iff_exists.mp enabled
        exact ⟨run.dropHandle handle, by simp only [TaskRun.next, held]; rfl⟩
  · exact fun returned handle held => pollReady returned held
  · exact fun running handle held => pollWaits running held
  · intro result inside
    obtain ⟨returned, same⟩ := sound.awaited result inside
    obtain ⟨status, last, terminal, records⟩ := AttemptRun.returned_records attempt returned
    rw [Shared.current_eq last] at same
    refine ⟨returned, status, last, terminal, ?_⟩
    rcases records with ⟨info, known, finished, is, _⟩ | ⟨error, failed, is⟩
    · exact .inl ⟨finished, info, known, is, same.trans (outcome_finished finished is)⟩
    · obtain ⟨other, fails⟩ := outcome_failed failed is
      exact .inr ⟨other, error, is, same.trans fails⟩

/-- A download that replaces an older file, awaited twice. -/
def replaces : List TaskEvent :=
  AttemptRun.fallsBackAndCommits.map .attempt ++ [.poll, .poll]

def olderFile : Path → Option Bytes := fun path => if path = "file" then some [9, 9, 9] else none

theorem awaits_outcome_twice
    : ∃ run : TaskRun,
        run.Awaits u64Size
        ∧ run.awaited.map (fun result => result.toOption.map TaskOutput.path)
          = [some "file", some "file"] := by
  have started : (machine u64Size).Reachable (.new ⟨none, none⟩ olderFile false) :=
    .initial ⟨_, _, _, rfl⟩
  have executes
      : ((machine u64Size).execute (.new ⟨none, none⟩ olderFile false) replaces).map
          (fun run => run.awaited.map (fun result => result.toOption.map TaskOutput.path))
        = some [some "file", some "file"] := by
    decide +kernel
  obtain ⟨run, executed, awaited⟩ := Option.map_eq_some_iff.mp executes
  exact ⟨run, awaits_outcome (started.execute replaces executed), awaited⟩

-----------------------------------------------------------------------------------------
-- What an outcome tells of the files
-----------------------------------------------------------------------------------------

/-- The events of the attempt in a run, by induction on the events. -/
theorem execute_attempt {events : List TaskEvent}
    (executed : (machine usizeSize).execute start events = some run)
    : ∃ attemptEvents,
        (AttemptRun.machine usizeSize).execute start.attempt attemptEvents = some run.attempt
        ∧ ((∀ event ∈ events, ∀ message, event ≠ .attempt (.panic message))
          → ∀ event ∈ attemptEvents, event.isPanic = false) := by
  induction events using List.reverseRecOn generalizing run with
  | nil =>
      cases executed
      exact ⟨[], rfl, fun _ _ never => by cases never⟩
  | append_singleton events event ih =>
      obtain ⟨before, earlier, step⟩ := (machine usizeSize).execute_concat.mp executed
      obtain ⟨attemptEvents, attempted, calm⟩ := ih earlier
      have calm' (all : ∀ other ∈ events ++ [event], ∀ message, other ≠ .attempt (.panic message)) :=
        calm (fun other inside => all other (List.mem_append_left _ inside))
      rcases (moves_of_step step).attempt_step with same | ⟨attemptEvent, stepped, is⟩
      · exact ⟨attemptEvents, by rw [same]; exact attempted, calm'⟩
      · refine ⟨attemptEvents ++ [attemptEvent],
          (AttemptRun.machine usizeSize).execute_concat.mpr ⟨_, attempted, stepped⟩, ?_⟩
        intro all other inside
        rcases List.mem_append.mp inside with inside | last
        · exact calm' all other inside
        · rw [List.mem_singleton.mp last]
          rcases is with rfl | rfl
          · cases attemptEvent with
            | panic message => exact absurd rfl (all _ (by simp) message)
            | _ => rfl
          · rfl

/-- What the outcome of a task tells of the files: a finished task's file was renamed, once its
workers were gone and before anyone cancelled; a failed one's is as it was, unless it panicked.
-/
structure Settles (usizeSize : Nat) (start run : TaskRun) (calm : Prop) : Prop where
  finished
    : ∀ output,
        .ok output ∈ run.awaited
        → ∃ events info content,
            (AttemptRun.machine usizeSize).execute start.attempt events = some run.attempt
            ∧ run.attempt.shared.info = some info
            ∧ output.path = info.path
            ∧ output.mode = info.mode
            ∧ run.attempt.files output.path = some content
            ∧ AttemptRun.Renamed usizeSize start.attempt events info content
  failed
    : calm
      → ∀ error,
          .error error ∈ run.awaited
          → ∀ path,
              (∀ info ∈ run.attempt.shared.info, path ≠ tmpPathFor info.path)
              → run.attempt.files path = start.attempt.files path

theorem outcome_settles {attempt : Drive.Attempt} {files : Path → Option Bytes}
    {cancelled : Bool} {events : List TaskEvent}
    (executed : (machine usizeSize).execute (.new attempt files cancelled) events = some run)
    : Settles usizeSize (.new attempt files cancelled) run
        (∀ event ∈ events, ∀ message, event ≠ .attempt (.panic message)) := by
  obtain ⟨attemptEvents, attempted, calm⟩ := execute_attempt executed
  have started : (machine usizeSize).Reachable (.new attempt files cancelled) :=
    .initial ⟨_, _, _, rfl⟩
  have reached := started.execute events executed
  have sound := reachable_sound reached
  have recorded {result : Except DownloadError TaskOutput} (inside : result ∈ run.awaited)
      := AttemptRun.returned_records (simulates.reachable reached) (sound.awaited result inside).1
  constructor
  · intro output inside
    have same := (sound.awaited _ inside).2
    obtain ⟨status, last, _, records⟩ := recorded inside
    rw [Shared.current_eq last] at same
    rcases records with ⟨info, known, finished, is, _⟩ | ⟨error, failed, is⟩
    · cases same.trans (outcome_finished finished is)
      obtain ⟨info', known', content, written, renamed⟩ :=
        AttemptRun.execute_committed attempted status last finished
      cases known.symm.trans known'
      exact ⟨attemptEvents, info, content, attempted, known, rfl, rfl, written, renamed⟩
    · cases same.trans (outcome_failed failed is).2
  · intro calmly error inside path other
    obtain ⟨returned, same⟩ := sound.awaited _ inside
    have accounts := AttemptRun.execute_accounts attempted (calm calmly)
    rw [AttemptRun.Accounts, returned] at accounts
    obtain ⟨status, last, result, state, decided⟩ := accounts
    rw [Shared.current_eq last] at same
    have fails : result.isOk = false := by
      cases result with
      | error reason => rfl
      | ok done =>
          obtain ⟨status', last', _, records⟩ := recorded inside
          cases Option.mem_unique last last'
          rcases records with ⟨info, _, finished, is, _⟩ | ⟨reason, failed, is⟩
          · cases same.trans (outcome_finished finished is)
          · exact absurd state (outcome_failed failed is).1
    cases known : run.attempt.shared.info with
    | none =>
        rw [known] at decided
        exact congrFun decided.1 path
    | some info =>
        rw [known] at decided other
        generalize status.leftoverTempFile = leftover at decided
        change AttemptRun.Settled usizeSize _ _ info run.attempt.files result leftover at decided
        cases decided with
        | renamed => cases fails
        | discarded intact => exact intact path (other info rfl)

theorem outcome_settles_replaces
    : ∃ run,
        Settles u64Size (.new ⟨none, none⟩ olderFile false) run
          (∀ event ∈ replaces, ∀ message, event ≠ .attempt (.panic message))
        ∧ run.awaited.map (fun result => result.isOk) = [true, true]
        ∧ run.attempt.files "file" = some [1, 2] := by
  have executes
      : ((machine u64Size).execute (.new ⟨none, none⟩ olderFile false) replaces).map
          (fun run => (run.awaited.map (fun result => result.isOk), run.attempt.files "file"))
        = some ([true, true], some [1, 2]) := by
    decide +kernel
  obtain ⟨run, executed, left⟩ := Option.map_eq_some_iff.mp executes
  obtain ⟨awaited, destination⟩ := Prod.mk.inj left
  exact ⟨run, outcome_settles executed, awaited, destination⟩

-----------------------------------------------------------------------------------------
-- Cancelling
-----------------------------------------------------------------------------------------

/-- The events that cancel the token: `cancel`, with which `stop` begins, by the handle or by someone
else, and the drop of a handle that is not joined.
-/
def Cancels (run : TaskRun) : TaskEvent → Prop
  | .attempt .cancel => True
  | .cancel => True
  | .drop => ∃ handle ∈ run.handle, handle.join = true
  | _ => False

theorem Moves.cancelled (moves : Moves usizeSize before event after)
    (cancels : before.Cancels event)
    : after.attempt = { before.attempt with cancelled := true } := by
  cases moves with
  | @attempt event attempt step =>
      cases event with
      | cancel =>
          cases step.next
          rfl
      | _ => exact cancels.elim
  | cancel => rfl
  | poll => exact cancels.elim
  | detach => exact cancels.elim
  | drop held =>
      obtain ⟨_, same, join⟩ := cancels
      cases held.symm.trans same
      rw [dropHandle, if_pos join]
      rfl

/-- A task that is cancelled, stopped or dropped before the commit rule lets its file pass never
finishes, whatever happens then: awaiting it fails, and beside the temporary file nothing changes.
-/
theorem cancel_discards (reached : (machine usizeSize).Reachable before)
    (uncommitted : before.attempt.Uncommitted)
    (step : (machine usizeSize).Step before event after) (cancels : before.Cancels event)
    (goesOn : ((machine usizeSize).startingAt after).Reachable run)
    : (∀ result ∈ run.awaited, ∃ error, result = .error error)
      ∧ (∀ status ∈ run.attempt.shared.published.getLast?, status.state ≠ .finished)
      ∧ ∀ path,
          (∀ info ∈ run.attempt.shared.info, path ≠ tmpPathFor info.path)
          → run.attempt.files path = before.attempt.files path := by
  have cancelled := (moves_of_step step).cancelled cancels
  have later := reached.step step
  have discards : AttemptRun.Discards before.attempt run.attempt := by
    induction goesOn with
    | initial same =>
        cases same
        rw [cancelled]
        exact ⟨rfl, uncommitted, fun _ _ => rfl⟩
    | @step early event late earlier step ih =>
        have step : (machine usizeSize).Step early event late := ⟨step.enabled, step.next⟩
        rcases (moves_of_step step).attempt_step with same | ⟨attemptEvent, stepped, _⟩
        · rw [same]
          exact ih
        · exact ih.next (simulates.reachable (later.of_startingAt earlier)) stepped
  have ends := later.of_startingAt goesOn
  have attempt := simulates.reachable ends
  have unfinished := discards.uncommitted.unfinished attempt
  refine ⟨fun result inside => ?_, unfinished, discards.files⟩
  obtain ⟨returned, same⟩ := (reachable_sound ends).awaited result inside
  obtain ⟨status, last, _, records⟩ := AttemptRun.returned_records attempt returned
  rw [Shared.current_eq last] at same
  rcases records with ⟨info, _, finished, _⟩ | ⟨error, failed, is⟩
  · exact absurd finished (unfinished status last)
  · exact ⟨error, same.trans (outcome_failed failed is).2⟩

/-- A task that is stopped before it starts. -/
theorem cancel_discards_pending
    : ∃ run : TaskRun,
        run.awaited = [.error .cancelled]
        ∧ (∀ status ∈ run.attempt.shared.published.getLast?, status.state ≠ .finished) := by
  let before : TaskRun := .new ⟨none, none⟩ olderFile false
  have reached : (machine u64Size).Reachable before := .initial ⟨_, _, _, rfl⟩
  have step : (machine u64Size).Step before .cancel before.cancel := ⟨rfl, rfl⟩
  have executes
      : (((machine u64Size).startingAt before.cancel).execute before.cancel
          [ .attempt (.start true)
          , .attempt (.initialized ⟨.ok ⟨2, none⟩, true, .ok "file", .ok ()⟩)
          , .poll
          , .attempt .return
          , .poll ]).map TaskRun.awaited
        = some [.error .cancelled] := by
    decide +kernel
  obtain ⟨run, executed, awaited⟩ := Option.map_eq_some_iff.mp executes
  have started : ((machine u64Size).startingAt before.cancel).Reachable before.cancel :=
    .initial rfl
  have goesOn := started.execute _ executed
  exact ⟨run, awaited, (cancel_discards reached trivial step trivial goesOn).2.1⟩

end TaskRun

end BoltLoad
