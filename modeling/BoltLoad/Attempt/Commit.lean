import BoltLoad.Attempt.Model
import BoltLoad.SingletonTask.Exact

/-! What an attempt does to the files, over every run without a panic. The destination changes
by the rename of the temporary file only, which the commit rule lets through once the workers
of the transfer are gone; otherwise the temporary file is removed, or named in the status.
-/

namespace BoltLoad

def AttemptEvent.isPanic : AttemptEvent → Bool
  | panic _ => true
  | _ => false

-----------------------------------------------------------------------------------------
-- The workers of a transfer
-----------------------------------------------------------------------------------------

/-- The runners are joined before the flush, and the workers before the return. -/
def ConcurrentRun.Joins (run : ConcurrentRun) : Prop :=
  match run.stage with
  | .creatingWriter => run.runners = 0 ∧ run.writers = 0
  | .running => True
  | .joining _ => True
  | .flushing _ => run.runners = 0
  | .finalizing _ => run.runners = 0
  | .returned _ => run.runners = 0 ∧ run.writers = 0

theorem ConcurrentRun.new_joins (total : Nat) (disk : Option Bytes)
    : (new total disk).Joins :=
  ⟨rfl, rfl⟩

theorem ConcurrentRun.Joins.next {usizeSize : Nat} {run : ConcurrentRun}
    {event : ConcurrentEvent} (joins : run.Joins) (enabled : run.Enabled usizeSize event)
    : (run.next usizeSize event).Joins := by
  obtain ⟨total, progress, stage, runners, writers, disk⟩ := run
  cases event with
  | created outcome =>
      obtain ⟨creating, -⟩ := enabled
      dsimp only at creating
      subst creating
      cases outcome <;> first | exact trivial | exact joins
  | spawn =>
      dsimp only [Enabled] at enabled
      subst enabled
      trivial
  | runnerExits =>
      have alive : 0 < runners := enabled
      cases stage with
      | running | joining => trivial
      | creatingWriter | returned =>
          have gone : runners = 0 := joins.1
          omega
      | flushing | finalizing =>
          have gone : runners = 0 := joins
          omega
  | write start data => exact joins
  | workerExits =>
      have alive : 0 < writers := enabled
      cases stage with
      | running | joining => trivial
      | creatingWriter | returned =>
          have gone : writers = 0 := joins.2
          omega
      | flushing | finalizing => exact joins
  | ran result downloaded downloadedChunks => trivial
  | joined =>
      obtain ⟨joining, gone⟩ := enabled
      cases stage with
      | joining result => exact gone
      | _ => cases joining
  | flushed flush =>
      cases stage with
      | flushing result => exact joins
      | _ => cases enabled
  | finalized final =>
      obtain ⟨finalizing, gone⟩ := enabled
      cases stage with
      | finalizing result => exact ⟨joins, gone⟩
      | _ => cases finalizing

namespace TransferRun

variable {usizeSize : Nat} {transfer : TransferRun}

def Joins : TransferRun → Prop
  | concurrent run => run.Joins
  | singleton _ => True

/-- No runner and no writer is left. The one connection drives its runner inline, and drops it
with the file.
-/
def Exited : TransferRun → Prop
  | concurrent run => run.runners = 0 ∧ run.writers = 0
  | singleton run => run.stage.isReturned = true

theorem Joins.next {event : TransferRunEvent} {cancelled : Bool} {after : TransferRun}
    (joins : transfer.Joins) (enabled : transfer.Enabled usizeSize cancelled event)
    (steps : transfer.next usizeSize event = .ok after)
    : after.Joins := by
  cases transfer with
  | concurrent run =>
      cases event with
      | concurrent event =>
          cases steps
          exact ConcurrentRun.Joins.next joins enabled
      | singleton event => exact enabled.elim
  | singleton run =>
      cases event with
      | concurrent event => exact enabled.elim
      | singleton event =>
          obtain ⟨later, -, same⟩ := Checked.bind_eq_ok.mp steps
          cases same
          trivial

/-- A transfer that has returned has no worker left. -/
theorem Joins.exited {result : Except DownloadError Unit} (joins : transfer.Joins)
    (returned : transfer.result = some result)
    : transfer.Exited := by
  cases transfer with
  | concurrent run =>
      obtain ⟨total, progress, stage, runners, writers, disk⟩ := run
      cases stage with
      | returned => exact joins
      | _ => cases returned
  | singleton run =>
      cases stage : run.stage with
      | returned => simp [Exited, SingletonStage.isReturned, stage]
      | _ => simp [TransferRun.result, stage] at returned

/-- Nothing of it happens any more. -/
theorem Joins.silent {result : Except DownloadError Unit} {cancelled : Bool}
    (joins : transfer.Joins) (returned : transfer.result = some result)
    (event : TransferRunEvent)
    : ¬ transfer.Enabled usizeSize cancelled event := by
  intro enabled
  cases transfer with
  | concurrent run =>
      cases event with
      | singleton event => exact enabled
      | concurrent event =>
          obtain ⟨total, progress, stage, runners, writers, disk⟩ := run
          cases stage with
          | returned result =>
              obtain ⟨runnersGone, writersGone⟩ : runners = 0 ∧ writers = 0 := joins
              subst runnersGone writersGone
              cases event with
              | created | joined | finalized => cases enabled.1
              | runnerExits | write | workerExits => exact absurd enabled (Nat.lt_irrefl 0)
              | spawn | ran | flushed => cases enabled
          | _ => cases returned
  | singleton run =>
      cases event with
      | concurrent event => exact enabled
      | singleton event =>
          have enabled : run.Enabled event := enabled.1
          cases stage : run.stage with
          | returned =>
              cases event with
              | flushed flush =>
                  cases flush <;>
                    simp [SingletonRun.Enabled, SingletonStage.isFlushing, stage] at enabled
              | _ =>
                  simp [SingletonRun.Enabled, SingletonRun.PastRunner, SingletonStage.isWriting,
                    SingletonStage.isReturned, stage] at enabled
          | _ => simp [TransferRun.result, stage] at returned

end TransferRun

-----------------------------------------------------------------------------------------
-- The rename
-----------------------------------------------------------------------------------------

namespace AttemptRun

variable {usizeSize : Nat} {start before after : AttemptRun} {events : List AttemptEvent}
  {event : AttemptEvent} {info : TaskInfo} {transfer : TransferRun}

/-- The commit rule lets a transfer pass: it succeeded, it is over, and nobody has cancelled. -/
structure Passes (run : AttemptRun) (info : TaskInfo) (transfer : TransferRun) : Prop where
  stage : run.stage = .transferring info transfer
  succeeded : transfer.result = some (.ok ())
  exited : transfer.Exited
  uncancelled : run.cancelled = false

/-- It has let the transfer pass in these events. -/
def Passed (usizeSize : Nat) (start : AttemptRun) (events : List AttemptEvent)
    (info : TaskInfo) (transfer : TransferRun)
    : Prop :=
  ∃ earlier later before,
    events = earlier ++ .commit :: later
    ∧ (machine usizeSize).execute start earlier = some before
    ∧ before.Passes info transfer

/-- The temporary file of a transfer that had passed was renamed in these events. -/
def Renamed (usizeSize : Nat) (start : AttemptRun) (events : List AttemptEvent)
    (info : TaskInfo) (content : Bytes)
    : Prop :=
  ∃ earlier later before transfer,
    events = earlier ++ .renamed (.ok ()) :: later
    ∧ (machine usizeSize).execute start earlier = some before
    ∧ before.stage = .publishing info transfer
    ∧ before.files (tmpPathFor info.path) = some content
    ∧ Passed usizeSize start earlier info transfer

theorem Passed.concat (passed : Passed usizeSize start events info transfer)
    (event : AttemptEvent)
    : Passed usizeSize start (events ++ [event]) info transfer := by
  obtain ⟨earlier, later, before, same, executed, passes⟩ := passed
  exact ⟨earlier, later ++ [event], before, by simp [same], executed, passes⟩

theorem Renamed.concat {content : Bytes} (renamed : Renamed usizeSize start events info content)
    (event : AttemptEvent)
    : Renamed usizeSize start (events ++ [event]) info content := by
  obtain ⟨earlier, later, before, transfer, same, rest⟩ := renamed
  exact ⟨earlier, later ++ [event], before, transfer, by simp [same], rest⟩

-----------------------------------------------------------------------------------------
-- The files
-----------------------------------------------------------------------------------------

/-- Anything but the temporary file is as it was. -/
def Intact (start : AttemptRun) (info : TaskInfo) (files : Path → Option Bytes) : Prop :=
  ∀ path, path ≠ tmpPathFor info.path → files path = start.files path

/-- The outcome of a transfer, and the files it leaves. -/
inductive Settled (usizeSize : Nat) (start : AttemptRun) (events : List AttemptEvent)
    (info : TaskInfo) (files : Path → Option Bytes)
    : Except DownloadError Unit → Option Path → Prop
  | renamed {content : Bytes} (renamed : Renamed usizeSize start events info content)
    (destination : files info.path = some content)
    (temporary : files (tmpPathFor info.path) = none)
    (others
      : ∀ path,
          path ≠ tmpPathFor info.path → path ≠ info.path → files path = start.files path)
    : Settled usizeSize start events info files (.ok ()) none
  | discarded {error : DownloadError} {leftover : Option Path} (intact : Intact start info files)
    (temporary
      : files (tmpPathFor info.path) = none ∨ leftover = some (tmpPathFor info.path))
    : Settled usizeSize start events info files (.error error) leftover

/-- An attempt that never started a transfer fails and leaves everything as it was. -/
def Decided (usizeSize : Nat) (start : AttemptRun) (events : List AttemptEvent)
    (files : Path → Option Bytes) (outcome : Except DownloadError Unit) (leftover : Option Path)
    : Option TaskInfo → Prop
  | none => files = start.files ∧ outcome.isOk = false
  | some info => Settled usizeSize start events info files outcome leftover

/-- What is known of the files in each stage. -/
def Accounts (usizeSize : Nat) (start : AttemptRun) (events : List AttemptEvent)
    (run : AttemptRun)
    : Prop :=
  match run.stage with
  | .spawned => run.shared.info = none ∧ run.files = start.files
  | .initializing => run.shared.info = none ∧ run.files = start.files
  | .transferring info transfer =>
      run.shared.info = some info ∧ Intact start info run.files ∧ transfer.Joins
  | .publishing info transfer =>
      run.shared.info = some info
      ∧ Intact start info run.files
      ∧ Passed usizeSize start events info transfer
  | .discarding info _ _ => run.shared.info = some info ∧ Intact start info run.files
  | .tornDown info _ teardown =>
      run.shared.info = some info
      ∧ Settled usizeSize start events info run.files teardown.result teardown.leftoverTempFile
  | .panicked _ => False
  | .finished | .returned =>
      ∃ status ∈ run.shared.published.getLast?,
        ∃ outcome,
          status.state = (Status.TaskState.ofOutcome outcome).1
          ∧ Decided usizeSize start events run.files outcome status.leftoverTempFile
              run.shared.info

theorem Settled.concat {files : Path → Option Bytes} {outcome : Except DownloadError Unit}
    {leftover : Option Path}
    (settled : Settled usizeSize start events info files outcome leftover)
    (event : AttemptEvent)
    : Settled usizeSize start (events ++ [event]) info files outcome leftover := by
  cases settled with
  | renamed renamed destination temporary others =>
      exact .renamed (renamed.concat event) destination temporary others
  | discarded intact temporary => exact .discarded intact temporary

theorem Decided.concat {files : Path → Option Bytes} {outcome : Except DownloadError Unit}
    {leftover : Option Path} {known : Option TaskInfo}
    (decided : Decided usizeSize start events files outcome leftover known)
    (event : AttemptEvent)
    : Decided usizeSize start (events ++ [event]) files outcome leftover known := by
  cases known with
  | none => exact decided
  | some info => exact Settled.concat decided event

/-- The terminal status tells what was decided. -/
theorem finish_accounts {run : AttemptRun} {outcome : Except DownloadError Unit}
    {progress : Progress} {leftover : Option Path}
    (finishes : run.finish outcome progress leftover = .ok after)
    (decided : Decided usizeSize start events run.files outcome leftover run.shared.info)
    : Accounts usizeSize start events after := by
  obtain ⟨shared, published, same⟩ := Checked.bind_eq_ok.mp finishes
  cases same
  unfold Shared.finish at published
  split at published
  · cases published
  · cases published
    exact ⟨_, List.getLast?_concat, outcome, rfl, decided⟩

/-- A transfer starts with every other file as it was. -/
theorem drive_accounts {run : AttemptRun} (drives : run.drive info transfer = .ok after)
    (intact : Intact start info run.files) (joins : transfer.Joins)
    : Accounts usizeSize start events after := by
  obtain ⟨shared, published, same⟩ := Checked.bind_eq_ok.mp drives
  cases same
  unfold Shared.downloading Shared.publish at published
  dsimp only at published
  split at published
  · cases published
  · cases published
    exact ⟨rfl, intact, joins⟩

-----------------------------------------------------------------------------------------
-- One event
-----------------------------------------------------------------------------------------

theorem Accounts.concat {run : AttemptRun} (accounts : Accounts usizeSize start events run)
    (event : AttemptEvent)
    : Accounts usizeSize start (events ++ [event]) run := by
  obtain ⟨attempt, shared, cancelled, files, stage⟩ := run
  cases stage with
  | spawned | initializing | transferring | discarding | panicked => exact accounts
  | publishing info transfer =>
      obtain ⟨known, intact, passed⟩ := accounts
      exact ⟨known, intact, passed.concat event⟩
  | tornDown info transfer teardown =>
      obtain ⟨known, settled⟩ := accounts
      exact ⟨known, settled.concat event⟩
  | finished | returned =>
      obtain ⟨status, last, outcome, state, decided⟩ := accounts
      exact ⟨status, last, outcome, state, decided.concat event⟩

/-- A new transfer has no worker yet. -/
theorem transferOf_joins {run : AttemptRun} (selects : run.transferOf info = .ok transfer)
    : transfer.Joins := by
  unfold transferOf at selects
  dsimp only at selects
  split at selects
  · cases selects
    trivial
  · split at selects
    · cases selects
      exact ConcurrentRun.new_joins _ _
    · cases selects

theorem onInitialized_accounts {run : AttemptRun} {sources : InitSources}
    (initializes : run.onInitialized sources = .ok after) (unknown : run.shared.info = none)
    (files : run.files = start.files)
    : Accounts usizeSize start events after := by
  unfold onInitialized at initializes
  split at initializes
  · refine finish_accounts initializes ?_
    rw [unknown]
    exact ⟨files, rfl⟩
  · obtain ⟨transfer, selects, drives⟩ := Checked.bind_eq_ok.mp initializes
    exact drive_accounts drives (fun path _ => congrFun files path) (transferOf_joins selects)

/-- The commit rule lets the transfer pass, or discards it. -/
theorem commit_accounts {run : AttemptRun} {result : Except DownloadError Unit}
    (executed : (machine usizeSize).execute start events = some run)
    (accounts : Accounts usizeSize start events run)
    (stage : run.stage = .transferring info transfer) (returned : transfer.result = some result)
    : Accounts usizeSize start (events ++ [.commit]) (run.commit info transfer result) := by
  obtain ⟨known, intact, joins⟩ : run.shared.info = some info
      ∧ Intact start info run.files ∧ transfer.Joins := by
    simpa only [Accounts, stage] using accounts
  cases result with
  | error error => exact ⟨known, intact⟩
  | ok done =>
      by_cases cancelled : run.cancelled = true
      · simp only [commit, if_pos cancelled]
        exact ⟨known, intact⟩
      · simp only [commit, if_neg cancelled]
        have passes : run.Passes info transfer :=
          ⟨stage, returned, joins.exited returned, Bool.eq_false_iff.mpr cancelled⟩
        exact ⟨known, intact, events, [], run, rfl, executed, passes⟩

/-- The rename puts the temporary file in the place of the destination. -/
theorem publish_accounts {run : AttemptRun}
    (executed : (machine usizeSize).execute start events = some run)
    (accounts : Accounts usizeSize start events run)
    (stage : run.stage = .publishing info transfer) {result : Except String Unit}
    (finds : result.isOk = true → (run.files (tmpPathFor info.path)).isSome = true)
    : Accounts usizeSize start (events ++ [.renamed result])
        (run.publish info transfer result) := by
  obtain ⟨known, intact, passed⟩ : run.shared.info = some info
      ∧ Intact start info run.files ∧ Passed usizeSize start events info transfer := by
    simpa only [Accounts, stage] using accounts
  cases result with
  | error message => exact ⟨known, intact⟩
  | ok done =>
      obtain ⟨content, written⟩ := Option.isSome_iff_exists.mp (finds rfl)
      have renamed : Renamed usizeSize start (events ++ [.renamed (.ok done)]) info content :=
        ⟨events, [], run, transfer, rfl, executed, stage, written, passed⟩
      refine ⟨known, .renamed renamed ?_ (Function.update_self _ _ _) ?_⟩
      · dsimp only [publish]
        rw [Function.update_of_ne (tmpPathFor_ne info.path).symm, Function.update_self, written]
      · intro path temporary destination
        dsimp only [publish]
        rw [Function.update_of_ne temporary, Function.update_of_ne destination]
        exact intact path temporary

/-- What could not be removed is named. -/
theorem discard_accounts {run : AttemptRun} {removal : Removal} {error : DownloadError}
    (known : run.shared.info = some info) (intact : Intact start info run.files)
    (fits : removal.fits (run.files (tmpPathFor info.path)) = true)
    : Accounts usizeSize start events (run.discard info transfer error removal) := by
  refine ⟨known, .discarded ?_ ?_⟩
  · intro path temporary
    cases removal with
    | removed => exact (Function.update_of_ne temporary _ _).trans (intact path temporary)
    | notFound | failed => exact intact path temporary
  · cases removal with
    | removed => exact Or.inl (Function.update_self _ _ _)
    | notFound => exact Or.inl (Option.isNone_iff_eq_none.mp fits)
    | failed message => exact Or.inr rfl

/-- A transfer that is over falls back with every other file as it was, or is published. -/
theorem conclude_accounts {run : AttemptRun} {teardown : Teardown}
    (concludes : run.conclude info transfer teardown = .ok after)
    (known : run.shared.info = some info)
    (settled
      : Settled usizeSize start events info run.files teardown.result
          teardown.leftoverTempFile)
    : Accounts usizeSize start events after := by
  unfold conclude at concludes
  dsimp only at concludes
  split at concludes
  · rename_i reason source result
    rw [result] at settled
    cases settled with
    | discarded intact temporary => exact drive_accounts concludes intact trivial
  · refine finish_accounts concludes ?_
    rw [known]
    exact settled

theorem publish_info {shared later : Shared} {status : TaskStatus}
    (publishes : shared.publish status = .ok later)
    : later.info = shared.info := by
  unfold Shared.publish at publishes
  split at publishes <;> cases publishes
  rfl

/-- Every event but a panic keeps the account. -/
theorem Accounts.next (accounts : Accounts usizeSize start events before)
    (executed : (machine usizeSize).execute start events = some before)
    (step : (machine usizeSize).Step before event after) (calm : event.isPanic = false)
    : Accounts usizeSize start (events ++ [event]) after := by
  obtain ⟨enabled, next⟩ := step
  obtain ⟨attempt, shared, cancelled, files, stage⟩ := before
  cases event with
  | cancel =>
      cases next
      exact accounts.concat .cancel
  | start hasRuntime =>
      cases stage with
      | spawned =>
          obtain ⟨unknown, same⟩ := accounts
          cases hasRuntime with
          | true =>
              obtain ⟨later, published, stepped⟩ := Checked.bind_eq_ok.mp next
              cases stepped
              exact ⟨(publish_info published).trans unknown, same⟩
          | false =>
              refine finish_accounts next ?_
              rw [unknown]
              exact ⟨same, rfl⟩
      | _ => exact enabled.elim
  | initialized sources =>
      cases stage with
      | initializing => exact onInitialized_accounts next accounts.1 accounts.2
      | _ => exact enabled.elim
  | transfer event =>
      cases stage with
      | transferring info transfer =>
          obtain ⟨known, intact, joins⟩ := accounts
          obtain ⟨later, stepped, same⟩ := Checked.bind_eq_ok.mp next
          cases same
          refine ⟨known, ?_, joins.next enabled stepped⟩
          intro path temporary
          exact (Function.update_of_ne temporary _ _).trans (intact path temporary)
      | _ => exact enabled.elim
  | report progress =>
      obtain ⟨later, published, stepped⟩ := Checked.bind_eq_ok.mp next
      cases stepped
      have kept := publish_info published
      cases stage with
      | transferring | discarding => exact ⟨kept.trans accounts.1, accounts.2⟩
      | publishing =>
          obtain ⟨known, intact, passed⟩ := accounts
          exact ⟨kept.trans known, intact, passed.concat _⟩
      | tornDown => exact ⟨kept.trans accounts.1, accounts.2.concat _⟩
      | _ => cases enabled
  | commit =>
      cases stage with
      | transferring info transfer =>
          obtain ⟨result, returned⟩ := Option.isSome_iff_exists.mp enabled
          simp only [machine, AttemptRun.next, returned] at next
          cases next
          exact commit_accounts executed accounts rfl returned
      | _ => exact enabled.elim
  | renamed result =>
      cases stage with
      | publishing info transfer =>
          cases next
          exact publish_accounts executed accounts rfl enabled
      | _ => exact enabled.elim
  | removed removal =>
      cases stage with
      | discarding info transfer error =>
          cases next
          exact discard_accounts accounts.1 accounts.2 enabled
      | _ => exact enabled.elim
  | concluded =>
      cases stage with
      | tornDown info transfer teardown =>
          exact conclude_accounts next accounts.1 (accounts.2.concat .concluded)
      | _ => exact enabled.elim
  | panic message => cases calm
  | reportPanic removal =>
      cases stage with
      | panicked message => exact accounts.elim
      | _ => exact enabled.elim
  | «return» =>
      cases stage with
      | finished =>
          cases next
          exact accounts.concat .return
      | _ => exact enabled.elim

-----------------------------------------------------------------------------------------
-- The run
-----------------------------------------------------------------------------------------

/-- The account of a whole run, by induction on its events. -/
theorem execute_accounts {attempt : Drive.Attempt} {files : Path → Option Bytes}
    {cancelled : Bool} {events : List AttemptEvent} {run : AttemptRun}
    (executed : (machine usizeSize).execute (.new attempt files cancelled) events = some run)
    (calm : ∀ event ∈ events, event.isPanic = false)
    : Accounts usizeSize (.new attempt files cancelled) events run := by
  induction events using List.reverseRecOn generalizing run with
  | nil =>
      cases executed
      exact ⟨rfl, rfl⟩
  | append_singleton events event ih =>
      obtain ⟨before, earlier, step⟩ := (machine usizeSize).execute_concat.mp executed
      have accounts := ih earlier
        (fun event member => calm event (List.mem_append_left [_] member))
      exact accounts.next earlier step (calm event (by simp))

/-- What the events of an attempt have done to the files. -/
structure CommitsAtomically (usizeSize : Nat) (start : AttemptRun) (events : List AttemptEvent)
    (run : AttemptRun)
    : Prop where
  /-- Besides the temporary file, only the destination changes, and only by the rename. -/
  changes
    : ∀ path,
        run.files path ≠ start.files path
        → ∃ info ∈ run.shared.info,
            path = tmpPathFor info.path
            ∨ path = info.path
              ∧ ∃ content,
                  run.files path = some content
                  ∧ Renamed usizeSize start events info content
  /-- In the end the destination is renamed or as it was, as the published result says, and
  the temporary file is gone or named.
  -/
  published
    : run.stage = .returned
      → ∃ status ∈ run.shared.published.getLast?,
          status.state.isTerminal = true
          ∧ (status.state = .finished
            → ∃ info ∈ run.shared.info,
                ∃ content,
                  run.files info.path = some content
                  ∧ Renamed usizeSize start events info content)
          ∧ (status.state ≠ .finished
            → ∀ path,
                (∀ info ∈ run.shared.info, path ≠ tmpPathFor info.path)
                → run.files path = start.files path)
          ∧ ∀ info ∈ run.shared.info,
              run.files (tmpPathFor info.path) = none
              ∨ status.leftoverTempFile = some (tmpPathFor info.path)

/-- A settled transfer has changed its temporary file, and the destination if it was renamed. -/
theorem Settled.changes {files : Path → Option Bytes} {outcome : Except DownloadError Unit}
    {leftover : Option Path} {path : Path}
    (settled : Settled usizeSize start events info files outcome leftover)
    (changed : files path ≠ start.files path)
    : path = tmpPathFor info.path
      ∨ path = info.path
        ∧ ∃ content, files path = some content ∧ Renamed usizeSize start events info content := by
  by_cases temporary : path = tmpPathFor info.path
  · exact Or.inl temporary
  · cases settled with
    | @renamed content renamed written gone others =>
        by_cases destination : path = info.path
        · subst destination
          exact Or.inr ⟨rfl, content, written, renamed⟩
        · exact absurd (others path temporary destination) changed
    | discarded intact => exact absurd (intact path temporary) changed

/-- The destination of an attempt changes by the rename only, and exactly if it finishes. -/
theorem commit_atomic {attempt : Drive.Attempt} {files : Path → Option Bytes}
    {cancelled : Bool} {events : List AttemptEvent} {run : AttemptRun}
    (executed : (machine usizeSize).execute (.new attempt files cancelled) events = some run)
    (calm : ∀ event ∈ events, event.isPanic = false)
    : CommitsAtomically usizeSize (.new attempt files cancelled) events run := by
  have accounts := execute_accounts executed calm
  obtain ⟨attempt, shared, cancelled, later, stage⟩ := run
  constructor
  · intro path changed
    cases stage with
    | spawned | initializing => exact absurd (congrFun accounts.2 path) changed
    | transferring info | publishing info =>
        obtain ⟨known, intact, -⟩ := accounts
        refine ⟨info, known, Or.inl ?_⟩
        by_contra other
        exact changed (intact path other)
    | discarding info =>
        obtain ⟨known, intact⟩ := accounts
        refine ⟨info, known, Or.inl ?_⟩
        by_contra other
        exact changed (intact path other)
    | tornDown info transfer teardown =>
        obtain ⟨known, settled⟩ := accounts
        exact ⟨info, known, settled.changes changed⟩
    | panicked => exact accounts.elim
    | finished | returned =>
        obtain ⟨status, -, outcome, -, decided⟩ := accounts
        cases known : shared.info with
        | none =>
            rw [known] at decided
            exact absurd (congrFun decided.1 path) changed
        | some info =>
            rw [known] at decided
            exact ⟨info, rfl, Settled.changes decided changed⟩
  · intro returned
    dsimp only at returned
    subst returned
    obtain ⟨status, last, outcome, state, decided⟩ := accounts
    have finishes : status.state = .finished ↔ outcome.isOk = true := by
      rw [state]
      exact Status.TaskState.ofOutcome_finished_iff
    refine ⟨status, last, state ▸ Status.TaskState.ofOutcome_terminal outcome, ?_⟩
    rw [finishes]
    cases known : shared.info with
    | none =>
        rw [known] at decided
        obtain ⟨same, fails⟩ := decided
        refine ⟨fun succeeds => ?_, fun _ path _ => congrFun same path, fun _ never => ?_⟩
        · rw [fails] at succeeds
          cases succeeds
        · cases never
    | some info =>
        rw [known] at decided
        generalize status.leftoverTempFile = leftover at decided ⊢
        cases decided with
        | renamed renamed destination temporary others =>
            refine ⟨fun _ => ⟨info, rfl, _, destination, renamed⟩, fun never => ?_, ?_⟩
            · exact absurd (finishes.mpr rfl) never
            · rintro _ ⟨⟩
              exact Or.inl temporary
        | discarded intact temporary =>
            refine ⟨(fun never => by cases never), fun _ path other => ?_, ?_⟩
            · exact intact path (other info rfl)
            · rintro _ ⟨⟩
              exact temporary

/-- An attempt that falls back to one connection, whose file replaces an older one. -/
def fallsBackAndCommits : List AttemptEvent :=
  [ .start true
  , .initialized ⟨.ok ⟨2, none⟩, true, .ok "file", .ok ()⟩
  , .transfer (.concurrent (.created (.opened .compio 1)))
  , .transfer (.concurrent (.ran (.error (.rangeUnsupported .rangeIgnored (.unretryable .rangeIgnored))) 0 []))
  , .transfer (.concurrent .joined)
  , .transfer (.concurrent (.flushed (.ok ())))
  , .transfer (.concurrent .workerExits)
  , .transfer (.concurrent (.finalized (.ok ())))
  , .commit
  , .removed (.failed "busy")
  , .concluded ]
    ++ SingletonRun.twoFramesEvents.map (fun event => .transfer (.singleton event))
    ++ [.commit, .cancel, .renamed (.ok ()), .concluded, .return]

/-- It replaces the older file, though it is cancelled after the commit rule has let it pass. -/
theorem commit_atomic_replaces
    : ∃ run files,
        CommitsAtomically u64Size (.new ⟨none, none⟩ files false) fallsBackAndCommits run
        ∧ files "file" = some [9, 9, 9]
        ∧ run.files "file" = some [1, 2]
        ∧ run.files "file.downloading" = none := by
  let files : Path → Option Bytes := fun path => if path = "file" then some [9, 9, 9] else none
  have executes
      : ((machine u64Size).execute (.new ⟨none, none⟩ files false) fallsBackAndCommits).map
          (fun run => (run.files "file", run.files "file.downloading"))
        = some (some [1, 2], none) := by
    decide +kernel
  obtain ⟨run, executed, left⟩ := Option.map_eq_some_iff.mp executes
  obtain ⟨destination, temporary⟩ := Prod.mk.inj left
  exact ⟨run, files, commit_atomic executed (by decide), rfl, destination, temporary⟩

end AttemptRun

end BoltLoad
