import BoltLoad.Attempt.Commit
import BoltLoad.Attempt.Course

/-! What the terminal status of an attempt records, in every run, and also if it panics. A finished
attempt has renamed its file; one that is cancelled before the commit rule lets it pass never does.
-/

namespace BoltLoad

-----------------------------------------------------------------------------------------
-- What the terminal status records
-----------------------------------------------------------------------------------------

/-- The state and the error are those of an outcome, and the information is the newest. -/
def Shared.Records (shared : Shared) : Prop :=
  shared.terminal = true
  → ∃ status ∈ shared.published.getLast?,
      status.info = shared.info
      ∧ ∃ result, (status.state, status.error) = Status.TaskState.ofOutcome result

theorem Shared.finish_records {shared after : Shared} {result : Except DownloadError Unit}
    {progress : Progress} {leftover : Option Path}
    (finishes : shared.finish result progress leftover = .ok after)
    : after.Records := by
  unfold Shared.finish at finishes
  split at finishes
  · cases finishes
  · cases finishes
    exact fun _ => ⟨_, List.getLast?_concat, rfl, result, rfl⟩

theorem Shared.publish_records {shared after : Shared} {status : TaskStatus}
    (publishes : shared.publish status = .ok after)
    : after.Records := by
  unfold Shared.publish at publishes
  split at publishes
  · cases publishes
  · rename_i running
    cases publishes
    exact fun terminal => absurd terminal running

namespace AttemptRun

variable {usizeSize : Nat} {run start before after : AttemptRun} {event : AttemptEvent}
  {info : TaskInfo} {transfer : TransferRun}

theorem finish_records {result : Except DownloadError Unit} {progress : Progress}
    {leftover : Option Path} (finishes : run.finish result progress leftover = .ok after)
    : after.shared.Records := by
  obtain ⟨shared, published, same⟩ := Checked.bind_eq_ok.mp finishes
  cases same
  exact Shared.finish_records published

theorem drive_records (drives : run.drive info transfer = .ok after)
    : after.shared.Records := by
  obtain ⟨shared, published, same⟩ := Checked.bind_eq_ok.mp drives
  cases same
  exact Shared.publish_records published

/-- Every event publishes by the same rules. -/
theorem next_records (records : before.shared.Records)
    (step : (machine usizeSize).Step before event after)
    : after.shared.Records := by
  obtain ⟨enabled, next⟩ := step
  obtain ⟨attempt, shared, cancelled, files, stage⟩ := before
  cases event with
  | cancel =>
      cases next
      exact records
  | start hasRuntime =>
      cases hasRuntime with
      | true =>
          obtain ⟨later, published, same⟩ := Checked.bind_eq_ok.mp next
          cases same
          exact Shared.publish_records published
      | false => exact finish_records next
  | initialized sources =>
      change onInitialized _ sources = .ok after at next
      unfold onInitialized at next
      split at next
      · exact finish_records next
      · obtain ⟨transfer, _, drives⟩ := Checked.bind_eq_ok.mp next
        exact drive_records drives
  | transfer event =>
      cases stage with
      | transferring info transfer =>
          obtain ⟨later, _, same⟩ := Checked.bind_eq_ok.mp next
          cases same
          exact records
      | _ => exact enabled.elim
  | report progress =>
      obtain ⟨later, published, same⟩ := Checked.bind_eq_ok.mp next
      cases same
      exact Shared.publish_records published
  | commit =>
      cases stage with
      | transferring info transfer =>
          obtain ⟨result, returned⟩ := Option.isSome_iff_exists.mp enabled
          simp only [machine, AttemptRun.next, returned] at next
          cases next
          cases result with
          | ok done =>
              unfold commit
              dsimp only
              split <;> exact records
          | error error => exact records
      | _ => exact enabled.elim
  | renamed result =>
      cases stage with
      | publishing info transfer =>
          cases next
          cases result <;> exact records
      | _ => exact enabled.elim
  | removed removal =>
      cases stage with
      | discarding info transfer error =>
          cases next
          exact records
      | _ => exact enabled.elim
  | concluded =>
      cases stage with
      | tornDown info transfer teardown =>
          change conclude _ info transfer teardown = .ok after at next
          unfold conclude at next
          dsimp only at next
          split at next
          · exact drive_records next
          · exact finish_records next
      | _ => exact enabled.elim
  | panic message =>
      cases next
      exact records
  | reportPanic removal =>
      cases stage with
      | panicked message =>
          change reportPanic _ message removal = .ok after at next
          unfold reportPanic at next
          dsimp only at next
          split at next
          · cases next
            exact records
          · obtain ⟨later, published, same⟩ := Checked.bind_eq_ok.mp next
            cases same
            exact Shared.finish_records published
      | _ => exact enabled.elim
  | «return» =>
      cases next
      exact records

theorem reachable_records (reached : (machine usizeSize).Reachable run)
    : run.shared.Records := by
  refine reached.invariant ?_ (fun _ _ _ _ records step => next_records records step)
  rintro _ ⟨attempt, files, cancelled, rfl⟩
  exact fun never => by cases never

/-- A course that is over ends with the status of its end. -/
theorem ends_of_over {statuses : List TaskStatus} {phase : CoursePhase}
    (course : Course statuses phase) (ended : phase.isOver = true)
    : ∃ status ∈ statuses.getLast?, ∃ earlier, status.Ends earlier := by
  cases course with
  | pending => cases ended
  | next earlier advances =>
      cases advances with
      | ends running ends => exact ⟨_, List.getLast?_concat, _, ends⟩
      | _ => cases ended

/-- The last status of an attempt that returned: it finished with the information there is, or it
has its error.
-/
theorem returned_records (reached : (machine usizeSize).Reachable run)
    (returned : run.stage = .returned)
    : ∃ status ∈ run.shared.published.getLast?,
        status.state.isTerminal = true
        ∧ ((∃ info ∈ run.shared.info,
            status.state = .finished ∧ status.info = some info ∧ status.error = none)
          ∨ ∃ error,
              (status.state, some error) = Status.TaskState.ofOutcome (.error error)
              ∧ status.error = some error) := by
  obtain ⟨phase, stands, fits⟩ := reachable_course reached
  rw [returned] at fits
  cases fits
  obtain ⟨status, last, earlier, ends⟩ := ends_of_over stands.course rfl
  obtain ⟨_, same, known, result, recorded⟩ := reachable_records reached stands.terminal
  cases last.symm.trans same
  refine ⟨status, last, ends.terminal, ?_⟩
  obtain ⟨state, error⟩ := Prod.mk.inj recorded
  cases result with
  | ok done =>
      have downloads := ends.finished state
      have some : status.info.isSome = true := by
        rw [ends.info]
        cases earlier with
        | downloading => rfl
        | _ => cases downloads
      obtain ⟨info, is⟩ := Option.isSome_iff_exists.mp some
      exact .inl ⟨info, known.symm.trans is, state, is, error⟩
  | error reason =>
      have same : (Status.TaskState.ofOutcome (.error reason)).2 = .some reason := by
        cases reason <;> rfl
      have failed : status.error = .some reason := (congrArg Prod.snd recorded).trans same
      exact .inr ⟨reason, failed ▸ recorded, failed⟩

/-- Nothing happens to an attempt that returned, but for a cancellation. -/
theorem next_of_returned (returned : before.stage = .returned)
    (step : (machine usizeSize).Step before event after)
    : after = { before with cancelled := true } := by
  obtain ⟨enabled, next⟩ := step
  obtain ⟨attempt, shared, cancelled, files, stage⟩ := before
  cases returned
  cases event with
  | cancel =>
      cases next
      rfl
  | report progress => cases enabled
  | panic message => cases enabled
  | _ => exact enabled.elim

-----------------------------------------------------------------------------------------
-- What a finished attempt has committed
-----------------------------------------------------------------------------------------

variable {events : List AttemptEvent}

/-- A finished attempt has put its file in its place. -/
def Committed (usizeSize : Nat) (start : AttemptRun) (events : List AttemptEvent)
    (run : AttemptRun)
    : Prop :=
  ∀ status ∈ run.shared.published.getLast?,
    status.state = .finished
    → ∃ info ∈ run.shared.info,
        ∃ content,
          run.files info.path = some content ∧ Renamed usizeSize start events info content

theorem Committed.concat (committed : Committed usizeSize start events run)
    (event : AttemptEvent)
    : Committed usizeSize start (events ++ [event]) run := by
  intro status last finished
  obtain ⟨info, known, content, written, renamed⟩ := committed status last finished
  exact ⟨info, known, content, written, renamed.concat event⟩

/-- Until an attempt is over, no status says that it has finished. -/
theorem unfinished_of_running {phase : CoursePhase} (stands : run.shared.Stands phase)
    (running : phase.isOver = false)
    : ∀ status ∈ run.shared.published.getLast?, status.state ≠ .finished := by
  intro status last finished
  have unfinished := stands.course.unfinished running status (List.mem_of_getLast? last)
  rw [finished] at unfinished
  cases unfinished

/-- Without a panic, the account tells so. -/
theorem Accounts.committed (accounts : Accounts usizeSize start events run)
    (reached : (machine usizeSize).Reachable run)
    : Committed usizeSize start events run := by
  obtain ⟨phase, stands, fits⟩ := reachable_course reached
  have settles
      (settled
        : ∃ status ∈ run.shared.published.getLast?,
            ∃ outcome,
              status.state = (Status.TaskState.ofOutcome outcome).1
              ∧ Decided usizeSize start events run.files outcome status.leftoverTempFile
                  run.shared.info)
      : Committed usizeSize start events run := by
    intro status last finished
    obtain ⟨_, same, outcome, state, decided⟩ := settled
    cases last.symm.trans same
    have succeeds : outcome.isOk = true :=
      Status.TaskState.ofOutcome_finished_iff.mp (state.symm.trans finished)
    cases known : run.shared.info with
    | none =>
        rw [known] at decided
        rw [decided.2] at succeeds
        cases succeeds
    | some info =>
        rw [known] at decided
        generalize status.leftoverTempFile = leftover at decided
        change Settled usizeSize start events info run.files outcome leftover at decided
        cases decided with
        | renamed renamed destination => exact ⟨info, rfl, _, destination, renamed⟩
        | discarded => cases succeeds
  cases stage : run.stage with
  | spawned =>
      rw [stage] at fits
      cases fits
      intro status last finished
      exact absurd finished (unfinished_of_running stands rfl status last)
  | initializing =>
      rw [stage] at fits
      cases fits
      intro status last finished
      exact absurd finished (unfinished_of_running stands rfl status last)
  | transferring info transfer | publishing info transfer | discarding info transfer
  | tornDown info transfer =>
      rw [stage] at fits
      obtain ⟨again, rfl, _⟩ := fits.downloads
      intro status last finished
      exact absurd finished (unfinished_of_running stands rfl status last)
  | panicked message =>
      rw [Accounts, stage] at accounts
      exact accounts.elim
  | finished | returned =>
      rw [Accounts, stage] at accounts
      exact settles accounts

/-- A panic, and what its handler does, leave a committed file where it is. -/
theorem Committed.next (committed : Committed usizeSize start events before)
    (gone : before.stage.isOver = true) (step : (machine usizeSize).Step before event after)
    : after.stage.isOver = true ∧ Committed usizeSize start (events ++ [event]) after := by
  obtain ⟨enabled, next⟩ := step
  obtain ⟨attempt, shared, cancelled, files, stage⟩ := before
  cases event with
  | cancel =>
      cases next
      exact ⟨gone, committed.concat .cancel⟩
  | reportPanic removal =>
      cases stage with
      | panicked message =>
          change reportPanic _ message removal = .ok after at next
          unfold reportPanic at next
          dsimp only at next
          split at next
          · cases next
            exact ⟨rfl, committed.concat _⟩
          · obtain ⟨later, published, same⟩ := Checked.bind_eq_ok.mp next
            cases same
            refine ⟨rfl, fun status last finished => ?_⟩
            unfold Shared.finish at published
            split at published
            · cases published
            · cases published
              cases List.getLast?_concat.symm.trans last
              cases finished
      | _ => exact enabled.elim
  | panic message =>
      change stage.isOver = false at enabled
      rw [gone] at enabled
      cases enabled
  | report progress =>
      cases stage with
      | panicked message => cases enabled
      | returned => cases enabled
      | _ => cases gone
  | _ =>
      cases stage with
      | panicked message => exact enabled.elim
      | returned => exact enabled.elim
      | _ => cases gone

/-- Every run has committed the file of a finished attempt, whether it panics or not, by induction
on its events.
-/
theorem execute_committed {attempt : Drive.Attempt} {files : Path → Option Bytes}
    {cancelled : Bool}
    (executed : (machine usizeSize).execute (.new attempt files cancelled) events = some run)
    : Committed usizeSize (.new attempt files cancelled) events run := by
  have started : (machine usizeSize).Reachable (.new attempt files cancelled) :=
    .initial ⟨_, _, _, rfl⟩
  have kept
      : (∀ event ∈ events, event.isPanic = false)
        ∨ run.stage.isOver = true ∧ Committed usizeSize (.new attempt files cancelled) events run := by
    induction events using List.reverseRecOn generalizing run with
    | nil => exact .inl (fun _ never => by cases never)
    | append_singleton events event ih =>
        obtain ⟨before, earlier, step⟩ := (machine usizeSize).execute_concat.mp executed
        rcases ih earlier with calm | ⟨gone, committed⟩
        · cases panics : event.isPanic with
          | false =>
              refine .inl (fun other member => ?_)
              rcases List.mem_append.mp member with inside | last
              · exact calm other inside
              · rw [List.mem_singleton.mp last]
                exact panics
          | true =>
              have accounts := execute_accounts earlier calm
              have committed := accounts.committed (started.execute events earlier)
              cases event with
              | panic message =>
                  cases step.next
                  exact .inr ⟨rfl, committed.concat _⟩
              | _ => cases panics
        · exact .inr (committed.next gone step)
  rcases kept with calm | ⟨_, committed⟩
  · exact (execute_accounts executed calm).committed (started.execute events executed)
  · exact committed

-----------------------------------------------------------------------------------------
-- The temporary file
-----------------------------------------------------------------------------------------

/-- The temporary file is the one of the newest information. -/
def KnowsTemp (run : AttemptRun) : Prop :=
  ∀ tmp ∈ run.shared.tempFile, ∃ info ∈ run.shared.info, tmp = tmpPathFor info.path

theorem finish_knows {result : Except DownloadError Unit} {progress : Progress}
    {leftover : Option Path} (knows : run.KnowsTemp)
    (finishes : run.finish result progress leftover = .ok after)
    : after.KnowsTemp := by
  obtain ⟨shared, published, same⟩ := Checked.bind_eq_ok.mp finishes
  cases same
  unfold Shared.finish at published
  split at published
  · cases published
  · cases published
    exact knows

theorem publish_knows {shared later : Shared} {status : TaskStatus}
    (publishes : shared.publish status = .ok later)
    : later.tempFile = shared.tempFile ∧ later.info = shared.info := by
  unfold Shared.publish at publishes
  split at publishes
  · cases publishes
  · cases publishes
    exact ⟨rfl, rfl⟩

/-- The path of a transfer is the one of the transfer before it. -/
theorem drive_knows (knows : run.KnowsTemp)
    (same : ∀ known ∈ run.shared.info, known.path = info.path)
    (drives : run.drive info transfer = .ok after)
    : after.KnowsTemp := by
  obtain ⟨shared, published, stepped⟩ := Checked.bind_eq_ok.mp drives
  cases stepped
  obtain ⟨temp, known⟩ := publish_knows published
  intro tmp is
  dsimp only at is ⊢
  rw [temp] at is
  rw [known]
  refine ⟨info, rfl, ?_⟩
  cases set : run.shared.tempFile with
  | none =>
      simp only [set, Option.none_or, Option.mem_some_iff] at is
      exact is.symm
  | some first =>
      simp only [set, Option.some_or, Option.mem_some_iff] at is
      obtain ⟨earlier, before, named⟩ := knows first set
      rw [← is, named, same earlier before]

/-- The information that a stage has is the newest. -/
theorem known_of_transfer {phase : CoursePhase} (stands : run.shared.Stands phase)
    (fits : transfer.Fits info phase)
    : run.shared.info = some info := by
  obtain ⟨again, rfl, _⟩ := fits.downloads
  exact stands.info rfl

theorem next_knows (knows : before.KnowsTemp) (reached : (machine usizeSize).Reachable before)
    (step : (machine usizeSize).Step before event after)
    : after.KnowsTemp := by
  obtain ⟨phase, stands, fits⟩ := reachable_course reached
  obtain ⟨enabled, next⟩ := step
  obtain ⟨attempt, shared, cancelled, files, stage⟩ := before
  cases event with
  | cancel =>
      cases next
      exact knows
  | start hasRuntime =>
      cases hasRuntime with
      | true =>
          obtain ⟨later, published, same⟩ := Checked.bind_eq_ok.mp next
          cases same
          obtain ⟨temp, known⟩ := publish_knows published
          intro tmp is
          dsimp only at is ⊢
          rw [temp] at is
          rw [known]
          exact knows tmp is
      | false => exact finish_knows knows next
  | initialized sources =>
      cases stage with
      | initializing =>
          cases fits
          have unknown : shared.info = none := stands.info rfl
          change onInitialized _ sources = .ok after at next
          unfold onInitialized at next
          split at next
          · exact finish_knows knows next
          · obtain ⟨transfer, _, drives⟩ := Checked.bind_eq_ok.mp next
            refine drive_knows knows (fun known is => ?_) drives
            dsimp only at is
            rw [unknown] at is
            cases is
      | _ => exact enabled.elim
  | transfer event =>
      cases stage with
      | transferring info transfer =>
          obtain ⟨later, _, same⟩ := Checked.bind_eq_ok.mp next
          cases same
          exact knows
      | _ => exact enabled.elim
  | report progress =>
      obtain ⟨later, published, same⟩ := Checked.bind_eq_ok.mp next
      cases same
      obtain ⟨temp, known⟩ := publish_knows published
      intro tmp is
      dsimp only at is ⊢
      rw [temp] at is
      rw [known]
      exact knows tmp is
  | commit =>
      cases stage with
      | transferring info transfer =>
          obtain ⟨result, returned⟩ := Option.isSome_iff_exists.mp enabled
          simp only [machine, AttemptRun.next, returned] at next
          cases next
          cases result with
          | ok done =>
              unfold commit
              dsimp only
              split <;> exact knows
          | error error => exact knows
      | _ => exact enabled.elim
  | renamed result =>
      cases stage with
      | publishing info transfer =>
          cases next
          cases result <;> exact knows
      | _ => exact enabled.elim
  | removed removal =>
      cases stage with
      | discarding info transfer error =>
          cases next
          exact knows
      | _ => exact enabled.elim
  | concluded =>
      cases stage with
      | tornDown info transfer teardown =>
          have known : shared.info = some info := known_of_transfer stands fits
          change conclude _ info transfer teardown = .ok after at next
          unfold conclude at next
          dsimp only at next
          split at next
          · refine drive_knows knows (fun earlier is => ?_) next
            dsimp only at is
            rw [known] at is
            cases is
            rfl
          · exact finish_knows knows next
      | _ => exact enabled.elim
  | panic message =>
      cases next
      exact knows
  | reportPanic removal =>
      cases stage with
      | panicked message =>
          change reportPanic _ message removal = .ok after at next
          unfold reportPanic at next
          dsimp only at next
          split at next
          · cases next
            exact knows
          · obtain ⟨later, published, same⟩ := Checked.bind_eq_ok.mp next
            cases same
            unfold Shared.finish at published
            split at published
            · cases published
            · cases published
              exact knows
      | _ => exact enabled.elim
  | «return» =>
      cases next
      exact knows

theorem reachable_knows (reached : (machine usizeSize).Reachable run)
    : run.KnowsTemp := by
  refine reached.invariant ?_ (fun _ _ _ reached knows step => next_knows knows reached step)
  rintro _ ⟨attempt, files, cancelled, rfl⟩ tmp never
  cases never

-----------------------------------------------------------------------------------------
-- After a cancellation
-----------------------------------------------------------------------------------------

/-- The commit rule has not let the transfer pass, or what it let pass was not renamed. -/
def Uncommitted (run : AttemptRun) : Prop :=
  match run.stage with
  | .publishing _ _ => False
  | .tornDown _ _ teardown => teardown.result.isOk = false
  | .panicked _ | .finished | .returned =>
      ∀ status ∈ run.shared.published.getLast?, status.state ≠ .finished
  | _ => True

/-- So no status says that it has finished. -/
theorem Uncommitted.unfinished (uncommitted : run.Uncommitted)
    (reached : (machine usizeSize).Reachable run)
    : ∀ status ∈ run.shared.published.getLast?, status.state ≠ .finished := by
  obtain ⟨phase, stands, fits⟩ := reachable_course reached
  unfold Uncommitted at uncommitted
  cases stage : run.stage with
  | finished | returned | panicked =>
      rw [stage] at uncommitted
      exact uncommitted
  | spawned | initializing =>
      rw [stage] at fits
      cases fits
      exact unfinished_of_running stands rfl
  | transferring | publishing | discarding | tornDown =>
      rw [stage] at fits
      obtain ⟨again, rfl, _⟩ := fits.downloads
      exact unfinished_of_running stands rfl

/-- Nothing was committed, and beside the temporary file nothing is changed. -/
structure Discards (start run : AttemptRun) : Prop where
  cancelled : run.cancelled = true
  uncommitted : run.Uncommitted
  files
    : ∀ path,
        (∀ info ∈ run.shared.info, path ≠ tmpPathFor info.path)
        → run.files path = start.files path

/-- A failed attempt is not a finished one. -/
theorem finish_discards {error : DownloadError} {progress : Progress} {leftover : Option Path}
    (cancelled : run.cancelled = true)
    (files
      : ∀ path,
          (∀ info ∈ run.shared.info, path ≠ tmpPathFor info.path)
          → run.files path = start.files path)
    (finishes : run.finish (.error error) progress leftover = .ok after)
    : Discards start after := by
  obtain ⟨shared, published, same⟩ := Checked.bind_eq_ok.mp finishes
  cases same
  unfold Shared.finish at published
  split at published
  · cases published
  · cases published
    refine ⟨cancelled, fun status last finished => ?_, files⟩
    cases List.getLast?_concat.symm.trans last
    cases error <;> cases finished

/-- Every event of a cancelled attempt discards, and so does a panic. -/
theorem Discards.next (discards : Discards start before)
    (reached : (machine usizeSize).Reachable before)
    (step : (machine usizeSize).Step before event after)
    : Discards start after := by
  obtain ⟨phase, stands, fits⟩ := reachable_course reached
  have knows := reachable_knows reached
  have unfinished := discards.uncommitted.unfinished reached
  obtain ⟨cancelled, uncommitted, same⟩ := discards
  obtain ⟨enabled, next⟩ := step
  obtain ⟨attempt, shared, isCancelled, files, stage⟩ := before
  dsimp only at cancelled same
  subst cancelled
  cases event with
  | cancel =>
      cases next
      exact ⟨rfl, uncommitted, same⟩
  | start hasRuntime =>
      cases hasRuntime with
      | true =>
          obtain ⟨later, published, stepped⟩ := Checked.bind_eq_ok.mp next
          cases stepped
          refine ⟨rfl, trivial, ?_⟩
          dsimp only
          rw [(publish_knows published).2]
          exact same
      | false => exact finish_discards rfl same next
  | initialized sources =>
      have cancels : finish ⟨attempt, shared, true, files, stage⟩ (.error .cancelled) .zero none
          = .ok after :=
        next
      exact finish_discards rfl same cancels
  | transfer event =>
      cases stage with
      | transferring info transfer =>
          have known : shared.info = some info := known_of_transfer stands fits
          obtain ⟨later, _, stepped⟩ := Checked.bind_eq_ok.mp next
          cases stepped
          refine ⟨rfl, trivial, fun path other => ?_⟩
          dsimp only at other ⊢
          rw [Function.update_of_ne (other info known)]
          exact same path other
      | _ => exact enabled.elim
  | report progress =>
      obtain ⟨later, published, stepped⟩ := Checked.bind_eq_ok.mp next
      cases stepped
      have kept := (publish_knows published).2
      refine ⟨rfl, ?_, ?_⟩
      · cases stage with
        | transferring | publishing | discarding | tornDown => exact uncommitted
        | _ => cases enabled
      · dsimp only
        rw [kept]
        exact same
  | commit =>
      cases stage with
      | transferring info transfer =>
          obtain ⟨result, returned⟩ := Option.isSome_iff_exists.mp enabled
          simp only [machine, AttemptRun.next, returned] at next
          cases next
          cases result with
          | ok done => exact ⟨rfl, trivial, same⟩
          | error error => exact ⟨rfl, trivial, same⟩
      | _ => exact enabled.elim
  | renamed result =>
      cases stage with
      | publishing info transfer => exact uncommitted.elim
      | _ => exact enabled.elim
  | removed removal =>
      cases stage with
      | discarding info transfer error =>
          have known : shared.info = some info := known_of_transfer stands fits
          cases next
          refine ⟨rfl, rfl, fun path other => ?_⟩
          cases removal with
          | removed => exact (Function.update_of_ne (other info known) _ _).trans (same path other)
          | notFound | failed => exact same path other
      | _ => exact enabled.elim
  | concluded =>
      cases stage with
      | tornDown info transfer teardown =>
          have known : shared.info = some info := known_of_transfer stands fits
          obtain ⟨result, leftover⟩ := teardown
          cases result with
          | ok done => cases uncommitted
          | error error =>
              change conclude _ info transfer _ = .ok after at next
              unfold conclude at next
              dsimp only at next
              split at next
              · obtain ⟨later, published, stepped⟩ := Checked.bind_eq_ok.mp next
                cases stepped
                refine ⟨rfl, trivial, fun path other => ?_⟩
                refine same path (fun earlier is => ?_)
                rw [known] at is
                cases is
                have kept : later.info = some { info with mode := .singleton, fallback := some _ } :=
                  (publish_knows published).2
                have apart := other _ kept
                exact apart
              · exact finish_discards rfl same next
      | _ => exact enabled.elim
  | panic message =>
      cases next
      exact ⟨rfl, unfinished, same⟩
  | reportPanic removal =>
      cases stage with
      | panicked message =>
          change reportPanic _ message removal = .ok after at next
          unfold reportPanic at next
          dsimp only at next
          split at next
          · cases next
            exact ⟨rfl, uncommitted, same⟩
          · obtain ⟨later, published, stepped⟩ := Checked.bind_eq_ok.mp next
            cases stepped
            unfold Shared.finish at published
            split at published
            · cases published
            · cases published
              refine ⟨rfl, fun status last finished => ?_, fun path other => ?_⟩
              · cases List.getLast?_concat.symm.trans last
                cases finished
              · dsimp only
                split
                · rename_i tmp temp
                  obtain ⟨info, known, rfl⟩ := knows _ temp
                  cases removal with
                  | removed =>
                      exact (Function.update_of_ne (other info known) _ _).trans (same path other)
                  | notFound | failed => exact same path other
                · exact same path other
      | _ => exact enabled.elim
  | «return» =>
      cases stage with
      | finished =>
          cases next
          exact ⟨rfl, uncommitted, same⟩
      | _ => exact enabled.elim

end AttemptRun

end BoltLoad
