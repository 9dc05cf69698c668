import BoltLoad.Attempt.Model
import BoltLoad.Runner.Lifecycle

/-! The course of a task's status over every run of its attempt. The publisher, its reporters
and the panic handler share one status; whichever of them publishes next, the course goes on
from where it stands, and it ends once.
-/

namespace BoltLoad

-----------------------------------------------------------------------------------------
-- The course
-----------------------------------------------------------------------------------------

/-- Where the course of a task stands. -/
inductive CoursePhase
  | pending
  | initializing
  /-- It downloads, once more if it has fallen back. -/
  | downloading (info : TaskInfo) (again : Bool)
  | ended
  deriving DecidableEq

namespace CoursePhase

def isOver : CoursePhase → Bool
  | ended => true
  | _ => false

def isDownloading : CoursePhase → Bool
  | downloading _ _ => true
  | _ => false

def info : CoursePhase → Option TaskInfo
  | downloading info _ => some info
  | _ => none

end CoursePhase

/-- The last status of a task, after a phase. -/
structure TaskStatus.Ends (status : TaskStatus) (phase : CoursePhase) : Prop where
  terminal : status.state.isTerminal = true
  error : status.error.isSome = true ↔ status.state = .failed ∨ status.state = .cancelled
  info : status.info = phase.info
  finished : status.state = .finished → phase.isDownloading = true

/-- What may be published next, and where it leads. -/
inductive CoursePhase.Advances : CoursePhase → TaskStatus → CoursePhase → Prop
  | initializing : Advances .pending (.new .initializing .zero none) .initializing
  | downloading {info : TaskInfo} {progress : Progress} (starts : progress.downloaded = 0)
    : Advances .initializing (.new .downloading progress (some info)) (.downloading info false)
  | reports {info : TaskInfo} {again : Bool} {progress : Progress}
    : Advances (.downloading info again) (.new .downloading progress (some info))
        (.downloading info again)
  | startsOver {info : TaskInfo} {progress : Progress} {reason : FallbackReason}
    (starts : progress.downloaded = 0)
    : Advances (.downloading info false)
        (.new .downloading progress
          (some { info with mode := .singleton, fallback := some reason }))
        (.downloading { info with mode := .singleton, fallback := some reason } true)
  | ends {phase : CoursePhase} {status : TaskStatus} (running : phase.isOver = false)
    (ends : status.Ends phase)
    : Advances phase status .ended

/-- The statuses a task may have published, oldest first, with where they lead. -/
inductive Course : List TaskStatus → CoursePhase → Prop
  | pending : Course [.new .pending .zero none] .pending
  | next {statuses : List TaskStatus} {phase later : CoursePhase} {status : TaskStatus}
    (earlier : Course statuses phase) (advances : phase.Advances status later)
    : Course (statuses ++ [status]) later

namespace CoursePhase.Advances

variable {phase later : CoursePhase} {status : TaskStatus}

theorem running (advances : phase.Advances status later) : phase.isOver = false := by
  cases advances with
  | ends running => exact running
  | _ => rfl

theorem terminal (advances : phase.Advances status later)
    : status.state.isTerminal = later.isOver := by
  cases advances with
  | ends running ends => exact ends.terminal
  | _ => rfl

theorem error (advances : phase.Advances status later)
    : status.error.isSome = true ↔ status.state = .failed ∨ status.state = .cancelled := by
  cases advances with
  | ends running ends => exact ends.error
  | _ => simp [TaskStatus.new]

/-- A status has the information of the phase it follows, or brings it. -/
theorem info (advances : phase.Advances status later)
    : status.info.isSome = true ↔ phase.info.isSome = true ∨ status.state = .downloading := by
  cases advances with
  | ends running ends =>
      have other : status.state ≠ .downloading := by
        intro same
        have never := ends.terminal
        rw [same] at never
        cases never
      simp [ends.info, other]
  | initializing => simp [TaskStatus.new, CoursePhase.info]
  | downloading | reports | startsOver => simp [TaskStatus.new]

/-- The information stays until the end. -/
theorem keeps_info (advances : phase.Advances status later) (running : later.isOver = false)
    : later.info.isSome = true ↔ phase.info.isSome = true ∨ status.state = .downloading := by
  cases advances with
  | ends => cases running
  | initializing => simp [TaskStatus.new, CoursePhase.info]
  | downloading | reports | startsOver => simp [TaskStatus.new, CoursePhase.info]

end CoursePhase.Advances

/-- One more element is the last one, or belongs to what follows. -/
theorem List.split_concat {α : Type} {items before after : List α} {last item : α}
    (split : items ++ [last] = before ++ item :: after)
    : before = items ∧ item = last ∧ after = []
      ∨ ∃ rest, after = rest ++ [last] ∧ items = before ++ item :: rest := by
  rcases List.eq_nil_or_concat' after with empty | ⟨rest, other, same⟩
  · subst empty
    obtain ⟨same, last⟩ := List.append_inj' split rfl
    cases last
    exact Or.inl ⟨same.symm, rfl, rfl⟩
  · subst same
    have regrouped : items ++ [last] = (before ++ item :: rest) ++ [other] := by
      simpa using split
    obtain ⟨same, last⟩ := List.append_inj' regrouped rfl
    cases last
    exact Or.inr ⟨rest, rfl, same⟩

namespace Course

variable {statuses : List TaskStatus} {phase : CoursePhase}

/-- Until a course is over it holds no terminal status. -/
theorem unfinished (course : Course statuses phase) (running : phase.isOver = false)
    : ∀ status ∈ statuses, status.state.isTerminal = false := by
  induction course with
  | pending =>
      intro status member
      cases List.mem_singleton.mp member
      rfl
  | next earlier advances ih =>
      intro status member
      rcases List.mem_append.mp member with before | last
      · exact ih advances.running status before
      · cases List.mem_singleton.mp last
        exact advances.terminal.trans running

/-- A terminal status is the last one. -/
theorem terminal_last (course : Course statuses phase)
    : statuses.Pairwise (fun earlier _ => earlier.state.isTerminal = false) := by
  induction course with
  | pending => exact List.pairwise_singleton _ _
  | next earlier advances ih =>
      refine List.pairwise_append.mpr ⟨ih, List.pairwise_singleton _ _, ?_⟩
      intro status member _ _
      exact earlier.unfinished advances.running status member

/-- A course that is over ends with a terminal status. -/
theorem ends_terminal (course : Course statuses phase) (finished : phase.isOver = true)
    : ∃ status ∈ statuses.getLast?, status.state.isTerminal = true := by
  cases course with
  | pending => cases finished
  | next earlier advances =>
      exact ⟨_, List.getLast?_concat, advances.terminal.trans finished⟩

/-- Exactly the failed and the cancelled have an error. -/
theorem errors (course : Course statuses phase)
    : ∀ status ∈ statuses,
        status.error.isSome = true ↔ status.state = .failed ∨ status.state = .cancelled := by
  induction course with
  | pending =>
      intro status member
      cases List.mem_singleton.mp member
      simp [TaskStatus.new]
  | next earlier advances ih =>
      intro status member
      rcases List.mem_append.mp member with before | last
      · exact ih status before
      · cases List.mem_singleton.mp last
        exact advances.error

/-- A running course has its information from the first `Downloading` on. -/
theorem info_iff (course : Course statuses phase) (running : phase.isOver = false)
    : phase.info.isSome = true ↔ ∃ status ∈ statuses, status.state = .downloading := by
  induction course with
  | pending => simp [CoursePhase.info, TaskStatus.new]
  | next earlier advances ih =>
      rw [advances.keeps_info running, ih advances.running]
      simp [List.mem_append, or_and_right, exists_or]

/-- So has every status. -/
theorem infos (course : Course statuses phase)
    : ∀ before status after,
        statuses = before ++ status :: after
        → (status.info.isSome = true
          ↔ ∃ earlier ∈ before ++ [status], earlier.state = .downloading) := by
  induction course with
  | pending =>
      intro before status after split
      rcases List.append_eq_singleton_iff.mp split.symm with ⟨empty, same⟩ | ⟨-, never⟩
      · cases same
        subst empty
        simp [TaskStatus.new]
      · cases never
  | next earlier advances ih =>
      intro before status after split
      rcases List.split_concat split with ⟨same, last, -⟩ | ⟨rest, -, inside⟩
      · subst same last
        rw [advances.info, earlier.info_iff advances.running]
        simp [List.mem_append, or_and_right, exists_or]
      · exact ih before status rest inside

end Course

-----------------------------------------------------------------------------------------
-- Publishing
-----------------------------------------------------------------------------------------

namespace Shared

/-- What was published follows the course up to a phase, and the rest agrees with it. -/
structure Stands (shared : Shared) (phase : CoursePhase) : Prop where
  course : Course shared.published phase
  terminal : shared.terminal = phase.isOver
  info : phase.isOver = false → shared.info = phase.info

variable {shared : Shared} {phase : CoursePhase}

theorem stands_new : Shared.new.Stands .pending where
  course := .pending
  terminal := rfl
  info _ := rfl

/-- Before the terminal status, anything can be published. -/
theorem publish_eq (running : shared.terminal = false) (status : TaskStatus)
    : shared.publish status = .ok { shared with published := shared.published ++ [status] } :=
  if_neg (by simp [running])

theorem Stands.initializing (stands : shared.Stands .pending)
    : ∃ after, shared.initializing = .ok after ∧ after.Stands .initializing :=
  ⟨_, publish_eq stands.terminal _, .next stands.course .initializing, stands.terminal,
    stands.info⟩

/-- A transfer starts, as the first one or after the fallback. -/
theorem Stands.downloading {info : TaskInfo} {again : Bool} {progress : Progress}
    (stands : shared.Stands phase) (tempFile : Path)
    (advances
      : phase.Advances (.new .downloading progress (some info)) (.downloading info again))
    : ∃ after,
        shared.downloading info tempFile progress = .ok after
        ∧ after.Stands (.downloading info again) := by
  have running := stands.terminal.trans advances.running
  let noted : Shared :=
    { shared with info := some info, tempFile := shared.tempFile.or (some tempFile) }
  have published := @publish_eq noted running (.new .downloading progress (some info))
  exact ⟨_, published, .next stands.course advances, running, fun _ => rfl⟩

theorem Stands.report {info : TaskInfo} {again : Bool}
    (stands : shared.Stands (.downloading info again)) (progress : Progress)
    : ∃ after, shared.report progress = .ok after ∧ after.Stands (.downloading info again) := by
  have known : shared.info = some info := stands.info rfl
  refine ⟨_, publish_eq stands.terminal _, ?_, stands.terminal, stands.info⟩
  rw [known]
  exact .next stands.course .reports

/-- The terminal status is published once. -/
theorem Stands.finish {outcome : Except DownloadError Unit} (stands : shared.Stands phase)
    (running : phase.isOver = false) (succeeds : outcome = .ok () → phase.isDownloading = true)
    (progress : Progress) (leftover : Option Path)
    : ∃ after, shared.finish outcome progress leftover = .ok after ∧ after.Stands .ended := by
  have info := stands.info running
  have ends : (shared.terminalStatus outcome progress leftover).Ends phase := by
    cases outcome with
    | ok done =>
        refine ⟨rfl, ?_, info, fun _ => succeeds rfl⟩
        simp [terminalStatus, Status.TaskState.ofOutcome, TaskStatus.new]
    | error error =>
        cases error <;>
          exact ⟨rfl, by simp [terminalStatus, Status.TaskState.ofOutcome, TaskStatus.new], info,
            fun never => by cases never⟩
  have unfinished : shared.terminal = false := stands.terminal.trans running
  refine ⟨_, if_neg (by simp [unfinished]), ?_, rfl, fun never => by cases never⟩
  exact .next stands.course (.ends running ends)

end Shared

-----------------------------------------------------------------------------------------
-- The runner of a transfer over one connection
-----------------------------------------------------------------------------------------

namespace SingletonRun

variable {usizeSize : Nat} {run : SingletonRun}

theorem endData_runner (run : SingletonRun) : run.endData.runner = run.runner := by
  unfold endData
  split <;> rfl

theorem endLifecycle_runner (run : SingletonRun) : run.endLifecycle.runner = run.runner := by
  unfold endLifecycle
  dsimp only
  split
  · rfl
  · split <;> rfl

theorem onLifecycle_runner (run : SingletonRun) (event : LifecycleEvent)
    : (run.onLifecycle event).runner = run.runner := by
  have kept {after : SingletonRun} (handled : run.handleLifecycleEvent event = .ok after)
      : after.runner = run.runner := by
    unfold handleLifecycleEvent at handled
    split at handled <;> cases handled <;> rfl
  unfold onLifecycle
  split
  · rfl
  · rfl
  · split
    · rfl
    · rename_i after handled
      have same := kept handled
      dsimp only
      split
      · split <;> exact same
      · exact same

theorem createFile_runner (run : SingletonRun) (outcome : FileCreation)
    : (run.createFile outcome).runner = run.runner := by
  cases outcome <;> rfl

theorem writeFrame_runner (run : SingletonRun) (frame : DataFrame)
    (result : Except (Nat × String) Unit)
    : (run.writeFrame frame result).runner = run.runner := by
  cases result <;> rfl

theorem store_runner (run : SingletonRun) (count : Nat)
    : (run.store count).runner = run.runner := by
  unfold store
  split <;> rfl

theorem finish_runner (run : SingletonRun) (result : Except DownloadError Unit)
    (flush : Except String Unit)
    : (run.finish result flush).runner = run.runner := by
  unfold finish
  split <;> rfl

/-- A transfer over one connection never panics, and its runner stays sound. -/
theorem next_sound {event : SingletonEvent} (sound : run.runner.Sound)
    (enabled : run.Enabled event)
    : ∃ after, run.next usizeSize event = .ok after ∧ after.runner.Sound := by
  cases event with
  | timer =>
      refine ⟨_, rfl, ?_⟩
      split <;> exact sound
  | turn sources =>
      obtain ⟨runner, turned, afterSound⟩ := sound.next usizeSize enabled.2.2
      exact ⟨_, by simp only [SingletonRun.next, turned]; rfl, afterSound⟩
  | ready =>
      obtain ⟨runner, resumed, afterSound⟩ := sound.next usizeSize enabled.2.2
      exact ⟨_, by simp only [SingletonRun.next, resumed]; rfl, afterSound⟩
  | fut => exact ⟨_, rfl, sound⟩
  | frame =>
      obtain ⟨frame, rest, queue⟩ := List.exists_cons_of_ne_nil enabled.2.2.2
      refine ⟨run.takeFrame frame, by simp only [SingletonRun.next, queue]; rfl, ?_⟩
      exact sound.consume (List.suffix_refl _) (List.tail_suffix _) id id
  | dataEnd => exact ⟨_, rfl, (endData_runner run).symm ▸ sound⟩
  | lifecycle =>
      obtain ⟨event, rest, queue⟩ := List.exists_cons_of_ne_nil enabled.2.2.2
      refine ⟨_, by simp only [SingletonRun.next, queue]; rfl, ?_⟩
      rw [onLifecycle_runner]
      have taken := sound.consume (List.tail_suffix _) (List.suffix_refl _) id id
      rw [queue] at taken
      exact taken
  | lifecycleEnd => exact ⟨_, rfl, (endLifecycle_runner run).symm ▸ sound⟩
  | fileCreated outcome => exact ⟨_, rfl, (createFile_runner run outcome).symm ▸ sound⟩
  | frameWritten result =>
      simp only [SingletonRun.next]
      split
      · exact ⟨_, rfl, (writeFrame_runner run _ result).symm ▸ sound⟩
      · exact ⟨_, rfl, sound⟩
  | store count => exact ⟨_, rfl, (store_runner run count).symm ▸ sound⟩
  | fault => exact ⟨_, rfl, sound⟩
  | flushed flush =>
      simp only [SingletonRun.next]
      split
      · exact ⟨_, rfl, (finish_runner run _ flush).symm ▸ sound⟩
      · exact ⟨_, rfl, sound⟩

theorem new_sound (total : Option Nat) (output : OutputFile) (disk : Option Bytes)
    : (new total output disk).runner.Sound :=
  RunnerRun.Sound.new (by simp) (by simp)

end SingletonRun

-----------------------------------------------------------------------------------------
-- The attempt
-----------------------------------------------------------------------------------------

/-- A transfer does not panic by itself. -/
def TransferRun.Sound : TransferRun → Prop
  | concurrent _ => True
  | singleton run => run.runner.Sound

/-- A transfer runs where the course downloads; after the fallback, over one connection. -/
structure TransferRun.Fits (transfer : TransferRun) (info : TaskInfo) (phase : CoursePhase)
    : Prop where
  downloads : ∃ again, phase = .downloading info again
      ∧ (again = true → ∃ run, transfer = .singleton run)
  sound : transfer.Sound

/-- The attempt stands where the course of its status does. -/
def AttemptStage.Fits : AttemptStage → CoursePhase → Prop
  | spawned, phase => phase = .pending
  | initializing, phase => phase = .initializing
  | transferring info transfer, phase => transfer.Fits info phase
  | publishing info transfer, phase => transfer.Fits info phase
  | discarding info transfer _, phase => transfer.Fits info phase
  | tornDown info transfer _, phase => transfer.Fits info phase
  | finished, phase => phase = .ended
  | panicked _, _ => True
  | returned, phase => phase = .ended

theorem TransferRun.next_sound {usizeSize : Nat} {transfer : TransferRun}
    {event : TransferRunEvent} {cancelled : Bool} (sound : transfer.Sound)
    (enabled : transfer.Enabled usizeSize cancelled event)
    : ∃ after,
        transfer.next usizeSize event = .ok after
        ∧ after.Sound
        ∧ ((∃ run, transfer = .singleton run) → ∃ run, after = .singleton run) := by
  cases transfer with
  | concurrent run =>
      cases event with
      | concurrent event => exact ⟨_, rfl, trivial, fun ⟨_, never⟩ => by cases never⟩
      | singleton event => exact enabled.elim
  | singleton run =>
      cases event with
      | concurrent event => exact enabled.elim
      | singleton event =>
          obtain ⟨after, stepped, afterSound⟩ :=
            @SingletonRun.next_sound usizeSize run event sound enabled.1
          exact ⟨.singleton after, by simp only [TransferRun.next, stepped]; rfl, afterSound,
            fun _ => ⟨after, rfl⟩⟩

/-- Retrieved metadata is used as given metadata is. -/
theorem initializeAttempt_retrieved {attempt : Drive.Attempt} {sources : InitSources}
    (unknown : attempt.metadata = none)
    : initializeAttempt attempt sources
      = (sources.retrieved.mapError DownloadError.metadata).bind (fun metadata =>
          initializeAttempt { attempt with metadata := some metadata } sources) := by
  unfold initializeAttempt
  rw [unknown]
  rfl

/-- The concurrent mode is only selected for a known size. -/
theorem initializeAttempt_concurrent {attempt : Drive.Attempt} {sources : InitSources}
    {initialized : Initialized} (initializes : initializeAttempt attempt sources = .ok initialized)
    (concurrent : initialized.mode = .concurrent)
    : 0 < initialized.metadata.contentSize := by
  -- Given metadata first; retrieved metadata is given to the same rule.
  have given {attempt : Drive.Attempt} {metadata : BoltLoadAdapterMeta}
      (known : attempt.metadata = some metadata)
      (initializes : initializeAttempt attempt sources = .ok initialized)
      : 0 < initialized.metadata.contentSize := by
    unfold initializeAttempt at initializes
    rw [known] at initializes
    cases resolved : sources.resolved with
    | error error =>
        rw [resolved] at initializes
        dsimp only at initializes
        cases initializes
    | ok path =>
        cases checked : sources.checked with
        | error error =>
            rw [resolved, checked] at initializes
            dsimp only at initializes
            cases initializes
        | ok done =>
            rw [resolved, checked] at initializes
            dsimp only at initializes
            cases initializes
            by_cases single : attempt.preferMode = some .singleton
            · simp [single] at concurrent
            by_cases coded : metadata.contentEncoding.isSome = true
            · simp [single, coded] at concurrent
            by_cases ranged : metadata.contentSize ≠ 0 ∧ sources.rangeStream = true
            · exact Nat.pos_of_ne_zero ranged.1
            · simp [single, coded, ranged] at concurrent
  cases known : attempt.metadata with
  | some metadata => exact given known initializes
  | none =>
      rw [initializeAttempt_retrieved known] at initializes
      cases retrieved : sources.retrieved with
      | error error =>
          rw [retrieved] at initializes
          cases initializes
      | ok metadata =>
          rw [retrieved] at initializes
          exact @given { attempt with metadata := some metadata } metadata rfl initializes

namespace AttemptRun

variable {usizeSize : Nat} {run after : AttemptRun} {phase : CoursePhase}

/-- A new transfer has downloaded nothing. -/
theorem transferOf_eq (run : AttemptRun) {info : TaskInfo}
    (known : info.mode = .concurrent → 0 < info.metadata.contentSize)
    : ∃ transfer,
        run.transferOf info = .ok transfer
        ∧ transfer.Sound
        ∧ transfer.progress.downloaded = 0 := by
  unfold transferOf
  dsimp only
  split
  · exact ⟨_, rfl, SingletonRun.new_sound _ _ _, rfl⟩
  · rename_i mode
    rw [if_pos (known mode)]
    exact ⟨_, rfl, trivial, rfl⟩

/-- The attempt goes on, and its status has kept its course. -/
def KeepsCourse (result : Checked AttemptRun) : Prop :=
  ∃ after phase,
    result = .ok after ∧ after.shared.Stands phase ∧ after.stage.Fits phase

/-- A transfer starts where its first `Downloading` leads. -/
theorem drive_keeps {info : TaskInfo} {transfer : TransferRun} {again : Bool}
    (stands : run.shared.Stands phase)
    (advances
      : phase.Advances (.new .downloading transfer.progress (some info))
          (.downloading info again))
    (sound : transfer.Sound) (single : again = true → ∃ run, transfer = .singleton run)
    : KeepsCourse (run.drive info transfer) := by
  obtain ⟨shared, published, stands⟩ := stands.downloading (tmpPathFor info.path) advances
  refine ⟨{ run with shared, stage := .transferring info transfer }, _, ?_, stands,
    ⟨⟨again, rfl, single⟩, sound⟩⟩
  simp only [drive, published]
  rfl

/-- The terminal status is where an attempt finishes. -/
theorem finish_keeps {outcome : Except DownloadError Unit} (stands : run.shared.Stands phase)
    (running : phase.isOver = false) (succeeds : outcome = .ok () → phase.isDownloading = true)
    (progress : Progress) (leftover : Option Path)
    : KeepsCourse (run.finish outcome progress leftover) := by
  obtain ⟨shared, published, stands⟩ := stands.finish running succeeds progress leftover
  refine ⟨{ run with shared, stage := .finished }, .ended, ?_, stands, rfl⟩
  simp only [finish, published]
  rfl

/-- Initialization ends in a failure or starts the first transfer. -/
theorem onInitialized_keeps (stands : run.shared.Stands .initializing) (sources : InitSources)
    : KeepsCourse (run.onInitialized sources) := by
  unfold onInitialized
  split
  · exact finish_keeps stands rfl (fun never => by cases never) _ _
  · rename_i initialized outcome
    have initializes : initializeAttempt run.attempt sources = .ok initialized := by
      unfold untilCancelled at outcome
      split at outcome
      · cases outcome
      · exact outcome
    let info : TaskInfo :=
      { metadata := initialized.metadata
        mode := initialized.mode
        path := initialized.path
        fallback := initialized.fallback }
    obtain ⟨transfer, selected, sound, starts⟩ :=
      @transferOf_eq run info (initializeAttempt_concurrent initializes)
    have drives : KeepsCourse (run.drive info transfer) :=
      drive_keeps stands (.downloading starts) sound (fun never => by cases never)
    show KeepsCourse ((run.transferOf info).bind (run.drive info))
    rw [selected]
    exact drives

/-- A transfer that is over falls back, once, or publishes its outcome. -/
theorem conclude_keeps {info : TaskInfo} {transfer : TransferRun}
    (stands : run.shared.Stands phase) (fits : transfer.Fits info phase) (teardown : Teardown)
    : KeepsCourse (run.conclude info transfer teardown) := by
  obtain ⟨⟨again, same, single⟩, sound⟩ := fits
  subst same
  unfold conclude
  extract_lets progress
  clear_value progress
  split
  · cases again with
    | true =>
        obtain ⟨_, never⟩ := single rfl
        cases never
    | false =>
        have alone := SingletonRun.new_sound none (OutputFile.new info.path)
          (run.files (OutputFile.new info.path).tmp)
        exact drive_keeps stands (.startsOver rfl) alone (fun _ => ⟨_, rfl⟩)
  · exact finish_keeps stands rfl (fun _ => rfl) _ _

/-- The panic handler publishes what was not published. -/
theorem reportPanic_keeps (stands : run.shared.Stands phase) (message : String)
    (removal : Removal)
    : KeepsCourse (run.reportPanic message removal) := by
  unfold reportPanic
  dsimp only
  split
  · rename_i published
    have ended : phase.isOver = true := stands.terminal.symm.trans published
    refine ⟨_, phase, rfl, stands, ?_⟩
    cases phase with
    | ended => rfl
    | _ => cases ended
  · rename_i unpublished
    have running : phase.isOver = false := by
      rw [← stands.terminal]
      exact Bool.eq_false_iff.mpr unpublished
    have reports (files : Path → Option Bytes) (leftover : Option Path)
        : KeepsCourse (do
            let shared ←
              run.shared.finish (.error (.panicked message)) run.shared.progress leftover
            pure ⟨run.attempt, shared, true, files, .returned⟩) := by
      let panicked : Except DownloadError Unit := .error (.panicked message)
      have fails (never : panicked = .ok ()) : phase.isDownloading = true :=
        Except.noConfusion rfl rfl (heq_of_eq never)
      obtain ⟨after, published, stands⟩ :=
        stands.finish running fails run.shared.progress leftover
      exact ⟨⟨run.attempt, after, true, files, .returned⟩, .ended, by rw [published]; rfl,
        stands, rfl⟩
    cases temp : run.shared.tempFile with
    | some tmp =>
        exact reports (removal.leaves run.files tmp) (removalFailed tmp removal)
    | none => exact reports run.files none

/-- Every event of an attempt on its course succeeds, and keeps it there. -/
theorem next_keeps {event : AttemptEvent} (stands : run.shared.Stands phase)
    (fits : run.stage.Fits phase) (enabled : run.Enabled usizeSize event)
    : KeepsCourse (run.next usizeSize event) := by
  obtain ⟨attempt, shared, cancelled, files, stage⟩ := run
  cases event with
  | cancel => exact ⟨_, phase, rfl, stands, fits⟩
  | start hasRuntime =>
      cases stage with
      | spawned =>
          cases fits
          cases hasRuntime with
          | true =>
              obtain ⟨after, published, stands⟩ := stands.initializing
              refine ⟨⟨attempt, after, cancelled, files, .initializing⟩, .initializing, ?_,
                stands, rfl⟩
              simp only [AttemptRun.next, start, published]
              rfl
          | false => exact finish_keeps stands rfl (fun never => by cases never) _ _
      | _ => exact enabled.elim
  | initialized sources =>
      cases stage with
      | initializing =>
          cases fits
          exact onInitialized_keeps stands sources
      | _ => exact enabled.elim
  | transfer event =>
      cases stage with
      | transferring info transfer =>
          obtain ⟨⟨again, same, single⟩, sound⟩ := fits
          obtain ⟨after, stepped, afterSound, stays⟩ := TransferRun.next_sound sound enabled
          refine ⟨⟨attempt, shared, cancelled,
            Function.update files (tmpPathFor info.path) after.disk, .transferring info after⟩,
            phase, ?_, stands, ⟨⟨again, same, fun falls => stays (single falls)⟩, afterSound⟩⟩
          simp only [AttemptRun.next, onTransfer, stepped]
          rfl
      | _ => exact enabled.elim
  | report progress =>
      have downloads : ∃ info again, phase = .downloading info again := by
        cases stage with
        | transferring info transfer | publishing info transfer | discarding info transfer
        | tornDown info transfer =>
            obtain ⟨again, same, -⟩ := fits.downloads
            exact ⟨info, again, same⟩
        | _ => cases enabled
      obtain ⟨info, again, same⟩ := downloads
      subst same
      obtain ⟨after, published, stands⟩ := stands.report progress
      refine ⟨⟨attempt, after, cancelled, files, stage⟩, .downloading info again, ?_, stands,
        fits⟩
      simp only [AttemptRun.next, published]
      rfl
  | commit =>
      cases stage with
      | transferring info transfer =>
          obtain ⟨result, returned⟩ := Option.isSome_iff_exists.mp enabled
          refine ⟨_, phase, by simp only [AttemptRun.next, returned]; rfl, ?_, ?_⟩
          · cases result with
            | ok done =>
                simp only [commit]
                split <;> exact stands
            | error error => exact stands
          · cases result with
            | ok done =>
                simp only [commit]
                split <;> exact fits
            | error error => exact fits
      | _ => exact enabled.elim
  | renamed result =>
      cases stage with
      | publishing info transfer => cases result <;> exact ⟨_, phase, rfl, stands, fits⟩
      | _ => exact enabled.elim
  | removed removal =>
      cases stage with
      | discarding info transfer error => exact ⟨_, phase, rfl, stands, fits⟩
      | _ => exact enabled.elim
  | concluded =>
      cases stage with
      | tornDown info transfer teardown => exact conclude_keeps stands fits teardown
      | _ => exact enabled.elim
  | panic message => exact ⟨_, phase, rfl, stands, trivial⟩
  | reportPanic removal =>
      cases stage with
      | panicked message => exact reportPanic_keeps stands message removal
      | _ => exact enabled.elim
  | «return» =>
      cases stage with
      | finished => exact ⟨_, phase, rfl, stands, fits⟩
      | _ => exact enabled.elim

/-- Every reachable attempt is on its course, by induction on the run. -/
theorem reachable_course (reached : (machine usizeSize).Reachable run)
    : ∃ phase, run.shared.Stands phase ∧ run.stage.Fits phase := by
  induction reached with
  | initial start =>
      obtain ⟨attempt, files, cancelled, same⟩ := start
      subst same
      exact ⟨.pending, Shared.stands_new, rfl⟩
  | step reached step ih =>
      obtain ⟨phase, stands, fits⟩ := ih
      obtain ⟨after, later, stepped, stands, fits⟩ := next_keeps stands fits step.enabled
      cases step.next.symm.trans stepped
      exact ⟨later, stands, fits⟩

/-- The status of a task is published along one course. -/
structure FollowsCourse (usizeSize : Nat) (run : AttemptRun) : Prop where
  course : ∃ phase, Course run.shared.published phase
  /-- No publication is refused. -/
  publishes : ∀ event, run.Enabled usizeSize event → ∃ after, run.next usizeSize event = .ok after
  /-- Nothing follows a terminal status. -/
  last : run.shared.published.Pairwise (fun earlier _ => earlier.state.isTerminal = false)
  /-- A finished attempt has published one. -/
  terminal
    : run.stage = .finished ∨ run.stage = .returned
      → ∃ status ∈ run.shared.published.getLast?, status.state.isTerminal = true
  errors
    : ∀ status ∈ run.shared.published,
        status.error.isSome = true ↔ status.state = .failed ∨ status.state = .cancelled
  /-- The information is there from the first `Downloading` on. -/
  infos
    : ∀ before status after,
        run.shared.published = before ++ status :: after
        → (status.info.isSome = true
          ↔ ∃ earlier ∈ before ++ [status], earlier.state = .downloading)

/-- Publisher, reporters and the panic handler keep to one course, over every run. -/
theorem status_course (reached : (machine usizeSize).Reachable run)
    : run.FollowsCourse usizeSize := by
  obtain ⟨phase, stands, fits⟩ := reachable_course reached
  refine ⟨⟨phase, stands.course⟩, ?_, stands.course.terminal_last, ?_, stands.course.errors,
    stands.course.infos⟩
  · intro event enabled
    obtain ⟨after, -, stepped, -⟩ := next_keeps stands fits enabled
    exact ⟨after, stepped⟩
  · intro finished
    have ended : phase = .ended := by
      rcases finished with finished | returned
      · rw [finished] at fits
        exact fits
      · rw [returned] at fits
        exact fits
    exact stands.course.ends_terminal (by rw [ended]; rfl)

/-- An attempt that falls back to one connection and then panics. -/
def fallsBackAndPanics : List AttemptEvent :=
  [ .start true
  , .initialized ⟨.ok ⟨100, none⟩, true, .ok "a", .ok ()⟩
  , .transfer (.concurrent (.created (.opened .compio 1)))
  , .report ⟨some 100, 7, []⟩
  , .transfer (.concurrent (.ran (.error (.rangeUnsupported .rangeIgnored (.unretryable .rangeIgnored))) 7 []))
  , .transfer (.concurrent .joined)
  , .transfer (.concurrent (.flushed (.ok ())))
  , .transfer (.concurrent .workerExits)
  , .transfer (.concurrent (.finalized (.ok ())))
  , .commit
  , .removed .removed
  , .concluded
  , .panic "boom"
  , .reportPanic .notFound ]

/-- The course of that attempt: it downloads twice, and fails once. -/
theorem status_course_fallback
    : ∃ run : AttemptRun,
        run.FollowsCourse 8
        ∧ run.shared.published.map (fun status => (status.state, status.progress.downloaded))
          = [ (.pending, 0), (.initializing, 0), (.downloading, 0), (.downloading, 7)
            , (.downloading, 0), (.failed, 0) ] := by
  have started : (machine 8).Reachable (.new ⟨none, none⟩ (fun _ => none) false) :=
    .initial ⟨_, _, _, rfl⟩
  have executes
      : ((machine 8).execute (.new ⟨none, none⟩ (fun _ => none) false) fallsBackAndPanics).map
          (fun run => run.shared.published.map
            (fun status => (status.state, status.progress.downloaded)))
        = some
          [ (.pending, 0), (.initializing, 0), (.downloading, 0), (.downloading, 7)
          , (.downloading, 0), (.failed, 0) ] := by
    decide +kernel
  obtain ⟨run, executed, published⟩ := Option.map_eq_some_iff.mp executes
  exact ⟨run, status_course (started.execute fallsBackAndPanics executed), published⟩

end AttemptRun

end BoltLoad
