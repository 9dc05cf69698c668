import BoltLoad.DownloadLoop.Runs
import BoltLoad.Transfer.Completion

/-! How the loop ends once the task is complete. It returns `Ok` on the tick that reports the
task finished; a completed task that no tick reports leaves it waiting, or failing.
-/

namespace BoltLoad

-----------------------------------------------------------------------------------------
-- The manager's view
-----------------------------------------------------------------------------------------

namespace Transfer

variable {transfer after : Transfer}

/-- The manager's part of a spawn. -/
theorem spawn_managed {range : Range} {outcome : Except SpawnFailed Unit}
    (spawns : transfer.spawn range outcome = .ok after)
    : transfer.managed.next (.spawn range outcome) = .ok after.managed := by
  obtain ⟨⟨result, managed⟩, spawned, same⟩ := Checked.bind_eq_ok.mp spawns
  cases same
  simp only [ManagerRun.next, spawned]
  rfl

/-- The manager's part of a resize. -/
theorem resize_managed {runnerId : RunnerId} {newSize : Nat}
    (resizes : transfer.resize runnerId newSize = .ok after)
    : transfer.managed.next (.resize runnerId newSize (transfer.receives runnerId))
      = .ok after.managed := by
  obtain ⟨⟨result, sent, managed⟩, resized, same⟩ := Checked.bind_eq_ok.mp resizes
  cases same
  simp only [ManagerRun.next, resized]
  rfl

/-- The manager's part of a poll. -/
theorem tick_managed {now : Instant} {dataEnabled : Bool}
    {lifecycle : Option LifecycleStreamEvent} {data : Option DataStreamEvent}
    {tick : Option RunnerTick}
    (ticks : transfer.tick now dataEnabled lifecycle data = .ok (tick, after))
    : transfer.managed.tick now dataEnabled lifecycle data = .ok (tick, after.managed) := by
  obtain ⟨⟨result, managed⟩, ticked, same⟩ := Checked.bind_eq_ok.mp ticks
  cases same
  exact ticked

end Transfer

-----------------------------------------------------------------------------------------
-- The loop
-----------------------------------------------------------------------------------------

namespace LoopRun

open DownloadLoop

variable {usizeSize : Nat} {run : LoopRun}

/-- The turn comes to the runners and finds a failure that completes the task, which no tick
reported so far.
-/
def MissesCompletion (run : LoopRun) : LoopRunEvent → Prop
  | .poll sources =>
    run.ReachesRunners sources
    ∧ run.transfer.managed.MissesCompletion
        (.tick sources.now run.loop.writer.canWrite sources.lifecycle sources.data)
  | _ => False

/-- What the runs of the loop keep of completion: a completed task was reported, and the tick
that reported it ended the loop with `Ok`.
-/
structure Notices (run : LoopRun) : Prop where
  reported : run.transfer.managed.Reported
  running : run.stage = .running → run.transfer.managed.reportedFinished = false
  joining
    : ∀ result progress,
        run.stage = .joining result progress
        → run.transfer.managed.reportedFinished = true
        → result = .ok ()

/-- A completed task ends the loop with `Ok`. -/
theorem Notices.ends (notices : run.Notices) (done : run.transfer.managed.Done)
    : run.stage ≠ .running
      ∧ ∀ result progress, run.stage = .joining result progress → result = .ok () := by
  have finished := notices.reported done
  refine ⟨?_, fun result progress joining => notices.joining result progress joining finished⟩
  intro running
  have never := (notices.running running).symm.trans finished
  cases never

/-- The loop's own calls neither complete the task unnoticed nor report it. -/
theorem kept_unreported (usizeSize : Nat)
    : Transfer.Kept
        (fun transfer =>
          (Transfer.machine usizeSize).Reachable transfer
          ∧ transfer.managed.Reported
          ∧ transfer.managed.reportedFinished = false) where
  spawn := by
    rintro transfer after range outcome ⟨reached, reported, unreported⟩ spawns
    have sound := (Transfer.reachable_sound reached).run
    have enabled : transfer.managed.Enabled (.spawn range outcome) := trivial
    refine ⟨(Transfer.kept_reachable usizeSize).spawn reached spawns,
      sound.next_reported enabled (Transfer.spawn_managed spawns) reported not_false, ?_⟩
    obtain ⟨result, spawned, same⟩ := Checked.bind_eq_ok.mp spawns
    cases same
    obtain ⟨manager, -, same⟩ := Checked.bind_eq_ok.mp spawned
    cases same
    exact unreported
  resize := by
    rintro transfer after runnerId newSize ⟨reached, reported, unreported⟩ resizes
    have sound := (Transfer.reachable_sound reached).run
    have enabled
        : transfer.managed.Enabled (.resize runnerId newSize (transfer.receives runnerId)) :=
      trivial
    refine ⟨(Transfer.kept_reachable usizeSize).resize reached resizes,
      sound.next_reported enabled (Transfer.resize_managed resizes) reported not_false, ?_⟩
    obtain ⟨result, resized, same⟩ := Checked.bind_eq_ok.mp resizes
    cases same
    obtain ⟨manager, -, same⟩ := Checked.bind_eq_ok.mp resized
    cases same
    exact unreported
  observeOutcomes sampler := fun ⟨reached, reported, unreported⟩ =>
    ⟨(Transfer.kept_reachable usizeSize).observeOutcomes sampler reached, reported, unreported⟩
  takeMetersSnapshot := fun ⟨reached, reported, unreported⟩ =>
    ⟨(Transfer.kept_reachable usizeSize).takeMetersSnapshot reached, reported, unreported⟩

/-- Only the tick that reports the task finished counts as such. -/
theorem tick_reportedFinished {transfer after : Transfer} {now : Instant} {dataEnabled : Bool}
    {lifecycle : Option LifecycleStreamEvent} {data : Option DataStreamEvent}
    {tick : Option RunnerTick}
    (ticks : transfer.tick now dataEnabled lifecycle data = .ok (tick, after))
    : after.managed.reportedFinished
      = (transfer.managed.reportedFinished || tick.any (fun tick => tick.state == .finished)) := by
  obtain ⟨⟨result, manager⟩, -, same⟩ :=
    Checked.bind_eq_ok.mp (Transfer.tick_managed ticks)
  obtain ⟨sameTick, sameManaged⟩ := Prod.mk.inj (Except.ok.inj same)
  rw [← sameManaged, ← sameTick]

/-- A tick that reports the task finished ends the loop with `Ok`. -/
theorem onRunner_finished (loop : DownloadLoop) (now : Instant) (immediate : Immediate)
    : loop.onRunner .finished now immediate = .ok (.ok .breaks, loop) :=
  rfl

/-- A turn that does not miss the completion keeps these facts. -/
theorem Notices.turned {sources : LoopSources} {after : LoopRun}
    (notices : run.Notices) (reached : (Transfer.machine usizeSize).Reachable run.transfer)
    (enabled : run.Enabled (.poll sources)) (noticed : ¬ run.MissesCompletion (.poll sources))
    (turned : run.Turned sources after)
    : after.Notices := by
  obtain ⟨running, -, ticks⟩ := enabled
  have unreported := notices.running running
  have sound := Transfer.reachable_sound reached
  have quiet (transfer : Transfer) (stage : LoopStage) (next : DownloadLoop)
      (completions : List WriteCompletion) (same : next.transfer = transfer)
      (reported : transfer.managed.Reported)
      (silent : transfer.managed.reportedFinished = false)
      : Notices ⟨next, stage, completions⟩ := by
    subst same
    refine ⟨reported, fun _ => silent, ?_⟩
    intro result progress _ finished
    have never := silent.symm.trans finished
    cases never
  have polls {tick : Option RunnerTick} {transfer : Transfer}
      (reaches : run.ReachesRunners sources)
      (ticked
        : run.transfer.tick sources.now run.loop.writer.canWrite sources.lifecycle sources.data
          = .ok (tick, transfer))
      : transfer.managed.Reported := by
    have delivered
        : run.transfer.managed.Enabled
            (.tick sources.now run.loop.writer.canWrite sources.lifecycle sources.data) :=
      fun cause selects => sound.delivers (ticks cause selects)
    refine sound.run.next_reported delivered ?_ notices.reported
      (fun misses => noticed ⟨reaches, misses⟩)
    simp only [ManagerRun.next, Transfer.tick_managed ticked]
    rfl
  cases turned with
  | cancelled => exact quiet _ _ run.loop _ rfl notices.reported unreported
  | deadline =>
      refine quiet run.transfer _ _ _ ?_ notices.reported unreported
      unfold onDeadline
      split <;> rfl
  | @written completions writer result loop polled recorded =>
      refine quiet run.transfer _ loop _ ?_ notices.reported unreported
      obtain ⟨checked, -, same⟩ := Checked.bind_eq_ok.mp recorded
      cases checked <;> cases same <;> rfl
  | strategy ticked =>
      obtain ⟨-, reported, silent⟩ := kept_onStrategyTick (kept_unreported usizeSize)
        ⟨reached, notices.reported, unreported⟩ ticked
      exact quiet _ _ _ _ rfl reported silent
  | sampled =>
      exact quiet _ _ (run.loop.onThroughputTick sources.speed) _ rfl notices.reported unreported
  | @idle transfer reaches ticked =>
      have silent := tick_reportedFinished ticked
      rw [unreported] at silent
      exact quiet transfer _ _ _ rfl (polls reaches ticked) silent
  | @runner tick transfer result loop reaches ticked handled =>
      have reported := polls reaches ticked
      have kept := onRunner_transfer handled
      have flag := tick_reportedFinished ticked
      rw [unreported, Bool.false_or, Option.any_some] at flag
      by_cases finished : tick.state = .finished
      · rcases sound.afterTick sources.now ticks with ⟨some_tick, after, same, -, outcome⟩ | early
        · cases same.symm.trans ticked
          have bare : tick = .finished := by
            generalize transfer.managed = managed at outcome
            cases outcome with
            | handled selects offered handled =>
                exact (RunnerManager.handled_finished handled finished).1
          subst bare
          rw [onRunner_finished] at handled
          cases handled
          refine ⟨reported, (fun never => by cases never), ?_⟩
          intro result progress joining _
          cases joining
          rfl
        · cases early.symm.trans ticked
      · refine quiet transfer _ _ _ kept reported ?_
        rw [flag]
        exact beq_eq_false_iff_ne.mpr finished

/-- While no turn misses the completion, the loop notices it, by induction on the run. -/
theorem reachable_notices
    (reached
      : ((machine usizeSize).restrict
          (fun run event => ¬ run.MissesCompletion event)).Reachable run)
    : run.Notices := by
  induction reached with
  | initial start =>
      obtain ⟨total, maxConcurrency, options, now, -, -, same⟩ := start
      subst same
      refine ⟨fun done => ?_, fun _ => rfl, fun result progress never => by cases never⟩
      cases done.1
  | @step before event after earlier step ih =>
      have next := step.next
      obtain ⟨enabled, noticed⟩ := step.enabled
      have reached := reachable_transfer earlier.of_restrict
      cases event with
      | poll sources => exact ih.turned reached enabled noticed (poll_turned next)
      | turn port sources =>
          obtain ⟨transfer, turned, same⟩ := Checked.bind_eq_ok.mp next
          cases same
          obtain ⟨inst, effect, run, -, turns, -⟩ :=
            (Transfer.reachable_sound reached).turns usizeSize enabled.2
          cases turns.symm.trans turned
          exact ⟨ih.reported, ih.running, ih.joining⟩
      | vanish port =>
          obtain ⟨transfer, vanished, same⟩ := Checked.bind_eq_ok.mp next
          cases same
          cases vanished
          exact ⟨ih.reported, ih.running, ih.joining⟩
      | complete index result =>
          obtain ⟨writer, -, same⟩ := Checked.bind_eq_ok.mp next
          cases same
          exact ⟨ih.reported, ih.running, ih.joining⟩
      | join immediate =>
          obtain ⟨result, progress, joining⟩ := LoopStage.isJoining_iff.mp enabled
          simp only [machine, Machine.restrict, LoopRun.next, joining] at next
          obtain ⟨_, -, same⟩ := Checked.bind_eq_ok.mp next
          cases same
          refine ⟨ih.reported, (fun never => ?_), (fun _ _ never => ?_)⟩ <;> cases never
      | flushStep immediate =>
          obtain ⟨result, progress, completions, flushing⟩ :=
            LoopStage.isFlushing_iff.mp enabled
          simp only [machine, Machine.restrict, LoopRun.next, flushing] at next
          obtain ⟨⟨batch, writer⟩, -, rest⟩ := Checked.bind_eq_ok.mp next
          cases batch with
          | some batch =>
              cases rest
              refine ⟨ih.reported, (fun never => ?_), (fun _ _ never => ?_)⟩ <;> cases never
          | none =>
              obtain ⟨_, -, same⟩ := Checked.bind_eq_ok.mp rest
              cases same
              refine ⟨ih.reported, (fun never => ?_), (fun _ _ never => ?_)⟩ <;> cases never

/-- In every run of the manager in which no tick misses it, a completed task without runners was
reported; a tick that misses it leaves it unreported; and in every run of the loop in which no
turn misses it, a completed task without runners has ended the loop with `Ok`.
-/
theorem completion_reported (usizeSize : Nat)
    : (∀ run,
        (ManagerRun.machine.restrict
          (fun run event => ¬ run.MissesCompletion event)).Reachable run
        → run.Reported)
      ∧ (∀ run event after,
        ManagerRun.machine.Reachable run
        → ManagerRun.machine.Step run event after
        → run.MissesCompletion event
        → ¬ after.Reported)
      ∧ ∀ run,
        ((machine usizeSize).restrict (fun run event => ¬ run.MissesCompletion event)).Reachable run
        → run.transfer.managed.Done
        → run.stage ≠ .running
          ∧ ∀ result progress, run.stage = .joining result progress → result = .ok () := by
  refine ⟨fun run reached => ManagerRun.reachable_reported reached, ?_, ?_⟩
  · intro run event after reached step misses reported
    obtain ⟨done, unreported⟩ :=
      (ManagerRun.reachable_sound reached).next_misses step.enabled step.next misses
    have never := unreported.symm.trans (reported done)
    cases never
  · intro run reached done
    exact (reachable_notices reached).ends done

-----------------------------------------------------------------------------------------
-- A task whose last runner times out
-----------------------------------------------------------------------------------------

/-- Whether a poll is offered a runner that stopped failing. -/
def offersFailure : Option LifecycleStreamEvent → Bool
  | some (.event _ (.stopped (.failed _))) => true
  | _ => false

/-- Only the stop of a failed runner is ever missed. -/
theorem offersFailure_of_misses {managed : ManagerRun} {now : Instant} {dataEnabled : Bool}
    {lifecycle : Option LifecycleStreamEvent} {data : Option DataStreamEvent}
    (misses : managed.MissesCompletion (.tick now dataEnabled lifecycle data))
    : offersFailure lifecycle = true := by
  obtain ⟨-, cause, selects, fails⟩ := misses
  unfold RunnerManager.selected at selects
  split at selects
  · cases selects
    exact fails.elim
  · cases selects
    rename_i event _
    cases event with
    | closed runnerId => exact fails.elim
    | event runnerId item =>
        cases item with
        | started => exact fails.elim
        | stopped reason =>
            cases reason with
            | finished => exact fails.elim
            | failed error => rfl
  · split at selects
    · cases data with
      | none => cases selects
      | some event =>
          cases selects
          exact fails.elim
    · cases selects

/-- Turns that are offered no failed runner. -/
def Unfailing (_ : LoopRun) : LoopRunEvent → Prop
  | .poll sources => offersFailure sources.lifecycle = false
  | _ => True

instance (run : LoopRun) : (event : LoopRunEvent) → Decidable (run.Unfailing event)
  | .poll _ => inferInstanceAs (Decidable (_ = _))
  | .turn _ _ | .vanish _ | .complete _ _ | .join _ | .flushStep _ => .isTrue trivial

theorem Unfailing.noticed {event : LoopRunEvent} (unfailing : run.Unfailing event)
    : ¬ run.MissesCompletion event := by
  intro misses
  cases event with
  | poll sources =>
      have never := unfailing.symm.trans (offersFailure_of_misses misses.2)
      cases never
  | _ => exact misses.elim

/-- The loop starts one runner, which reads the ten bytes of the file and pushes them. -/
def readsAllEvents : List LoopRunEvent :=
  [.poll { strategyTimer := true },
    .turn 0 { connection := some (.ok ()) },
    .turn 0 { lifecycleReady := some true },
    .poll { lifecycle := some (.event 0 .started) },
    .turn 0 { item := some (some (.ok [0, 1, 2, 3, 4, 5, 6, 7, 8, 9])) },
    .turn 0 { dataReady := some true }]

/-- The loop takes what it pushed. -/
def takesAll : LoopRunEvent :=
  .poll { data := some (.data 0 ⟨[0, 1, 2, 3, 4, 5, 6, 7, 8, 9]⟩) }

/-- The runner gives up waiting for its frame to be taken just before it is, and stops with
`Timeout`; the loop then waits until its deadline.
-/
def timesOutEvents : List LoopRunEvent :=
  readsAllEvents
    ++ [.turn 0 { drainTimeout := true },
      takesAll,
      .turn 0 { lifecycleReady := some true },
      .poll { lifecycle := some (.event 0 (.stopped (.failed .timeout))), now := seconds 70 },
      .complete 0 (.ok ()),
      .poll {},
      .poll { deadline := true, now := seconds 130 }]

/-- The runner sees its frame taken, and stops as finished. -/
def finishesEvents : List LoopRunEvent :=
  readsAllEvents
    ++ [takesAll,
      .turn 0 { drained := true },
      .turn 0 { lifecycleReady := some true },
      .poll { lifecycle := some (.event 0 (.stopped .finished)), now := seconds 70 }]

/-- One attempt at a file of ten bytes. -/
def tenBytes : LoopRun := .new 10 1 ⟨8, seconds 60⟩ 0

/-- The file is downloaded and written, and no runner is left, but the loop fails with
`NoProgress`.
-/
theorem completion_missed
    : ∃ run,
        (machine u64Size).Reachable run
        ∧ ManagerRun.machine.Reachable run.transfer.managed
        ∧ run.transfer.managed.Done
        ∧ run.transfer.managed.reportedFinished = false
        ∧ run.reported = [⟨⟨0, 10⟩, .ok ()⟩]
        ∧ run.stage
          = .joining (.error (.transfer (.noProgress (seconds 60)))) ⟨some 10, 10, [⟨0, 10⟩]⟩ := by
  have seen
      : ((machine u64Size).execute tenBytes timesOutEvents).map
          (fun run =>
            (run.transfer.managed.manager.chunkPlanner.isComplete,
              run.transfer.managed.manager.allocatedRunnerCount,
              run.transfer.managed.reportedFinished, run.reported, run.stage))
        = some
            (true, 0, false, [⟨⟨0, 10⟩, .ok ()⟩],
              .joining (.error (.transfer (.noProgress (seconds 60))))
                ⟨some 10, 10, [⟨0, 10⟩]⟩) := rfl
  obtain ⟨run, executed, fields⟩ := Option.map_eq_some_iff.mp seen
  simp only [Prod.mk.injEq] at fields
  obtain ⟨complete, none_left, unreported, reported, stage⟩ := fields
  have start : (machine u64Size).Reachable tenBytes :=
    .initial ⟨10, 1, _, 0, by decide, by decide, rfl⟩
  have reached := start.execute timesOutEvents executed
  exact ⟨run, reached, (Transfer.reachable_sound (reachable_transfer reached)).managed,
    ⟨complete, none_left⟩, unreported, reported, stage⟩

/-- The run in which it finishes: the loop returned `Ok`. -/
theorem completion_reported_finishes
    : ∃ run,
        ((machine u64Size).restrict (fun run event => ¬ run.MissesCompletion event)).Reachable run
        ∧ run.transfer.managed.Done
        ∧ run.stage = .joining (.ok ()) ⟨some 10, 10, [⟨0, 10⟩]⟩
        ∧ run.stage ≠ .running := by
  have seen
      : (((machine u64Size).restrict Unfailing).execute tenBytes finishesEvents).map
          (fun run =>
            (run.transfer.managed.manager.chunkPlanner.isComplete,
              run.transfer.managed.manager.allocatedRunnerCount, run.stage))
        = some (true, 0, .joining (.ok ()) ⟨some 10, 10, [⟨0, 10⟩]⟩) := rfl
  obtain ⟨run, executed, fields⟩ := Option.map_eq_some_iff.mp seen
  simp only [Prod.mk.injEq] at fields
  obtain ⟨complete, none_left, stage⟩ := fields
  have start : ((machine u64Size).restrict Unfailing).Reachable tenBytes :=
    .initial ⟨10, 1, _, 0, by decide, by decide, rfl⟩
  have reached :=
    (start.execute finishesEvents executed).restrict_mono (fun _ _ => Unfailing.noticed)
  have ends := (completion_reported u64Size).2.2 run reached ⟨complete, none_left⟩
  exact ⟨run, reached, ⟨complete, none_left⟩, stage, ends.1⟩

end LoopRun

end BoltLoad
