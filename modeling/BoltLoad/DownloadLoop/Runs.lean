import BoltLoad.DownloadLoop.Run

/-! What a turn of the download loop does, and that its runners are those of a transfer: every
state of an attempt holds a state the manager and its runners reach by themselves.
-/

namespace BoltLoad

/-- A poll that is pending leaves the writer as it is. -/
theorem PendingWriter.pollCompletions_none {writer after : PendingWriter} {immediate : Immediate}
    (polled : writer.pollCompletions immediate = .ok (none, after))
    : after = writer ∧ (writer.inFlight = 0 ∨ writer.completions = []) := by
  unfold pollCompletions at polled
  split at polled
  · rename_i idle
    cases polled
    exact ⟨rfl, Or.inl idle⟩
  · split at polled
    · rename_i empty
      cases polled
      exact ⟨rfl, Or.inr (List.isEmpty_iff.mp empty)⟩
    · obtain ⟨_, -, never⟩ := Checked.bind_eq_ok.mp polled
      cases never

-----------------------------------------------------------------------------------------
-- What the loop does with its runners
-----------------------------------------------------------------------------------------

namespace Transfer

variable {usizeSize : Nat} {transfer after : Transfer}

theorem spawnRunnerWithChunk_spawns {range : Range} {outcome : Except SpawnFailed Unit}
    {result : Option Unit}
    (spawns : transfer.spawnRunnerWithChunk range outcome = .ok (result, after))
    : transfer.spawn range outcome = .ok after
      ∧ ∃ managed, transfer.managed.spawn range outcome = .ok (result, managed) := by
  obtain ⟨⟨found, managed⟩, first, rest⟩ := Checked.bind_eq_ok.mp spawns
  obtain ⟨other, second, same⟩ := Checked.bind_eq_ok.mp rest
  cases same
  exact ⟨second, managed, first⟩

theorem resizeRunner_resizes {runnerId : RunnerId} {newSize : Nat}
    {result : Except ResizeError Unit}
    (resizes : transfer.resizeRunner runnerId newSize = .ok (result, after))
    : transfer.resize runnerId newSize = .ok after
      ∧ ∃ sent managed,
          transfer.managed.resize runnerId newSize (transfer.receives runnerId)
          = .ok (result, sent, managed) := by
  obtain ⟨⟨found, sent, managed⟩, first, rest⟩ := Checked.bind_eq_ok.mp resizes
  obtain ⟨other, second, same⟩ := Checked.bind_eq_ok.mp rest
  cases same
  exact ⟨second, sent, managed, first⟩

end Transfer

/-- What the loop's own calls to the manager keep. -/
structure Transfer.Kept (holds : Transfer → Prop) : Prop where
  spawn
    : ∀ {transfer after : Transfer} {range : Range} {outcome : Except SpawnFailed Unit},
        holds transfer
        → transfer.spawn range outcome = .ok after
        → holds after
  resize
    : ∀ {transfer after : Transfer} {runnerId : RunnerId} {newSize : Nat},
        holds transfer
        → transfer.resize runnerId newSize = .ok after
        → holds after
  observeOutcomes
    : ∀ {transfer : Transfer} (sampler : RunnerOutcomeSampler),
        holds transfer
        → holds
            { transfer with
              managed :=
                { transfer.managed with
                  manager :=
                    { transfer.managed.manager with runnerOutcomeSampler := sampler } } }
  takeMetersSnapshot
    : ∀ {transfer : Transfer},
        holds transfer
        → holds
            { transfer with
              managed :=
                { transfer.managed with
                  manager := transfer.managed.manager.takeMetersSnapshot.2 } }

/-- The loop reaches what its runners reach. -/
theorem Transfer.kept_reachable (usizeSize : Nat) : Kept (machine usizeSize).Reachable where
  spawn reached spawns := reachable_next reached (.spawn _ _) trivial spawns
  resize reached resizes := reachable_next reached (.resize _ _) trivial resizes
  observeOutcomes sampler reached := reachable_next reached (.observeOutcomes sampler) trivial rfl
  takeMetersSnapshot reached := reachable_next reached .takeMetersSnapshot trivial rfl

namespace DownloadLoop

open Transfer

section Kept

variable {holds : Transfer → Prop} {transfer after : Transfer} {loop next : DownloadLoop}
  {outcome : Range → Except SpawnFailed Unit}

theorem kept_spawnRunner (kept : Kept holds) (before : holds transfer) {range : Range}
    (spawns : spawnRunner transfer range outcome = .ok after)
    : holds after := by
  obtain ⟨⟨result, spawned⟩, spawns, rest⟩ := Checked.bind_eq_ok.mp spawns
  obtain ⟨_, -, same⟩ := Checked.bind_eq_ok.mp rest
  cases same
  exact kept.spawn before (spawnRunnerWithChunk_spawns spawns).1

theorem kept_split (kept : Kept holds) (before : holds transfer) {runnerId : RunnerId}
    {incompleteRange : Range}
    (splits : split transfer runnerId incompleteRange outcome = .ok after)
    : holds after := by
  obtain ⟨size, -, rest⟩ := Checked.bind_eq_ok.mp splits
  obtain ⟨⟨result, resized⟩, resizes, rest⟩ := Checked.bind_eq_ok.mp rest
  have shrunk := kept.resize before (resizeRunner_resizes resizes).1
  cases result with
  | error refused =>
      cases rest
      exact shrunk
  | ok accepted =>
      obtain ⟨middle, -, spawns⟩ := Checked.bind_eq_ok.mp rest
      exact kept_spawnRunner kept shrunk spawns

/-- By induction on the runners split. -/
theorem kept_splitAll (kept : Kept holds) (before : holds transfer)
    {states : List (RunnerId × Range)}
    (splits : splitAll outcome transfer states = .ok after)
    : holds after := by
  induction states generalizing transfer with
  | nil =>
      cases splits
      exact before
  | cons state rest ih =>
      obtain ⟨middle, first, later⟩ := Checked.bind_eq_ok.mp splits
      exact ih (kept_split kept before first) later

theorem kept_apply (kept : Kept holds) (before : holds loop.transfer)
    {action : StrategyAction} (applied : loop.apply outcome action = .ok next)
    : holds next.transfer := by
  cases action with
  | splitAllTask plannedChunkSize =>
      obtain ⟨states, -, rest⟩ := Checked.bind_eq_ok.mp applied
      obtain ⟨after, splits, same⟩ := Checked.bind_eq_ok.mp rest
      cases same
      exact kept_splitAll kept before splits
  | splitGivenTask taskId =>
      obtain ⟨state, -, rest⟩ := Checked.bind_eq_ok.mp applied
      obtain ⟨after, splits, same⟩ := Checked.bind_eq_ok.mp rest
      cases same
      exact kept_split kept before splits
  | changeMaxConcurrency maxConcurrency =>
      cases applied
      exact before
  | createTask range =>
      obtain ⟨after, spawns, same⟩ := Checked.bind_eq_ok.mp applied
      cases same
      exact kept_spawnRunner kept before spawns

/-- By induction on the actions. -/
theorem kept_applyAll (kept : Kept holds) (before : holds loop.transfer)
    {actions : List StrategyAction} (applied : applyAll outcome loop actions = .ok next)
    : holds next.transfer := by
  induction actions generalizing loop with
  | nil =>
      cases applied
      exact before
  | cons action rest ih =>
      obtain ⟨middle, first, later⟩ := Checked.bind_eq_ok.mp applied
      exact ih (kept_apply kept before first) later

end Kept

end DownloadLoop

/-- The strategies leave the manager with another sampler at most. -/
theorem StrategyControl.execute_manager {control after : StrategyControl} {maxConcurrency : Nat}
    {speed perRunner : ByteRate} {manager observed : RunnerManager} {clock : StepClock}
    {actions : List StrategyAction}
    (executes
      : control.execute maxConcurrency speed perRunner manager clock
        = .ok (actions, after, observed))
    : ∃ sampler, observed = { manager with runnerOutcomeSampler := sampler } := by
  obtain ⟨⟨asked, strategy, sampler⟩, -, rest⟩ := Checked.bind_eq_ok.mp executes
  refine ⟨sampler, ?_⟩
  dsimp only at rest
  split at rest
  · obtain ⟨_, -, same⟩ := Checked.bind_eq_ok.mp rest
    cases same
    rfl
  · cases rest
    rfl

namespace DownloadLoop

open Transfer

variable {loop next : DownloadLoop}

/-- A step of the strategies changes them and the manager's sampler only. -/
theorem execute_observes {clock : StepClock} {actions : List StrategyAction}
    (executes : loop.execute clock = .ok (actions, next))
    : ∃ sampler strategy,
        next
        = { loop with
            strategy
            transfer :=
              { loop.transfer with
                managed :=
                  { loop.transfer.managed with
                    manager := { loop.manager with runnerOutcomeSampler := sampler } } } } := by
  obtain ⟨⟨asked, strategy, observed⟩, executes, same⟩ := Checked.bind_eq_ok.mp executes
  obtain ⟨sampler, observes⟩ := StrategyControl.execute_manager executes
  cases same
  exact ⟨sampler, strategy, by rw [observes]⟩

/-- An action changes the runners and the concurrency only. -/
theorem apply_frame {outcome : Range → Except SpawnFailed Unit} {action : StrategyAction}
    (applied : loop.apply outcome action = .ok next)
    : ∃ transfer maxConcurrency, next = { loop with transfer, maxConcurrency } := by
  cases action with
  | splitAllTask plannedChunkSize =>
      obtain ⟨states, -, rest⟩ := Checked.bind_eq_ok.mp applied
      obtain ⟨after, -, same⟩ := Checked.bind_eq_ok.mp rest
      cases same
      exact ⟨after, loop.maxConcurrency, rfl⟩
  | splitGivenTask taskId =>
      obtain ⟨state, -, rest⟩ := Checked.bind_eq_ok.mp applied
      obtain ⟨after, -, same⟩ := Checked.bind_eq_ok.mp rest
      cases same
      exact ⟨after, loop.maxConcurrency, rfl⟩
  | changeMaxConcurrency maxConcurrency =>
      cases applied
      exact ⟨loop.transfer, maxConcurrency, rfl⟩
  | createTask range =>
      obtain ⟨after, -, same⟩ := Checked.bind_eq_ok.mp applied
      cases same
      exact ⟨after, loop.maxConcurrency, rfl⟩

/-- By induction on the actions. -/
theorem applyAll_frame {outcome : Range → Except SpawnFailed Unit}
    {actions : List StrategyAction} (applied : applyAll outcome loop actions = .ok next)
    : ∃ transfer maxConcurrency, next = { loop with transfer, maxConcurrency } := by
  induction actions generalizing loop with
  | nil =>
      cases applied
      exact ⟨next.transfer, next.maxConcurrency, rfl⟩
  | cons action rest ih =>
      obtain ⟨middle, first, later⟩ := Checked.bind_eq_ok.mp applied
      obtain ⟨_, _, same⟩ := apply_frame first
      subst same
      obtain ⟨transfer, maxConcurrency, same⟩ := ih later
      exact ⟨transfer, maxConcurrency, same⟩

/-- A tick of the strategies leaves the policy, the writer and the timers as they are. -/
theorem onStrategyTick_frame {clock : StepClock} {outcome : Range → Except SpawnFailed Unit}
    (ticks : loop.onStrategyTick clock outcome = .ok next)
    : ∃ transfer strategy maxConcurrency,
        next = { loop with transfer, strategy, maxConcurrency } := by
  obtain ⟨⟨actions, middle⟩, executes, applied⟩ := Checked.bind_eq_ok.mp ticks
  obtain ⟨sampler, strategy, same⟩ := execute_observes executes
  subst same
  obtain ⟨transfer, maxConcurrency, same⟩ := applyAll_frame applied
  exact ⟨transfer, strategy, maxConcurrency, same⟩

theorem kept_onStrategyTick {holds : Transfer → Prop} (kept : Kept holds)
    (before : holds loop.transfer) {clock : StepClock}
    {outcome : Range → Except SpawnFailed Unit}
    (ticks : loop.onStrategyTick clock outcome = .ok next)
    : holds next.transfer := by
  obtain ⟨⟨actions, middle⟩, executes, applied⟩ := Checked.bind_eq_ok.mp ticks
  obtain ⟨sampler, strategy, same⟩ := execute_observes executes
  subst same
  exact kept_applyAll kept (kept.observeOutcomes sampler before) applied

/-- Looking at a failure changes the policy only. -/
theorem afterChunk_frame (loop : DownloadLoop) (tick : RunnerTick)
    : ∃ policy, (loop.afterChunk tick).2 = { loop with policy } := by
  unfold afterChunk
  split
  · exact ⟨loop.policy, rfl⟩
  · rename_i failure _
    have kept : ∃ policy, (loop.onFailure failure).2 = { loop with policy } := by
      unfold onFailure
      split
      · exact ⟨loop.policy, rfl⟩
      · split
        · exact ⟨_, rfl⟩
        · exact ⟨_, rfl⟩
    split
    · rename_i ended
      rw [ended] at kept
      exact kept
    · rename_i goes
      rw [goes] at kept
      exact kept

/-- Handling a tick leaves the runners as they are. -/
theorem onRunner_transfer {tick : RunnerTick} {now : Instant} {immediate : Immediate}
    {result : Except DownloadError ControlFlow}
    (handled : loop.onRunner tick now immediate = .ok (result, next))
    : next.transfer = loop.transfer := by
  have failing (loop : DownloadLoop) : (loop.afterChunk tick).2.transfer = loop.transfer := by
    obtain ⟨policy, same⟩ := afterChunk_frame loop tick
    rw [same]
  unfold onRunner at handled
  split at handled
  · have same : loop.afterChunk tick = (result, next) := Except.ok.inj handled
    have kept := failing loop
    rw [same] at kept
    exact kept
  · obtain ⟨⟨accepted, written⟩, accepts, rest⟩ := Checked.bind_eq_ok.mp handled
    have kept : written.transfer = loop.transfer := by
      obtain ⟨⟨status, writer⟩, -, same⟩ := Checked.bind_eq_ok.mp accepts
      cases status <;> cases same <;> rfl
    cases accepted with
    | error error =>
        cases rest
        exact kept
    | ok done =>
        have same : written.afterChunk tick = (result, next) := Except.ok.inj rest
        have later := failing written
        rw [same] at later
        exact later.trans kept

end DownloadLoop

-----------------------------------------------------------------------------------------
-- What a turn does
-----------------------------------------------------------------------------------------

namespace LoopRun

open DownloadLoop

/-- Whether a turn comes to the runners: every source before them is pending. -/
def ReachesRunners (run : LoopRun) (sources : LoopSources) : Prop :=
  sources.cancelled = false
  ∧ sources.deadline = false
  ∧ (run.loop.writer.inFlight = 0 ∨ run.loop.writer.completions = [])
  ∧ sources.strategyTimer = false
  ∧ sources.throughputTimer = false

instance (run : LoopRun) (sources : LoopSources) : Decidable (run.ReachesRunners sources) :=
  inferInstanceAs (Decidable (_ ∧ _))

/-- Everything a turn of the loop can find. -/
inductive Finds (run : LoopRun) (sources : LoopSources) : Option LoopEvent → DownloadLoop → Prop
  | cancelled : Finds run sources (some .cancelled) run.loop
  | deadline : Finds run sources (some .deadline) run.loop
  | written {completions : List WriteCompletion} {writer : PendingWriter}
    (polled
      : run.loop.writer.pollCompletions sources.immediate = .ok (some completions, writer))
    : Finds run sources (some (.writerCompleted (some completions))) { run.loop with writer }
  | strategy : Finds run sources (some .strategyTimer) run.loop
  | sampled : Finds run sources (some .throughputTimer) run.loop
  | idle {transfer : Transfer} (reaches : run.ReachesRunners sources)
    (ticked
      : run.transfer.tick sources.now run.loop.writer.canWrite sources.lifecycle sources.data
        = .ok (none, transfer))
    : Finds run sources none { run.loop with transfer }
  | runner {tick : RunnerTick} {transfer : Transfer} (reaches : run.ReachesRunners sources)
    (ticked
      : run.transfer.tick sources.now run.loop.writer.canWrite sources.lifecycle sources.data
        = .ok (some tick, transfer))
    : Finds run sources (some (.runner tick)) { run.loop with transfer }

/-- The sources are looked at in their order. -/
theorem pollEvent_finds {run : LoopRun} {sources : LoopSources} {event : Option LoopEvent}
    {loop : DownloadLoop} (found : run.loop.pollEvent sources = .ok (event, loop))
    : run.Finds sources event loop := by
  unfold pollEvent at found
  split at found
  · cases found
    exact .cancelled
  rename_i uncancelled
  split at found
  · cases found
    exact .deadline
  rename_i early
  obtain ⟨⟨taken, writer⟩, flushed, found⟩ := Checked.bind_eq_ok.mp found
  cases taken with
  | some completions =>
      cases found
      exact .written flushed
  | none =>
      obtain ⟨kept, quiet⟩ := PendingWriter.pollCompletions_none flushed
      subst kept
      dsimp only at found
      split at found
      · cases found
        exact .strategy
      rename_i unscheduled
      split at found
      · cases found
        exact .sampled
      rename_i unsampled
      have reaches : run.ReachesRunners sources :=
        ⟨eq_false_of_ne_true uncancelled, eq_false_of_ne_true early, quiet,
          eq_false_of_ne_true unscheduled, eq_false_of_ne_true unsampled⟩
      obtain ⟨⟨tick, transfer⟩, ticked, same⟩ := Checked.bind_eq_ok.mp found
      cases tick with
      | none =>
          cases same
          exact .idle reaches ticked
      | some tick =>
          cases same
          exact .runner reaches ticked

/-- Everything a turn of the loop can do. -/
inductive Turned (run : LoopRun) (sources : LoopSources) : LoopRun → Prop
  | cancelled : Turned run sources { run with stage := stageAfter run.loop (.error .cancelled) }
  | deadline
    : Turned run sources
        { run with
          loop := (run.loop.onDeadline sources.now).2
          stage :=
            stageAfter (run.loop.onDeadline sources.now).2
              ((run.loop.onDeadline sources.now).1.map (fun _ => .continues)) }
  | written {completions : List WriteCompletion} {writer : PendingWriter}
    {result : Except DownloadError Unit} {loop : DownloadLoop}
    (polled
      : run.loop.writer.pollCompletions sources.immediate = .ok (some completions, writer))
    (recorded
      : recordCompletions { run.loop with writer } completions = .ok (result, loop))
    : Turned run sources
        ⟨loop, stageAfter loop (result.map (fun _ => .continues)), run.reported ++ completions⟩
  | strategy {loop : DownloadLoop}
    (ticked : run.loop.onStrategyTick sources.clock sources.outcome = .ok loop)
    : Turned run sources { run with loop, stage := .running }
  | sampled
    : Turned run sources
        { run with loop := run.loop.onThroughputTick sources.speed, stage := .running }
  | idle {transfer : Transfer} (reaches : run.ReachesRunners sources)
    (ticked
      : run.transfer.tick sources.now run.loop.writer.canWrite sources.lifecycle sources.data
        = .ok (none, transfer))
    : Turned run sources { run with loop := { run.loop with transfer } }
  | runner {tick : RunnerTick} {transfer : Transfer} {result : Except DownloadError ControlFlow}
    {loop : DownloadLoop} (reaches : run.ReachesRunners sources)
    (ticked
      : run.transfer.tick sources.now run.loop.writer.canWrite sources.lifecycle sources.data
        = .ok (some tick, transfer))
    (handled
      : onRunner { run.loop with transfer } tick sources.now sources.immediate
        = .ok (result, loop))
    : Turned run sources { run with loop, stage := stageAfter loop result }

/-- A turn does what is listed. -/
theorem poll_turned {run after : LoopRun} {sources : LoopSources}
    (polled : run.poll sources = .ok after)
    : run.Turned sources after := by
  obtain ⟨⟨event, loop⟩, found, handled⟩ := Checked.bind_eq_ok.mp polled
  have finds := pollEvent_finds found
  cases finds with
  | cancelled =>
      cases handled
      simp only [LoopEvent.completions, List.append_nil]
      exact .cancelled
  | deadline =>
      cases handled
      simp only [LoopEvent.completions, List.append_nil]
      exact .deadline
  | written flushed =>
      obtain ⟨⟨result, after⟩, recorded, same⟩ := Checked.bind_eq_ok.mp handled
      obtain ⟨⟨written, recording⟩, records, goes⟩ := Checked.bind_eq_ok.mp recorded
      cases goes
      cases same
      exact .written flushed records
  | strategy =>
      obtain ⟨⟨result, after⟩, ticked, same⟩ := Checked.bind_eq_ok.mp handled
      obtain ⟨ticks, ticked, goes⟩ := Checked.bind_eq_ok.mp ticked
      cases goes
      cases same
      simp only [LoopEvent.completions, List.append_nil]
      exact .strategy ticked
  | sampled =>
      cases handled
      simp only [LoopEvent.completions, List.append_nil]
      exact .sampled
  | idle reaches ticked =>
      cases handled
      exact .idle reaches ticked
  | runner reaches ticked =>
      obtain ⟨⟨result, after⟩, runs, same⟩ := Checked.bind_eq_ok.mp handled
      cases same
      simp only [LoopEvent.completions, List.append_nil]
      exact .runner reaches ticked runs

/-- The stage a turn starts in. -/
theorem Turned.kept_running {run after : LoopRun} {sources : LoopSources}
    (turned : run.Turned sources after) (running : run.stage = .running)
    : after.stage = .running ∨ ∃ result progress, after.stage = .joining result progress := by
  have leads (loop : DownloadLoop) (result : Except DownloadError ControlFlow)
      : stageAfter loop result = .running
        ∨ ∃ ended progress, stageAfter loop result = .joining ended progress := by
    cases result with
    | error error => exact Or.inr ⟨_, _, rfl⟩
    | ok flow =>
        cases flow with
        | continues => exact Or.inl rfl
        | breaks => exact Or.inr ⟨_, _, rfl⟩
  cases turned with
  | cancelled => exact leads run.loop (.error .cancelled)
  | deadline => exact leads (run.loop.onDeadline sources.now).2 _
  | @written _ _ _ loop => exact leads loop _
  | strategy => exact Or.inl rfl
  | sampled => exact Or.inl rfl
  | idle => exact Or.inl running
  | @runner _ _ result loop => exact leads loop result

variable {usizeSize : Nat} {run : LoopRun}

/-- Besides what the loop's calls keep, a turn polls the manager once at most. -/
theorem Turned.kept {after : LoopRun} {sources : LoopSources} {holds : Transfer → Prop}
    (turned : run.Turned sources after) (kept : Transfer.Kept holds)
    (before : holds run.transfer)
    (ticks
      : ∀ tick transfer,
          run.transfer.tick sources.now run.loop.writer.canWrite sources.lifecycle sources.data
            = .ok (tick, transfer)
          → holds transfer)
    : holds after.transfer := by
  cases turned with
  | cancelled => exact before
  | deadline =>
      simp only [LoopRun.transfer, onDeadline]
      split <;> exact before
  | written polled recorded =>
      obtain ⟨checked, -, same⟩ := Checked.bind_eq_ok.mp recorded
      cases checked <;> cases same <;> exact before
  | strategy ticked => exact kept_onStrategyTick kept before ticked
  | sampled => exact kept.takeMetersSnapshot before
  | idle reaches ticked => exact ticks _ _ ticked
  | runner reaches ticked handled =>
      have same := onRunner_transfer handled
      simp only [LoopRun.transfer, same]
      exact ticks _ _ ticked

/-- The runners of every state of an attempt, by induction on the run. -/
theorem reachable_transfer (reached : (machine usizeSize).Reachable run)
    : (Transfer.machine usizeSize).Reachable run.transfer := by
  induction reached with
  | initial start =>
      obtain ⟨total, maxConcurrency, options, now, representable, -, same⟩ := start
      subst same
      exact .initial ⟨total, maxConcurrency, representable, rfl⟩
  | @step before event after earlier step ih =>
      have next := step.next
      have enabled := step.enabled
      cases event with
      | poll sources =>
          refine (poll_turned next).kept (Transfer.kept_reachable usizeSize) ih ?_
          intro tick transfer ticked
          refine Transfer.reachable_next ih _ enabled.2.2 ?_
          simp only [Transfer.next, ticked]
          rfl
      | turn port sources =>
          obtain ⟨transfer, turned, same⟩ := Checked.bind_eq_ok.mp next
          cases same
          exact Transfer.reachable_next ih (.turn port sources) enabled.2 turned
      | vanish port =>
          obtain ⟨transfer, vanished, same⟩ := Checked.bind_eq_ok.mp next
          cases same
          exact Transfer.reachable_next ih (.vanish port) enabled.2 vanished
      | complete index result =>
          obtain ⟨writer, -, same⟩ := Checked.bind_eq_ok.mp next
          cases same
          exact ih
      | join immediate =>
          obtain ⟨result, progress, joining⟩ := LoopStage.isJoining_iff.mp enabled
          simp only [machine, LoopRun.next, joining] at next
          obtain ⟨_, -, same⟩ := Checked.bind_eq_ok.mp next
          cases same
          exact ih
      | flushStep immediate =>
          obtain ⟨result, progress, completions, flushing⟩ := LoopStage.isFlushing_iff.mp enabled
          simp only [machine, LoopRun.next, flushing] at next
          obtain ⟨⟨batch, writer⟩, -, rest⟩ := Checked.bind_eq_ok.mp next
          cases batch with
          | some batch =>
              cases rest
              exact ih
          | none =>
              obtain ⟨_, -, same⟩ := Checked.bind_eq_ok.mp rest
              cases same
              exact ih

end LoopRun

end BoltLoad
