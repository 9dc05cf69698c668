import BoltLoad.ConcurrentTask.Model
import BoltLoad.DownloadLoop.Finish
import BoltLoad.FileWriter.QueuedWriter
import BoltLoad.Transfer.Writes

/-! What a step of the loop does to its pending writer and to its runners. -/

namespace BoltLoad

-----------------------------------------------------------------------------------------
-- The pending writer
-----------------------------------------------------------------------------------------

namespace PendingWriter

variable {writer after : PendingWriter} {immediate : Immediate}

theorem operates_pollCompletions {completions : List WriteCompletion}
    (polls : writer.pollCompletions immediate = .ok (some completions, after))
    : ∃ candidate, writer.Operates after candidate immediate completions := by
  unfold pollCompletions at polls
  split at polls
  · cases polls
  · split at polls
    · cases polls
    · obtain ⟨⟨took, ticked⟩, ticks, same⟩ := Checked.bind_eq_ok.mp polls
      cases same
      obtain ⟨rfl, operates⟩ := operates_tryTick ticks
      exact ⟨_, operates⟩

/-- A turn of the flush takes a batch, or nothing is in flight. -/
theorem operates_flushStep {polled : Option (List WriteCompletion)}
    (steps : writer.flushStep immediate = .ok (polled, after))
    : ∃ candidate, writer.Operates after candidate immediate (polled.getD []) := by
  unfold flushStep at steps
  split at steps
  · obtain ⟨⟨batch, later⟩, polls, same⟩ := Checked.bind_eq_ok.mp steps
    cases same
    cases batch with
    | none =>
        rw [(pollCompletions_none polls).1]
        exact ⟨none, .quiet rfl rfl rfl⟩
    | some batch => exact operates_pollCompletions polls
  · cases steps
    exact ⟨none, .quiet rfl rfl rfl⟩

end PendingWriter

namespace DownloadLoop

/-- Handling a tick operates the writer at most once. -/
theorem onRunner_operates {loop next : DownloadLoop} {tick : RunnerTick} {now : Instant}
    {immediate : Immediate} {result : Except DownloadError ControlFlow}
    (handled : loop.onRunner tick now immediate = .ok (result, next))
    : ∃ candidate, loop.writer.Operates next.writer candidate immediate [] := by
  have looked {loop : DownloadLoop} (same : loop.afterChunk tick = (result, next))
      : next.writer = loop.writer := by
    have unchanged := afterChunk_writer loop tick
    rw [same] at unchanged
    exact unchanged
  unfold onRunner at handled
  split at handled
  · rw [looked (Except.ok.inj handled)]
    exact ⟨none, .quiet rfl rfl rfl⟩
  · obtain ⟨⟨accepts, written⟩, acceptance, rest⟩ := Checked.bind_eq_ok.mp handled
    obtain ⟨⟨answer, writer⟩, writes, same⟩ := Checked.bind_eq_ok.mp acceptance
    have operates := PendingWriter.operates_writeRange writes
    cases answer with
    | error full =>
        cases same
        cases rest
        exact ⟨_, operates⟩
    | ok status =>
        cases same
        rw [looked (Except.ok.inj rest)]
        exact ⟨_, operates⟩

end DownloadLoop

-----------------------------------------------------------------------------------------
-- The size of the file
-----------------------------------------------------------------------------------------

/-- No step of the manager changes the size of the file. -/
theorem ManagerRun.step_total {run after : ManagerRun} {event : ManagerEvent}
    (reached : machine.Reachable run) (step : machine.Step run event after)
    : after.manager.chunkPlanner.total = run.manager.chunkPlanner.total := by
  have sound := reachable_sound reached
  obtain ⟨enabled, next⟩ := step
  cases event with
  | spawn range outcome =>
      obtain ⟨result, manager, spawns, spawned⟩ := sound.joint.spawns range run.nextPort outcome
      simp only [machine, ManagerRun.next, ManagerRun.spawn, spawns] at next
      cases next
      exact (sound.joint.spawned_covered spawned 0).2
  | resize runnerId newSize receiving =>
      obtain ⟨result, sent, manager, resizes, resized⟩ :=
        sound.joint.resizes runnerId newSize receiving
      simp only [machine, ManagerRun.next, ManagerRun.resize, resizes] at next
      cases next
      exact (RunnerManager.resized_covered resized 0).2
  | tick now dataEnabled lifecycle data =>
      rcases sound.ticks now enabled with ⟨tick, ticked, ticks, outcome⟩ | ⟨early, -⟩
      · simp only [machine, ManagerRun.next, ticks] at next
        cases next
        cases outcome with
        | idle nothing => rfl
        | handled selects offered handled => exact RunnerManager.Joint.handled_total handled
      · simp only [machine, ManagerRun.next, early] at next
        cases next
  | takeMetersSnapshot =>
      cases next
      rfl
  | observeOutcomes sampler =>
      cases next
      rfl

namespace Transfer

variable {usizeSize : Nat} {transfer after : Transfer} {event : TransferEvent}

/-- What a step is for the manager: a step of its own, or nothing. -/
theorem managed_step (sound : transfer.Sound) (step : (machine usizeSize).Step transfer event after)
    : after.managed = transfer.managed
      ∨ ∃ managerEvent, ManagerRun.machine.Step transfer.managed managerEvent after.managed := by
  obtain ⟨enabled, next⟩ := step
  cases event with
  | spawn range outcome =>
      obtain ⟨⟨result, managed⟩, spawns, same⟩ := Checked.bind_eq_ok.mp next
      cases same
      refine .inr ⟨.spawn range outcome, trivial, ?_⟩
      simp only [ManagerRun.machine, ManagerRun.next, spawns]
      rfl
  | resize runnerId newSize =>
      obtain ⟨⟨result, sent, managed⟩, resizes, same⟩ := Checked.bind_eq_ok.mp next
      cases same
      refine .inr ⟨.resize runnerId newSize (transfer.receives runnerId), trivial, ?_⟩
      simp only [ManagerRun.machine, ManagerRun.next, resizes]
      rfl
  | tick now dataEnabled lifecycle data =>
      obtain ⟨tick, ticks⟩ := @tick_of_next usizeSize _ _ _ _ _ _ next
      obtain ⟨⟨found, managed⟩, ticked, same⟩ := Checked.bind_eq_ok.mp ticks
      cases same
      refine .inr ⟨.tick now dataEnabled lifecycle data,
        fun cause selects => sound.delivers (enabled cause selects), ?_⟩
      simp only [ManagerRun.machine, ManagerRun.next, ticked]
      rfl
  | takeMetersSnapshot =>
      cases next
      exact .inr ⟨.takeMetersSnapshot, trivial, rfl⟩
  | observeOutcomes sampler =>
      cases next
      exact .inr ⟨.observeOutcomes sampler, trivial, rfl⟩
  | turn port sources =>
      obtain ⟨inst, effect, run, -, turned, -⟩ := sound.turns usizeSize enabled
      cases next.symm.trans turned
      exact .inl rfl
  | vanish port =>
      cases next
      exact .inl rfl

/-- The size the planner was made for, in every state of a run, by induction on the run. -/
theorem reachable_total {total maxConcurrency : Nat} (representable : total < u64Size)
    (reached
      : ((machine usizeSize).startingAt (.new total maxConcurrency)).Reachable transfer)
    : transfer.managed.manager.chunkPlanner.total = total := by
  have started : (machine usizeSize).Reachable (.new total maxConcurrency) :=
    .initial ⟨total, maxConcurrency, representable, rfl⟩
  induction reached with
  | initial same =>
      cases same
      rfl
  | step earlier step ih =>
      have sound := reachable_sound (started.of_startingAt earlier)
      rcases managed_step sound ⟨step.enabled, step.next⟩ with same | ⟨managerEvent, moves⟩
      · rw [same]
        exact ih
      · exact (ManagerRun.step_total sound.managed moves).trans ih

end Transfer

namespace LoopRun

open DownloadLoop

variable {usizeSize : Nat} {run after : LoopRun} {event : LoopRunEvent}

/-- The loop operates its writer, and keeps what it takes; or the backend tells of a write. -/
inductive Writes (run after : LoopRun) : LoopRunEvent → Prop
  | operates {event : LoopRunEvent} {candidate : Option Chunk} {took : List WriteCompletion}
    (itself : ∀ index result, event ≠ .complete index result)
    (operates : run.loop.writer.Operates after.loop.writer candidate event.immediate took)
    (reported : after.reported = run.reported ++ took)
    : Writes run after event
  | told {index : Nat} {result : Except FileWriterError Unit} {chunk : Chunk}
    (held : run.loop.writer.outstanding[index]? = some chunk)
    (dispatched : after.loop.writer.dispatched = run.loop.writer.dispatched)
    (outstanding : after.loop.writer.outstanding = run.loop.writer.outstanding.eraseIdx index)
    (completions
      : after.loop.writer.completions
        = run.loop.writer.completions ++ [⟨chunk.range, result⟩])
    (reported : after.reported = run.reported)
    : Writes run after (.complete index result)

/-- The writer is left as it is. -/
theorem Writes.kept (itself : ∀ index result, event ≠ .complete index result)
    (writer : after.loop.writer = run.loop.writer) (reported : after.reported = run.reported)
    : run.Writes after event := by
  refine @Writes.operates run after event none [] itself ?_ ?_
  · rw [writer]
    exact .quiet rfl rfl rfl
  · rw [reported, List.append_nil]

theorem Turned.writes {sources : LoopSources} (turned : run.Turned sources after)
    : run.Writes after (.poll sources) := by
  have itself (index : Nat) (result : Except FileWriterError Unit)
      : LoopRunEvent.poll sources ≠ .complete index result :=
    fun never => by cases never
  cases turned with
  | cancelled => exact .kept itself rfl rfl
  | deadline =>
      refine .kept itself ?_ rfl
      simp only [onDeadline]
      split <;> rfl
  | written polled recorded =>
      obtain ⟨candidate, operates⟩ := PendingWriter.operates_pollCompletions polled
      obtain ⟨checked, -, same⟩ := Checked.bind_eq_ok.mp recorded
      cases checked with
      | error error =>
          cases same
          exact .operates itself operates rfl
      | ok written =>
          cases same
          exact .operates itself operates rfl
  | strategy ticked => exact .kept itself (onStrategyTick_writer ticked) rfl
  | sampled => exact .kept itself rfl rfl
  | idle reaches ticked => exact .kept itself rfl rfl
  | runner reaches ticked handled =>
      obtain ⟨candidate, operates⟩ := onRunner_operates handled
      exact .operates itself operates (List.append_nil _).symm

/-- What every step does to the writer. -/
theorem writes_of_step (step : (machine usizeSize).Step run event after)
    : run.Writes after event := by
  obtain ⟨enabled, next⟩ := step
  cases event with
  | poll sources => exact (poll_turned next).writes
  | turn port sources =>
      obtain ⟨transfer, -, same⟩ := Checked.bind_eq_ok.mp next
      cases same
      exact .kept (fun _ _ never => by cases never) rfl rfl
  | vanish port =>
      obtain ⟨transfer, -, same⟩ := Checked.bind_eq_ok.mp next
      cases same
      exact .kept (fun _ _ never => by cases never) rfl rfl
  | complete index result =>
      have held := List.getElem?_eq_getElem enabled
      obtain ⟨writer, completes, same⟩ := Checked.bind_eq_ok.mp next
      cases same
      simp only [PendingWriter.complete, held, PendingWriter.publish] at completes
      split at completes
      · cases completes
        exact .told held rfl rfl rfl rfl
      · cases completes
  | join immediate =>
      obtain ⟨result, progress, joining⟩ := LoopStage.isJoining_iff.mp enabled
      simp only [machine, LoopRun.next, joining] at next
      obtain ⟨⟨took, writer⟩, ticks, same⟩ := Checked.bind_eq_ok.mp next
      cases same
      obtain ⟨rfl, operates⟩ := PendingWriter.operates_tryTick ticks
      exact .operates (fun _ _ never => by cases never) operates rfl
  | flushStep immediate =>
      obtain ⟨result, progress, completions, flushing⟩ := LoopStage.isFlushing_iff.mp enabled
      simp only [machine, LoopRun.next, flushing] at next
      obtain ⟨⟨batch, writer⟩, steps, rest⟩ := Checked.bind_eq_ok.mp next
      obtain ⟨candidate, operates⟩ := PendingWriter.operates_flushStep steps
      cases batch with
      | some batch =>
          cases rest
          exact .operates (fun _ _ never => by cases never) operates rfl
      | none =>
          obtain ⟨checked, -, same⟩ := Checked.bind_eq_ok.mp rest
          cases same
          exact .operates (fun _ _ never => by cases never) operates (List.append_nil _).symm

-----------------------------------------------------------------------------------------
-- The runners
-----------------------------------------------------------------------------------------

/-- The step a step of the loop is for its runners, beside the calls the loop makes itself. -/
def transferEvent (run : LoopRun) : LoopRunEvent → Option TransferEvent
  | .poll sources =>
      some (.tick sources.now run.loop.writer.canWrite sources.lifecycle sources.data)
  | .turn port sources => some (.turn port sources)
  | .vanish port => some (.vanish port)
  | _ => none

/-- What the loop's calls and one step of its runners keep, a step of the loop keeps. -/
theorem step_keeps {holds : Transfer → Prop} (kept : Transfer.Kept holds)
    (before : holds run.transfer) (step : (machine usizeSize).Step run event after)
    (keeps
      : ∀ transferEvent transfer,
          run.transferEvent event = some transferEvent
          → (Transfer.machine usizeSize).Step run.transfer transferEvent transfer
          → holds transfer)
    : holds after.transfer := by
  obtain ⟨enabled, next⟩ := step
  cases event with
  | poll sources =>
      refine (poll_turned next).kept kept before ?_
      intro tick transfer ticked
      refine keeps _ transfer rfl ⟨enabled.2.2, ?_⟩
      simp only [Transfer.machine, Transfer.next, ticked]
      rfl
  | turn port sources =>
      obtain ⟨transfer, turned, same⟩ := Checked.bind_eq_ok.mp next
      cases same
      exact keeps _ transfer rfl ⟨enabled.2, turned⟩
  | vanish port =>
      obtain ⟨transfer, vanished, same⟩ := Checked.bind_eq_ok.mp next
      cases same
      exact keeps _ transfer rfl ⟨enabled.2, vanished⟩
  | complete index result =>
      obtain ⟨writer, -, same⟩ := Checked.bind_eq_ok.mp next
      cases same
      exact before
  | join immediate =>
      obtain ⟨result, progress, joining⟩ := LoopStage.isJoining_iff.mp enabled
      simp only [machine, LoopRun.next, joining] at next
      obtain ⟨_, -, same⟩ := Checked.bind_eq_ok.mp next
      cases same
      exact before
  | flushStep immediate =>
      obtain ⟨result, progress, completions, flushing⟩ := LoopStage.isFlushing_iff.mp enabled
      simp only [machine, LoopRun.next, flushing] at next
      obtain ⟨⟨batch, writer⟩, -, rest⟩ := Checked.bind_eq_ok.mp next
      cases batch with
      | some batch =>
          cases rest
          exact before
      | none =>
          obtain ⟨_, -, same⟩ := Checked.bind_eq_ok.mp rest
          cases same
          exact before

/-- Every stream yields the content from the offset it was requested at on. -/
def Streams (content : Nat → UInt8) (run : LoopRun) (event : LoopRunEvent) : Prop :=
  ∀ transferEvent ∈ run.transferEvent event, run.transfer.Streams content transferEvent

instance (content : Nat → UInt8) (run : LoopRun) (event : LoopRunEvent)
    : Decidable (run.Streams content event) :=
  inferInstanceAs (Decidable (∀ _ ∈ run.transferEvent event, _))

/-- Only a turn of a runner reads a stream. -/
theorem reachable_unread {usizeSize : Nat} {content : Nat → UInt8} {start transfer after : Transfer}
    (reached
      : (((Transfer.machine usizeSize).startingAt start).restrict
          (Transfer.Streams content)).Reachable transfer)
    (event : TransferEvent) (unread : ∀ port sources, event ≠ .turn port sources)
    (enabled : transfer.Enabled event) (next : transfer.next usizeSize event = .ok after)
    : (((Transfer.machine usizeSize).startingAt start).restrict
        (Transfer.Streams content)).Reachable after := by
  have streams : transfer.Streams content event := by
    cases event with
    | turn port sources => exact absurd rfl (unread port sources)
    | _ => trivial
  exact reached.step ⟨⟨enabled, streams⟩, next⟩

/-- The loop's own calls are steps that read no stream. -/
theorem kept_streams (usizeSize : Nat) (content : Nat → UInt8) (start : Transfer)
    : Transfer.Kept
        (((Transfer.machine usizeSize).startingAt start).restrict
          (Transfer.Streams content)).Reachable where
  spawn reached spawns :=
    reachable_unread reached (.spawn _ _) (fun _ _ never => by cases never) trivial spawns
  resize reached resizes :=
    reachable_unread reached (.resize _ _) (fun _ _ never => by cases never) trivial resizes
  observeOutcomes sampler reached :=
    reachable_unread reached (.observeOutcomes sampler) (fun _ _ never => by cases never) trivial
      rfl
  takeMetersSnapshot reached :=
    reachable_unread reached .takeMetersSnapshot (fun _ _ never => by cases never) trivial rfl

/-- With faithful streams the loop reaches what its runners reach with them, by induction on the
run.
-/
theorem reachable_streams {content : Nat → UInt8} {start : LoopRun}
    (reached : (((machine usizeSize).startingAt start).restrict (Streams content)).Reachable run)
    : (((Transfer.machine usizeSize).startingAt start.transfer).restrict
        (Transfer.Streams content)).Reachable run.transfer := by
  induction reached with
  | initial same =>
      cases same
      exact .initial rfl
  | step earlier step ih =>
      refine step_keeps (kept_streams usizeSize content start.transfer) ih
        ⟨step.enabled.1, step.next⟩ ?_
      intro transferEvent transfer same moves
      exact ih.step ⟨⟨moves.enabled, step.enabled.2 _ same⟩, moves.next⟩

end LoopRun

end BoltLoad
