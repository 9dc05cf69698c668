import BoltLoad.RunnerManager.Completion
import BoltLoad.Transfer.Ticks

/-! No hole is left on success. A runner that completes its chunk has drained its ring and
pushed as much as its total, which is no less than its chunk: so every finished chunk is full,
and a finished task has downloaded the file.
-/

namespace BoltLoad

open OrderedMap

namespace StoppedReason

/-- The reasons that complete a chunk are only reported after a drain. -/
theorem followsDrain_of_completes {reason : StoppedReason}
    (completes : RunnerManager.completes reason = true)
    : reason.followsDrain = true := by
  cases reason with
  | finished => rfl
  | failed error => cases error <;> first | rfl | cases completes

end StoppedReason

namespace Instance

/-- A runner that delivered its total, or more, has filled the chunk it serves. -/
theorem Serves.full {inst : Instance} {chunk : ChunkState} {total : Nat}
    (serves : inst.Serves chunk) (healthy : inst.Healthy) (shaped : chunk.Shaped total)
    (drained : inst.run.data = [])
    (delivered
      : ∀ limit, inst.run.loop.runner.total = some limit → limit ≤ inst.run.loop.runner.downloaded)
    : chunk.downloaded.stop = chunk.allocated.stop := by
  obtain ⟨limit, known, within, -⟩ := serves.length_le healthy
  have counted := healthy.sound.counted
  have taken := healthy.sound.taken_add
  rw [drained, bytesOf_nil, List.length_nil, Nat.add_zero] at taken
  have enough := delivered limit known
  have accepted := serves.accepted
  have anchored := shaped.anchored
  have started := shaped.started
  have bounded := shaped.bounded
  simp only [HalfOpen.len] at accepted within
  omega

end Instance

namespace Transfer

open RunnerManager

variable {usizeSize : Nat} {transfer : Transfer} {runnerId : RunnerId}

/-- What the manager knows of a started runner whose stop it is about to handle. -/
theorem Sound.stopping (sound : transfer.Sound) {reason : StoppedReason}
    (offers : transfer.Offers (.lifecycle (.event runnerId (.stopped reason))))
    (started : transfer.managed.manager.isConnecting runnerId = false)
    : ∃ port inst chunk,
        transfer.managed.manager.lifecycleAggregator.get? runnerId = some port
        ∧ transfer.instances.get? port = some inst
        ∧ transfer.managed.manager.chunkPlanner.Owns runnerId chunk
        ∧ inst.Serves chunk
        ∧ inst.run.Outcome reason
        ∧ (reason.followsDrain = true → inst.run.data = []) := by
  have joint := sound.run.joint
  obtain ⟨port, receiver, inst, found, next⟩ := offers
  obtain ⟨_, foundAgain, registered⟩ := sound.registered receiver
  cases (Option.mem_def.mp found).symm.trans foundAgain
  obtain ⟨rest, queue⟩ := List.head?_eq_some_iff.mp next
  have announced := (sound.run.started receiver).mpr started
  have reported := registered.reported
  rw [if_pos announced, queue] at reported
  obtain ⟨outcome, -, -⟩ := (sound.healthy found).sound.stopped_last reported
  obtain ⟨chunk, owned⟩ :=
    joint.owned (joint.allocated_of_lifecycle (mem_keys_iff.mpr ⟨port, receiver⟩))
  have state := (ChunkPlanner.getRunnerState_eq_some_iff joint.planner).mpr owned
  refine ⟨port, inst, chunk, receiver, found, owned, registered.serves state, outcome, ?_⟩
  intro drains
  rcases outcome.drained drains with empty | gone
  · exact empty
  · exact (registered.closed gone).1

/-- A started runner that completes its chunk has filled it. -/
theorem Sound.completes_full (sound : transfer.Sound) {reason : StoppedReason}
    (offers : transfer.Offers (.lifecycle (.event runnerId (.stopped reason))))
    (started : transfer.managed.manager.isConnecting runnerId = false)
    (completes : RunnerManager.completes reason = true)
    : ∃ chunk,
        transfer.managed.manager.chunkPlanner.Owns runnerId chunk
        ∧ chunk.downloaded.stop = chunk.allocated.stop := by
  obtain ⟨port, inst, chunk, -, found, owned, serves, outcome, drained⟩ :=
    sound.stopping offers started
  have healthy := sound.healthy found
  refine ⟨chunk, owned, serves.full healthy (sound.run.joint.planner.shaped owned.found)
    (drained (StoppedReason.followsDrain_of_completes completes)) ?_⟩
  intro limit known
  have justified := outcome.justified
  cases reason with
  | finished =>
      simp only [StoppedReason.Justified, TaskRunner.Delivered, known] at justified
      exact justified.ge
  | failed error =>
      cases error with
      | exceededTotalSize =>
          rcases justified with ⟨total, same, past⟩ | refused
          · cases known.symm.trans same
            exact past.le
          · have never := healthy.unrefused.symm.trans refused
            cases never
      | _ => cases completes

-----------------------------------------------------------------------------------------
-- Finished chunks are full
-----------------------------------------------------------------------------------------

/-- Every finished chunk is full. -/
def Full (planner : ChunkPlanner) : Prop :=
  ∀ start chunk,
    planner.chunks.get? start = some chunk
    → chunk.status = .finished
    → chunk.downloaded.stop = chunk.allocated.stop

/-- Replacing a chunk keeps the others full. -/
theorem Full.insert {planner : ChunkPlanner} (full : Full planner) {start : Nat}
    {chunk : ChunkState}
    (fills : chunk.status = .finished → chunk.downloaded.stop = chunk.allocated.stop)
    {after : ChunkPlanner} (changed : after.chunks = planner.chunks.insert start chunk)
    : Full after := by
  intro other otherChunk found finished
  rw [changed, get?_insert] at found
  split at found
  · cases found
    exact fills finished
  · exact full other otherChunk found finished

theorem Full.release {planner : ChunkPlanner} (full : Full planner) {chunk : ChunkState}
    : Full (planner.release runnerId chunk) := by
  intro other otherChunk found finished
  rw [ChunkPlanner.get?_release] at found
  split at found
  · split at found
    · cases found
    · cases found
      rfl
  · exact full other otherChunk found finished

/-- Handling a cause keeps finished chunks full: a completed one was full before. -/
theorem Sound.full_afterCause (sound : transfer.Sound) {cause : Cause} {tick : RunnerTick}
    {manager : RunnerManager} (offers : transfer.Offers cause)
    (handled : transfer.managed.manager.Handled cause tick manager)
    (full : Full transfer.managed.manager.chunkPlanner)
    : Full manager.chunkPlanner := by
  have joint := sound.run.joint
  cases handled with
  | rejected sampler queued owned => exact full.release
  | unconnected sampler owned pending => exact full.release
  | failed sampler owned running incomplete => exact full.release
  | lost sampler owned => exact full.release
  | started owned pending waiting =>
      refine full.insert ?_ rfl
      intro never
      cases never
  | @completed completedId reason chunk sampler owned running completes =>
      have started : transfer.managed.manager.isConnecting completedId = false := by
        rw [joint.isConnecting_eq owned]
        simp [running]
      obtain ⟨other, otherOwned, fills⟩ := sound.completes_full offers started completes
      cases owned.unique otherOwned
      have finished
          : { chunk with status := ChunkStatus.finished }.status = .finished
            → chunk.downloaded.stop = chunk.allocated.stop := fun _ => fills
      exact full.insert finished rfl
  | @data dataId item chunk owned running =>
      refine full.insert ?_ rfl
      intro finished
      have shaped := joint.planner.shaped owned.found
      have bounded := shaped.bounded
      simp only [ChunkState.advanced] at finished ⊢
      split at finished
      · omega
      · have before := full _ _ owned.found finished
        omega
  | dataClosed => exact full

/-- The finished chunks of a download attempt are full. -/
def ChunksFull (transfer : Transfer) : Prop := Full transfer.managed.manager.chunkPlanner

/-- In every run finished chunks are full, by induction on the run. -/
theorem reachable_full (reached : (machine usizeSize).Reachable transfer)
    : transfer.ChunksFull := by
  refine reached.invariant ?_ ?_
  · rintro start ⟨total, maxConcurrency, representable, same⟩
    subst same
    intro other chunk found
    cases found
  · intro before event after earlier full step
    have sound := reachable_sound earlier
    have joint := sound.run.joint
    have next := step.next
    cases event with
    | spawn range outcome =>
        obtain ⟨result, manager, spawns, spawned⟩ :=
          joint.spawns range before.managed.nextPort outcome
        simp only [machine, Transfer.next, Transfer.spawn, ManagerRun.spawn, spawns] at next
        cases next
        cases spawned with
        | full none_free => exact full
        | refused next allocates rejects => exact full
        | accepted next allocates free => exact full.insert (fun never => by cases never) rfl
        | rejected next allocates free => exact full.insert (fun never => by cases never) rfl
    | resize runnerId newSize =>
        obtain ⟨result, sent, manager, resizes, resized⟩ :=
          joint.resizes runnerId newSize (before.receives runnerId)
        simp only [machine, Transfer.next, Transfer.resize, ManagerRun.resize, resizes] at next
        cases next
        cases resized with
        | refused => exact full
        | unchanged owned same => exact full
        | @shrunk chunk port owned nonempty shrinks sender received =>
            refine full.insert ?_ rfl
            intro finished
            have fills := full _ _ owned.found finished
            omega
    | tick now dataEnabled lifecycle data =>
        rcases sound.afterTick now step.enabled with ⟨tick, ticked, ticks, -, outcome⟩ | early
        · simp only [machine, Transfer.next, ticks] at next
          cases next
          change Full ticked.managed.manager.chunkPlanner
          generalize ticked.managed = managed at outcome
          cases outcome with
          | idle nothing => exact full
          | handled selects offered handled =>
              exact sound.full_afterCause (step.enabled _ selects) handled full
        · simp only [machine, Transfer.next, early] at next
          cases next
    | takeMetersSnapshot =>
        cases next
        exact full
    | observeOutcomes sampler =>
        cases next
        exact full
    | turn port sources =>
        obtain ⟨inst, effect, run, -, turned, -⟩ := sound.turns usizeSize step.enabled
        simp only [machine, Transfer.next, turned] at next
        cases next
        exact full
    | vanish port =>
        cases next
        exact full

-----------------------------------------------------------------------------------------
-- Success
-----------------------------------------------------------------------------------------

/-- At every poll of every run: a started runner about to complete its chunk has filled it, and
a tick that reports the task finished leaves the whole file downloaded.
-/
theorem no_hole (reached : (machine usizeSize).Reachable transfer) {now : Instant}
    {dataEnabled : Bool} {lifecycle : Option LifecycleStreamEvent}
    {data : Option DataStreamEvent}
    (enabled : transfer.Enabled (.tick now dataEnabled lifecycle data))
    : (∀ runnerId reason,
        transfer.managed.manager.selected dataEnabled lifecycle data
          = some (.lifecycle (.event runnerId (.stopped reason)))
        → transfer.managed.manager.isConnecting runnerId = false
        → reason = .finished ∨ reason = .failed .exceededTotalSize
        → ∃ chunk,
            transfer.managed.manager.chunkPlanner.getRunnerState runnerId = some chunk
            ∧ chunk.downloaded = chunk.allocated)
      ∧ ∀ tick after,
          transfer.tick now dataEnabled lifecycle data = .ok (some tick, after)
          → tick.state = .finished
          → after.managed.manager.chunkPlanner.getDownloadedRanges
            = [⟨0, after.managed.manager.chunkPlanner.total⟩] := by
  have sound := reachable_sound reached
  have joint := sound.run.joint
  refine ⟨?_, ?_⟩
  · intro runnerId reason selects started ends
    have completes : RunnerManager.completes reason = true := by
      rcases ends with rfl | rfl <;> rfl
    obtain ⟨chunk, owned, stops⟩ := sound.completes_full (enabled _ selects) started completes
    refine ⟨chunk, (ChunkPlanner.getRunnerState_eq_some_iff joint.planner).mpr owned, ?_⟩
    have anchored := (joint.planner.shaped owned.found).anchored
    cases downloaded : chunk.downloaded
    cases allocated : chunk.allocated
    simp_all
  · intro tick after ticks finished
    rcases sound.afterTick now enabled with ⟨some_tick, ticked, same, afterSound, outcome⟩ | early
    · cases same.symm.trans ticks
      have next
          : transfer.next usizeSize (.tick now dataEnabled lifecycle data) = .ok after := by
        simp only [Transfer.next, ticks]
        rfl
      have full := reachable_full (reachable_next reached _ enabled next)
      have complete : after.managed.manager.chunkPlanner.isComplete = true := by
        generalize after.managed = managed at outcome
        cases outcome with
        | handled selects offered handled => exact (handled_finished handled finished).2
      exact afterSound.run.joint.planner.getDownloadedRanges_of_complete complete full
    · cases early.symm.trans ticks

/-- A runner that connects, delivers all ten bytes of the file, and stops. -/
def deliveringEvents : List TransferEvent :=
  [.spawn ⟨0, 10⟩ (.ok ()),
    .turn 0 { connection := some (.ok ()) },
    .turn 0 { lifecycleReady := some true },
    .tick 0 true (some (.event 0 .started)) none,
    .turn 0 { item := some (some (.ok [0, 1, 2, 3, 4, 5, 6, 7, 8, 9])) },
    .turn 0 { dataReady := some true },
    .tick 0 true none (some (.data 0 ⟨[0, 1, 2, 3, 4, 5, 6, 7, 8, 9]⟩)),
    .turn 0 { drained := true },
    .turn 0 { lifecycleReady := some true }]

/-- Its last poll finds the chunk full, and reports the file downloaded. -/
theorem no_hole_delivering
    : ∃ transfer tick after,
        (machine u64Size).execute (.new 10 1) deliveringEvents = some transfer
        ∧ transfer.tick (10 ^ 12) true (some (.event 0 (.stopped .finished))) none
          = .ok (some tick, after)
        ∧ tick.state = .finished
        ∧ (∃ chunk,
            transfer.managed.manager.chunkPlanner.getRunnerState 0 = some chunk
            ∧ chunk.downloaded = chunk.allocated)
        ∧ after.managed.manager.chunkPlanner.getDownloadedRanges
          = [⟨0, after.managed.manager.chunkPlanner.total⟩] := by
  let last : TransferEvent :=
    .tick (10 ^ 12) true (some (.event 0 (.stopped .finished))) none
  have isRun : ((machine u64Size).execute (.new 10 1) deliveringEvents).isSome = true := rfl
  obtain ⟨transfer, executed⟩ := Option.isSome_iff_exists.mp isRun
  have polls
      : (((machine u64Size).execute (.new 10 1) deliveringEvents).map
          (fun transfer =>
            (decide (transfer.Enabled last),
              transfer.managed.manager.spawnFailures.isEmpty,
              transfer.managed.manager.isConnecting 0,
              (transfer.tick (10 ^ 12) true (some (.event 0 (.stopped .finished))) none).map
                (fun ticked => ticked.1))))
        = some (true, true, false, .ok (some .finished)) := rfl
  rw [executed] at polls
  simp only [Option.map_some, Option.some.injEq, Prod.mk.injEq, decide_eq_true_eq] at polls
  obtain ⟨enabled, noFailures, started, ticks⟩ := polls
  have start : (machine u64Size).Reachable (.new 10 1) := .initial ⟨10, 1, by decide, rfl⟩
  have results := no_hole (start.execute deliveringEvents executed) enabled
  cases ticked : transfer.tick (10 ^ 12) true (some (.event 0 (.stopped .finished))) none with
  | error panic =>
      rw [ticked] at ticks
      cases ticks
  | ok result =>
      obtain ⟨tick, after⟩ := result
      rw [ticked] at ticks
      cases ticks
      have selects
          : transfer.managed.manager.selected true (some (.event 0 (.stopped .finished))) none
            = some (.lifecycle (.event 0 (.stopped .finished))) := by
        simp only [selected, List.isEmpty_iff.mp noFailures]
      exact ⟨transfer, .finished, after, executed, ticked, rfl,
        results.1 0 .finished selects started (Or.inl rfl), results.2 _ _ ticked rfl⟩

end Transfer

end BoltLoad
