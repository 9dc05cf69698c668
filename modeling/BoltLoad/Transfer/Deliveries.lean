import BoltLoad.Transfer.Completion

/-! What the planner has accepted when a runner's stop is handled. A runner that ends by itself
waits for its frames to be taken, unless its stream fell short of its total: then what the ring
still holds is thrown away.
-/

namespace BoltLoad

open OrderedMap

namespace StoppedReason

/-- The reasons of a runner whose stream ended by itself. -/
inductive StreamEnded : StoppedReason → Prop
  | finished : StreamEnded .finished
  | exceeded : StreamEnded (.failed .exceededTotalSize)
  | smaller : StreamEnded (.failed .smallerThanTotalSize)
  | streamError (source : AdapterError) : StreamEnded (.failed (.streamError source))

/-- All of them follow a drain, but for a stream that fell short. -/
theorem StreamEnded.followsDrain {reason : StoppedReason} (ended : reason.StreamEnded)
    (long : reason ≠ .failed .smallerThanTotalSize)
    : reason.followsDrain = true := by
  cases ended with
  | finished => rfl
  | exceeded => rfl
  | smaller => exact absurd rfl long
  | streamError source => rfl

end StoppedReason

namespace Instance

/-- The planner has accepted what was pushed, as far as the chunk goes, exactly when the ring
holds none of it or the chunk is full.
-/
theorem Serves.accepted_iff {inst : Instance} {chunk : ChunkState} {total : Nat}
    (serves : inst.Serves chunk) (healthy : inst.Healthy) (shaped : chunk.Shaped total)
    : chunk.downloaded.len = min inst.run.pushed.length chunk.allocated.len
      ↔ bytesOf inst.run.data = [] ∨ chunk.downloaded.stop = chunk.allocated.stop := by
  have taken := healthy.sound.taken_add
  have accepted := serves.accepted
  have anchored := shaped.anchored
  have started := shaped.started
  have bounded := shaped.bounded
  rw [← List.length_eq_zero_iff]
  simp only [HalfOpen.len] at accepted ⊢
  omega

end Instance

namespace Transfer

open RunnerManager

variable {usizeSize : Nat} {transfer : Transfer}

/-- When the manager is about to handle the stop of a started runner whose stream ended by
itself, exactly then it has accepted what the runner pushed, as far as its chunk goes, if the
stream did not fall short, or no byte is left in the ring, or the chunk is full. The range
released for a retry then starts where the runner's delivery ended.
-/
theorem accepts_delivered_iff (reached : (machine usizeSize).Reachable transfer)
    {now : Instant} {dataEnabled : Bool} {lifecycle : Option LifecycleStreamEvent}
    {data : Option DataStreamEvent}
    (enabled : transfer.Enabled (.tick now dataEnabled lifecycle data))
    {runnerId : RunnerId} {reason : StoppedReason}
    (selects
      : transfer.managed.manager.selected dataEnabled lifecycle data
        = some (.lifecycle (.event runnerId (.stopped reason))))
    (started : transfer.managed.manager.isConnecting runnerId = false)
    (ended : reason.StreamEnded)
    : ∃ port inst chunk,
        transfer.managed.manager.lifecycleAggregator.get? runnerId = some port
        ∧ transfer.instances.get? port = some inst
        ∧ transfer.managed.manager.chunkPlanner.getRunnerState runnerId = some chunk
        ∧ (chunk.downloaded.len = min inst.run.pushed.length chunk.allocated.len
          ↔ reason ≠ .failed .smallerThanTotalSize
            ∨ bytesOf inst.run.data = []
            ∨ chunk.downloaded.stop = chunk.allocated.stop)
        ∧ (chunk.downloaded.len = min inst.run.pushed.length chunk.allocated.len
          ↔ (transfer.managed.manager.chunkPlanner.markFailed runnerId).1
            = .ok
                ⟨inst.requested.start + min inst.run.pushed.length chunk.allocated.len,
                  chunk.allocated.stop⟩) := by
  have sound := reachable_sound reached
  have joint := sound.run.joint
  obtain ⟨port, inst, chunk, receiver, found, owned, serves, -, drained⟩ :=
    sound.stopping (enabled _ selects) started
  have shaped := joint.planner.shaped owned.found
  have state := (ChunkPlanner.getRunnerState_eq_some_iff joint.planner).mpr owned
  refine ⟨port, inst, chunk, receiver, found, state, ?_, ?_⟩
  · rw [serves.accepted_iff (sound.healthy found) shaped]
    refine ⟨Or.inr, fun holds => ?_⟩
    rcases holds with long | rest
    · exact Or.inl (by rw [drained (ended.followsDrain long), bytesOf_nil])
    · exact rest
  · have anchored := shaped.anchored
    have began := shaped.started
    have asked := serves.start
    rw [owned.markFailed_eq joint.planner]
    simp only [HalfOpen.len, Except.ok.injEq, HalfOpen.mk.injEq, and_true]
    omega

/-- A runner asked for ten bytes whose stream ends after four. Its stop is pushed while the four
bytes are still in the ring.
-/
def fallsShortEvents : List TransferEvent :=
  [.spawn ⟨0, 10⟩ (.ok ()),
    .turn 0 { connection := some (.ok ()) },
    .turn 0 { lifecycleReady := some true },
    .tick 0 true (some (.event 0 .started)) none,
    .turn 0 { item := some (some (.ok [0, 1, 2, 3])) },
    .turn 0 { item := some none },
    .turn 0 { dataReady := some true },
    .turn 0 { lifecycleReady := some true }]

/-- The poll that finds its stop; the data stream is polled after the lifecycle one. -/
def fallsShortTick : TransferEvent :=
  .tick (10 ^ 12) true (some (.event 0 (.stopped (.failed .smallerThanTotalSize)))) none

theorem fallsShort_executes
    : ∃ transfer inst chunk,
        (machine u64Size).execute (.new 10 1) fallsShortEvents = some transfer
        ∧ transfer.Enabled fallsShortTick
        ∧ transfer.managed.manager.spawnFailures = []
        ∧ transfer.managed.manager.isConnecting 0 = false
        ∧ transfer.managed.manager.lifecycleAggregator.get? 0 = some 0
        ∧ transfer.instances.get? 0 = some inst
        ∧ transfer.managed.manager.chunkPlanner.getRunnerState 0 = some chunk
        ∧ chunk.downloaded.len = 0
        ∧ chunk.allocated.len = 10
        ∧ inst.run.pushed.length = 4
        ∧ (transfer.managed.manager.chunkPlanner.markFailed 0).1 = .ok ⟨0, 10⟩ := by
  have seen
      : (((machine u64Size).execute (.new 10 1) fallsShortEvents).bind
          (fun transfer =>
            (transfer.instances.get? 0).bind
              (fun inst =>
                (transfer.managed.manager.chunkPlanner.getRunnerState 0).map
                  (fun chunk =>
                    (decide (transfer.Enabled fallsShortTick),
                      transfer.managed.manager.spawnFailures.isEmpty,
                      transfer.managed.manager.isConnecting 0,
                      transfer.managed.manager.lifecycleAggregator.get? 0,
                      chunk.downloaded.len, chunk.allocated.len, inst.run.pushed.length,
                      (transfer.managed.manager.chunkPlanner.markFailed 0).1)))))
        = some (true, true, false, some 0, 0, 10, 4, .ok ⟨0, 10⟩) := rfl
  obtain ⟨transfer, executed, rest⟩ := Option.bind_eq_some_iff.mp seen
  obtain ⟨inst, found, rest⟩ := Option.bind_eq_some_iff.mp rest
  obtain ⟨chunk, state, fields⟩ := Option.map_eq_some_iff.mp rest
  simp only [Prod.mk.injEq, decide_eq_true_eq] at fields
  obtain ⟨enabled, noFailures, started, receiver, downloaded, allocated, pushed, retry⟩ := fields
  exact ⟨transfer, inst, chunk, executed, enabled, List.isEmpty_iff.mp noFailures, started,
    receiver, found, state, downloaded, allocated, pushed, retry⟩

/-- The four bytes it pushed are thrown away: the planner has accepted none of them, and
releases the whole range for the retry.
-/
theorem short_delivery_discarded
    : ∃ transfer inst chunk,
        (machine u64Size).Reachable transfer
        ∧ transfer.Enabled fallsShortTick
        ∧ transfer.managed.manager.isConnecting 0 = false
        ∧ transfer.instances.get? 0 = some inst
        ∧ transfer.managed.manager.chunkPlanner.getRunnerState 0 = some chunk
        ∧ chunk.downloaded.len ≠ min inst.run.pushed.length chunk.allocated.len
        ∧ (transfer.managed.manager.chunkPlanner.markFailed 0).1 = .ok ⟨0, 10⟩ := by
  obtain ⟨transfer, inst, chunk, executed, enabled, -, started, -, found, state, downloaded,
    allocated, pushed, retry⟩ := fallsShort_executes
  have start : (machine u64Size).Reachable (.new 10 1) := .initial ⟨10, 1, by decide, rfl⟩
  refine ⟨transfer, inst, chunk, start.execute fallsShortEvents executed, enabled, started, found,
    state, ?_, retry⟩
  rw [downloaded, allocated, pushed]
  decide

/-- The equivalence at that poll, where neither side holds. -/
theorem accepts_delivered_short
    : ∃ transfer inst chunk,
        (machine u64Size).execute (.new 10 1) fallsShortEvents = some transfer
        ∧ transfer.instances.get? 0 = some inst
        ∧ transfer.managed.manager.chunkPlanner.getRunnerState 0 = some chunk
        ∧ chunk.downloaded.len ≠ min inst.run.pushed.length chunk.allocated.len
        ∧ bytesOf inst.run.data ≠ [] := by
  obtain ⟨transfer, inst, chunk, executed, enabled, noFailures, started, receiver, found, state,
    downloaded, allocated, pushed, -⟩ := fallsShort_executes
  have start : (machine u64Size).Reachable (.new 10 1) := .initial ⟨10, 1, by decide, rfl⟩
  have selects
      : transfer.managed.manager.selected true
          (some (.event 0 (.stopped (.failed .smallerThanTotalSize)))) none
        = some (.lifecycle (.event 0 (.stopped (.failed .smallerThanTotalSize)))) := by
    simp only [selected, noFailures]
  obtain ⟨port, other, otherChunk, receiverAgain, foundAgain, stateAgain, accepts, -⟩ :=
    accepts_delivered_iff (start.execute fallsShortEvents executed) enabled selects started
      .smaller
  cases receiver.symm.trans receiverAgain
  cases found.symm.trans foundAgain
  cases state.symm.trans stateAgain
  have discarded : chunk.downloaded.len ≠ min inst.run.pushed.length chunk.allocated.len := by
    rw [downloaded, allocated, pushed]
    decide
  refine ⟨transfer, inst, chunk, executed, found, state, discarded, ?_⟩
  intro empty
  exact discarded (accepts.mpr (Or.inr (Or.inl empty)))

end Transfer

end BoltLoad
