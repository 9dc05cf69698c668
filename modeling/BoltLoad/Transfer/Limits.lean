import BoltLoad.Transfer.Ticks

/-! The resize protocol. The planner lowers a chunk, the mailbox keeps the latest limit only,
and the runner applies it whenever it looks: no limit is ever refused, and planner and runner
agree once the mailbox is empty.
-/

namespace BoltLoad

open OrderedMap

namespace Instance

variable {inst : Instance}

/-- The unread limit, if any, applies. -/
theorem Healthy.unread_applies (healthy : inst.Healthy) {limit : Nat}
    (unread : limit ∈ inst.mailbox)
    : TaskRunner.applyControl inst.run.loop.runner.total (.limitTotal limit) = .ok (some limit) := by
  obtain ⟨total, known, lower, -⟩ := healthy.limits
  simp only [known, TaskRunner.applyControl, lower limit unread, if_true]

/-- A runner reports that it exceeded its total only with more bytes pushed than that. -/
theorem Healthy.overrun (healthy : inst.Healthy)
    (stopped : Pushed.lifecycle (.stopped (.failed .exceededTotalSize)) ∈ inst.run.history)
    : ∃ total, inst.run.loop.runner.total = some total ∧ total < inst.run.pushed.length := by
  have reported
      : LifecycleEvent.stopped (.failed .exceededTotalSize) ∈ eventsOf inst.run.history :=
    List.mem_filterMap.mpr ⟨_, stopped, rfl⟩
  obtain ⟨before, after, events⟩ := List.append_of_mem reported
  obtain ⟨outcome, -, -⟩ := healthy.sound.stopped_last events
  rcases outcome.justified with ⟨total, known, past⟩ | refused
  · exact ⟨total, known, healthy.sound.counted ▸ past⟩
  · have never := healthy.unrefused.symm.trans refused
    cases never

end Instance

namespace Transfer

variable {usizeSize : Nat} {transfer : Transfer}

/-- The agreement of the resize protocol, in every state of every run: the limits a runner
was sent, what it makes of them, and how its total stands to its chunk.
-/
theorem limits_agree (reached : (machine usizeSize).Reachable transfer)
    : (∀ port inst,
        transfer.instances.get? port = some inst
        → inst.sent.Pairwise (fun earlier later => later < earlier)
          ∧ (∀ limit ∈ inst.sent, limit < inst.requested.len)
          ∧ inst.run.refused = false
          ∧ (∀ limit ∈ inst.mailbox,
              TaskRunner.applyControl inst.run.loop.runner.total (.limitTotal limit)
              = .ok (some limit))
          ∧ (.lifecycle (.stopped (.failed .exceededTotalSize)) ∈ inst.run.history
            → ∃ total,
                inst.run.loop.runner.total = some total ∧ total < inst.run.pushed.length))
      ∧ ∀ runnerId port,
          transfer.managed.manager.lifecycleAggregator.get? runnerId = some port
          → ∃ inst chunk total,
              transfer.instances.get? port = some inst
              ∧ transfer.managed.manager.chunkPlanner.getRunnerState runnerId = some chunk
              ∧ inst.run.loop.runner.total = some total
              ∧ (∀ limit ∈ inst.sent, chunk.downloaded.len ≤ limit)
              ∧ chunk.allocated.len ≤ total
              ∧ (inst.mailbox = none → chunk.allocated.len = total) := by
  have sound := reachable_sound reached
  refine ⟨?_, ?_⟩
  · intro port inst found
    have healthy := sound.healthy found
    exact ⟨healthy.decreasing, healthy.lowered, healthy.unrefused,
      fun limit unread => healthy.unread_applies unread, healthy.overrun⟩
  · intro runnerId port receiver
    have joint := sound.run.joint
    obtain ⟨inst, found, registered⟩ := sound.registered receiver
    obtain ⟨chunk, owned⟩ :=
      joint.owned (joint.allocated_of_lifecycle (mem_keys_iff.mpr ⟨port, receiver⟩))
    have state := (ChunkPlanner.getRunnerState_eq_some_iff joint.planner).mpr owned
    have serves := registered.serves state
    obtain ⟨total, known, within, -⟩ := serves.length_le (sound.healthy found)
    refine ⟨inst, chunk, total, found, state, known, ?_, within, ?_⟩
    · intro limit member
      rw [serves.accepted]
      exact (min_le_right _ _).trans (serves.limited limit member)
    · intro empty
      rw [serves.length total known, empty, Option.getD_none]

/-- A runner delivers the ten bytes it was asked for, while a limit of four arrives between
buffering and pushing them.
-/
def overtakenEvents : List TransferEvent :=
  [.spawn ⟨0, 10⟩ (.ok ()),
    .turn 0 { connection := some (.ok ()) },
    .turn 0 { lifecycleReady := some true },
    .tick 0 true (some (.event 0 .started)) none,
    .turn 0 { item := some (some (.ok [0, 1, 2, 3, 4, 5, 6, 7, 8, 9])) },
    .resize 0 4,
    .turn 0 { control := some (some (.limitTotal 4)) },
    .turn 0 { dataReady := some true },
    .tick 0 true none (some (.data 0 ⟨[0, 1, 2, 3, 4, 5, 6, 7, 8, 9]⟩)),
    .turn 0 { drained := true },
    .turn 0 { lifecycleReady := some true }]

theorem overtaken_executes
    : ∃ transfer inst,
        (machine u64Size).execute (.new 10 1) overtakenEvents = some transfer
        ∧ transfer.instances.get? 0 = some inst
        ∧ inst.requested.len = 10
        ∧ inst.run.pushed.length = 10
        ∧ inst.sent = [4]
        ∧ inst.run.refused = false
        ∧ transfer.managed.manager.lifecycleAggregator.get? 0 = some 0
        ∧ .lifecycle (.stopped (.failed .exceededTotalSize)) ∈ inst.run.history := by
  have seen
      : (((machine u64Size).execute (.new 10 1) overtakenEvents).bind
          (fun transfer =>
            (transfer.instances.get? 0).map
              (fun inst =>
                (inst.requested.len, inst.run.pushed.length, inst.sent, inst.run.refused,
                  transfer.managed.manager.lifecycleAggregator.get? 0, inst.run.history))))
        = some (10, 10, [4], false, some 0,
            [.lifecycle .started, .data ⟨[0, 1, 2, 3, 4, 5, 6, 7, 8, 9]⟩,
              .lifecycle (.stopped (.failed .exceededTotalSize))]) := rfl
  obtain ⟨transfer, executed, found⟩ := Option.bind_eq_some_iff.mp seen
  obtain ⟨inst, present, fields⟩ := Option.map_eq_some_iff.mp found
  simp only [Prod.mk.injEq] at fields
  obtain ⟨requested, pushed, sent, refused, receiver, history⟩ := fields
  refine ⟨transfer, inst, executed, present, requested, pushed, sent, refused, receiver, ?_⟩
  simp [history]

/-- A limit does stop a runner as exceeding its total: it had delivered what it was asked for,
and the limit, applied without failing, was less.
-/
theorem limit_below_pushed
    : ∃ transfer inst,
        (machine u64Size).Reachable transfer
        ∧ transfer.instances.get? 0 = some inst
        ∧ inst.requested.len = 10
        ∧ inst.run.pushed.length = 10
        ∧ inst.sent = [4]
        ∧ inst.run.refused = false
        ∧ .lifecycle (.stopped (.failed .exceededTotalSize)) ∈ inst.run.history := by
  obtain ⟨transfer, inst, executed, found, requested, pushed, sent, refused, -, stopped⟩ :=
    overtaken_executes
  have start : (machine u64Size).Reachable (.new 10 1) := .initial ⟨10, 1, by decide, rfl⟩
  exact ⟨transfer, inst, start.execute overtakenEvents executed, found, requested, pushed, sent,
    refused, stopped⟩

/-- The agreement in the state that run ends in. -/
theorem limits_agree_overtaken
    : ∃ transfer inst chunk total,
        (machine u64Size).execute (.new 10 1) overtakenEvents = some transfer
        ∧ transfer.instances.get? 0 = some inst
        ∧ inst.sent = [4]
        ∧ inst.sent.Pairwise (fun earlier later => later < earlier)
        ∧ transfer.managed.manager.chunkPlanner.getRunnerState 0 = some chunk
        ∧ inst.run.loop.runner.total = some total
        ∧ chunk.allocated.len ≤ total := by
  obtain ⟨transfer, inst, executed, found, -, -, sent, -, receiver, -⟩ := overtaken_executes
  have start : (machine u64Size).Reachable (.new 10 1) := .initial ⟨10, 1, by decide, rfl⟩
  have agree := limits_agree (start.execute overtakenEvents executed)
  obtain ⟨registered, chunk, total, foundAgain, state, known, -, within, -⟩ :=
    agree.2 0 0 receiver
  cases found.symm.trans foundAgain
  exact ⟨transfer, inst, chunk, total, executed, found, sent, (agree.1 0 inst found).1, state,
    known, within⟩

end Transfer

end BoltLoad
