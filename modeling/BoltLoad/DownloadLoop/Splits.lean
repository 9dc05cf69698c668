import BoltLoad.ChunkPlanner.Partition
import BoltLoad.DownloadLoop.Runs
import BoltLoad.RunnerManager.Configuration
import BoltLoad.Transfer.Resizes

/-! A split of a runner's incomplete range. Shrinking the runner's chunk and spawning a runner
for the rest are two steps on two parties; together they divide the chunk between the two
runners, or change nothing.
-/

namespace BoltLoad

open OrderedMap

namespace Transfer

variable {transfer : Transfer}

-----------------------------------------------------------------------------------------
-- Spawns and resizes of the loop
-----------------------------------------------------------------------------------------

theorem Sound.planner (sound : transfer.Sound)
    : transfer.managed.manager.chunkPlanner.WellFormed :=
  sound.run.joint.planner

/-- The loop sets no limit on the number of chunks. -/
theorem Sound.unlimited (sound : transfer.Sound)
    : transfer.managed.manager.chunkPlanner.maxChunkCount = none :=
  (ManagerRun.reachable_configuration sound.managed).2

theorem Sound.minChunkSize_eq (sound : transfer.Sound)
    : transfer.managed.manager.chunkPlanner.minChunkSize = ChunkPlanner.defaultMinChunkSize :=
  (ManagerRun.reachable_configuration sound.managed).1

/-- A spawn of the loop never panics by itself, and does what the manager's does. -/
theorem Sound.spawnRunnerWithChunk (sound : transfer.Sound) (range : Range)
    (outcome : Except SpawnFailed Unit)
    : ∃ result after,
        transfer.spawnRunnerWithChunk range outcome = .ok (result, after)
        ∧ after.Sound
        ∧ transfer.managed.manager.Spawned range transfer.managed.nextPort outcome result
            after.managed.manager := by
  obtain ⟨result, manager, spawns, spawned⟩ :=
    sound.run.joint.spawns range transfer.managed.nextPort outcome
  obtain ⟨after, spawn, afterSound⟩ := sound.afterSpawn range outcome
  have managed
      : transfer.managed.spawn range outcome
        = .ok (result,
            { transfer.managed with manager, nextPort := transfer.managed.nextPort + 1 }) := by
    simp only [ManagerRun.spawn, spawns, Checked.ok_bind]
    rfl
  refine ⟨result, after, ?_, afterSound, ?_⟩
  · simp only [Transfer.spawnRunnerWithChunk, managed, spawn, Checked.ok_bind]
    rfl
  · simp only [Transfer.spawn, managed, Checked.ok_bind] at spawn
    cases spawn
    exact spawned

/-- So does a resize. -/
theorem Sound.resizeRunner (sound : transfer.Sound) (runnerId : RunnerId) (newSize : Nat)
    : ∃ result sent manager,
        transfer.resizeRunner runnerId newSize = .ok (result, transfer.resized manager sent)
        ∧ (transfer.resized manager sent).Sound
        ∧ transfer.managed.manager.Resized runnerId newSize (transfer.receives runnerId) result
            sent manager := by
  obtain ⟨result, sent, manager, resizes, resized⟩ :=
    sound.run.joint.resizes runnerId newSize (transfer.receives runnerId)
  have resizeRunner := resizeRunner_eq resizes
  obtain ⟨after, resize, afterSound⟩ := sound.afterResize runnerId newSize
  cases (resizeRunner_resizes resizeRunner).1.symm.trans resize
  exact ⟨result, sent, manager, resizeRunner, afterSound, resized⟩

end Transfer

namespace DownloadLoop

open Transfer

variable {transfer : Transfer} {runnerId : RunnerId} {chunk : ChunkState}
  {outcome : Range → Except SpawnFailed Unit}

-----------------------------------------------------------------------------------------
-- What a split does
-----------------------------------------------------------------------------------------

/-- Where a chunk is split. -/
def splitPoint (chunk : ChunkState) : Nat :=
  chunk.downloaded.stop + chunk.incompleteRange.len / 2

/-- What follows from a resize that was accepted. -/
structure Halved (transfer : Transfer) (runnerId : RunnerId) (chunk : ChunkState) : Prop where
  receives : transfer.receives runnerId = true
  keptNonempty : chunk.allocated.start < splitPoint chunk
  keepsDownloaded : chunk.downloaded.stop ≤ splitPoint chunk
  givenNonempty : splitPoint chunk < chunk.allocated.stop

/-- Everything a split of a runner's incomplete range can end with. -/
inductive Splits (transfer : Transfer) (runnerId : RunnerId) (chunk : ChunkState)
    : Checked Transfer → Prop
  | refused {error : ResizeError}
    (refuses
      : transfer.resizeRunner runnerId (chunk.incompleteRange.len / 2)
        = .ok (.error error, transfer))
    : Splits transfer runnerId chunk (.ok transfer)
  | exhausted (halved : Halved transfer runnerId chunk)
    (full : transfer.managed.manager.idGenerator.next = none)
    : Splits transfer runnerId chunk (.error (.expect allocateMessage))
  | performed {newRunnerId : RunnerId} {idGenerator : Generator} {after : Transfer}
    (halved : Halved transfer runnerId chunk)
    (next : transfer.managed.manager.idGenerator.next = some (newRunnerId, idGenerator))
    (unmapped : transfer.managed.manager.chunkPlanner.runnerToChunk.get? newRunnerId = none)
    (sound : after.Sound) (generator : after.managed.manager.idGenerator = idGenerator)
    (planner
      : after.managed.manager.chunkPlanner
        = transfer.managed.manager.chunkPlanner.handOver chunk (splitPoint chunk) newRunnerId)
    : Splits transfer runnerId chunk (.ok after)

/-- A split ends so, by cases on its resize and on its spawn. -/
theorem split_splits (sound : transfer.Sound)
    (owned : transfer.managed.manager.chunkPlanner.Owns runnerId chunk)
    (unfinished : chunk.downloaded.stop < chunk.allocated.stop)
    : Splits transfer runnerId chunk
        (split transfer runnerId chunk.incompleteRange outcome) := by
  have shaped := sound.planner.shaped owned.found
  have inside := shaped.inside
  have representable := sound.planner.representable
  have size
      : Checked.sub chunk.incompleteRange.stop chunk.incompleteRange.start
        = .ok chunk.incompleteRange.len := Checked.sub_eq unfinished.le
  have length : chunk.incompleteRange.len = chunk.allocated.stop - chunk.downloaded.stop := rfl
  obtain ⟨result, sent, manager, resizes, resizedSound, resized⟩ :=
    sound.resizeRunner runnerId (chunk.incompleteRange.len / 2)
  cases resized with
  | refused =>
      have same : split transfer runnerId chunk.incompleteRange outcome = .ok transfer := by
        simp only [split, size, resizes, Checked.ok_bind]
        rfl
      rw [same]
      exact .refused resizes
  | unchanged other same =>
      cases owned.unique other
      omega
  | @shrunk other port otherOwned keptNonempty givenNonempty sender receives =>
      cases owned.unique otherOwned
      have halved : Halved transfer runnerId chunk :=
        ⟨receives, keptNonempty, Nat.le_add_right _ _, givenNonempty⟩
      have middle
          : Checked.add chunk.incompleteRange.start (chunk.incompleteRange.len / 2)
            = .ok (splitPoint chunk) := by
        refine Checked.add_eq ?_
        simp only [ChunkState.incompleteRange] at length ⊢
        omega
      obtain ⟨spawned, after, spawns, afterSound, does⟩ :=
        resizedSound.spawnRunnerWithChunk ⟨splitPoint chunk, chunk.incompleteRange.stop⟩
          (outcome ⟨splitPoint chunk, chunk.incompleteRange.stop⟩)
      have ends
          : split transfer runnerId chunk.incompleteRange outcome
            = (Checked.expect spawned allocateMessage).map (fun _ => after) := by
        simp only [split, size, resizes, middle, spawnRunner, spawns, Checked.ok_bind]
        cases spawned with
        | none => rfl
        | some done => rfl
      rw [ends]
      -- The rest of the chunk is free once the chunk was cut, so the planner takes it.
      have free := owned.free_after_cut sound.planner keptNonempty givenNonempty
      have room
          : (transfer.managed.manager.chunkPlanner.withChunk chunk.allocated.start
              (chunk.cutAt (splitPoint chunk))).chunkCountReached = false := by
        simp only [ChunkPlanner.chunkCountReached, ChunkPlanner.withChunk, sound.unlimited,
          Option.any_none]
      have cutWf := resizedSound.planner
      generalize outcome ⟨splitPoint chunk, chunk.incompleteRange.stop⟩ = taken at does
      generalize spawned = accepted at does ⊢
      generalize managed : after.managed.manager = afterManager at does
      cases does with
      | full none_free => exact .exhausted halved none_free
      | @refused _ newRunnerId generator next allocates rejects =>
          have accepts := cutWf.allocateChunkInner_of_free free room (some newRunnerId) .pending
          cases rejects.symm.trans accepts
      | accepted next allocates free =>
          refine .performed halved next ?_ afterSound ?_ ?_
          · exact sound.planner.unmapped_of_stateless
              (sound.run.joint.absent allocates.free).1
          · rw [managed]
            rfl
          · rw [managed]
            rfl
      | rejected next allocates free =>
          refine .performed halved next ?_ afterSound ?_ ?_
          · exact sound.planner.unmapped_of_stateless
              (sound.run.joint.absent allocates.free).1
          · rw [managed]
            rfl
          · rw [managed]
            rfl

-----------------------------------------------------------------------------------------
-- Splits of the loop
-----------------------------------------------------------------------------------------

/-- The transfers a loop holds: between its turns, and between the steps of a tick. -/
inductive Held (usizeSize : Nat) : Transfer → Prop
  | between {run : LoopRun} (reached : (LoopRun.machine usizeSize).Reachable run)
    : Held usizeSize run.transfer
  | executed {loop next : DownloadLoop} {clock : StepClock} {actions : List StrategyAction}
    (held : Held usizeSize loop.transfer) (executes : loop.execute clock = .ok (actions, next))
    : Held usizeSize next.transfer
  | spawned {transfer after : Transfer} {range : Range}
    {outcome : Range → Except SpawnFailed Unit} (held : Held usizeSize transfer)
    (spawns : spawnRunner transfer range outcome = .ok after)
    : Held usizeSize after
  | splits {transfer after : Transfer} {runnerId : RunnerId} {incompleteRange : Range}
    {outcome : Range → Except SpawnFailed Unit} (held : Held usizeSize transfer)
    (splits : split transfer runnerId incompleteRange outcome = .ok after)
    : Held usizeSize after

/-- A loop holds what its runners reach, by induction on the steps of its tick. -/
theorem Held.reachable {usizeSize : Nat} (held : Held usizeSize transfer)
    : (Transfer.machine usizeSize).Reachable transfer := by
  induction held with
  | between reached => exact LoopRun.reachable_transfer reached
  | executed held executes ih =>
      obtain ⟨sampler, strategy, same⟩ := execute_observes executes
      subst same
      exact (kept_reachable usizeSize).observeOutcomes sampler ih
  | spawned held spawns ih => exact kept_spawnRunner (kept_reachable usizeSize) ih spawns
  | splits held splits ih => exact kept_split (kept_reachable usizeSize) ih splits

theorem Held.sound {usizeSize : Nat} (held : Held usizeSize transfer) : transfer.Sound :=
  reachable_sound held.reachable

/-- With an identifier free, a split of a runner's incomplete range either is refused with
its resize, leaving everything as it was, or partitions the runner's chunk.
-/
theorem split_partitions {usizeSize : Nat} (held : Held usizeSize transfer)
    {id : RunnerId} (inside : id < transfer.managed.manager.idGenerator.capacity)
    (isFree : transfer.managed.manager.idGenerator.isAllocated id = false)
    (mapped : transfer.managed.manager.chunkPlanner.getRunnerState runnerId = some chunk)
    (nonempty : chunk.incompleteRange.start < chunk.incompleteRange.stop)
    (outcome : Range → Except SpawnFailed Unit)
    : ∃ after,
        split transfer runnerId chunk.incompleteRange outcome = .ok after
        ∧ ((∃ error,
              transfer.resizeRunner runnerId (chunk.incompleteRange.len / 2)
              = .ok (.error error, transfer))
            ∧ after = transfer
          ∨ ∃ newRunnerId,
              transfer.managed.manager.chunkPlanner.Partitions
                after.managed.manager.chunkPlanner runnerId chunk
                (chunk.incompleteRange.start + chunk.incompleteRange.len / 2) newRunnerId) := by
  have sound := held.sound
  have owned := (ChunkPlanner.getRunnerState_eq_some_iff sound.planner).mp mapped
  have splits := @split_splits transfer runnerId chunk outcome sound owned nonempty
  have room := Generator.room_of_free sound.run.joint.generator inside isFree
  generalize split transfer runnerId chunk.incompleteRange outcome = result at splits ⊢
  cases splits with
  | refused refuses => exact ⟨transfer, rfl, Or.inl ⟨⟨_, refuses⟩, rfl⟩⟩
  | exhausted halved full =>
      obtain ⟨newRunnerId, idGenerator, next, -⟩ :=
        Generator.next_of_room sound.run.joint.generator room
      cases full.symm.trans next
  | @performed newRunnerId _ after halved next unmapped afterSound generator planner =>
      refine ⟨after, rfl, Or.inr ⟨newRunnerId, ?_⟩⟩
      rw [planner]
      exact owned.partitions sound.planner halved.keptNonempty halved.keepsDownloaded
        halved.givenNonempty unmapped

/-- The first tick starts a runner for the whole file. Nothing of it is downloaded yet as it is
split, and the runtime rejects the second runner.
-/
theorem split_partitions_rejected
    : ∃ run : LoopRun, ∃ after newRunnerId,
        (LoopRun.machine u64Size).execute (.new 10 2 ⟨8, seconds 60⟩ 0)
          [.poll { strategyTimer := true }] = some run
        ∧ split run.transfer 0 ⟨0, 10⟩ (fun _ => .error ⟨"rejected"⟩) = .ok after
        ∧ run.transfer.managed.manager.chunkPlanner.Partitions
            after.managed.manager.chunkPlanner 0 (.new ⟨0, 10⟩ (some 0) .pending) 5
            newRunnerId := by
  let options : TaskOptions := ⟨8, seconds 60⟩
  let events : List LoopRunEvent := [.poll { strategyTimer := true }]
  let outcome : Range → Except SpawnFailed Unit := fun _ => .error ⟨"rejected"⟩
  have seen
      : ((LoopRun.machine u64Size).execute (.new 10 2 options 0) events).map
          (fun run =>
            (run.transfer.managed.manager.idGenerator.capacity,
              run.transfer.managed.manager.idGenerator.isAllocated 1,
              run.transfer.managed.manager.chunkPlanner.getRunnerState 0,
              (run.transfer.resizeRunner 0 5).map (fun resized => resized.1.isOk)))
        = some (2, false, some (.new ⟨0, 10⟩ (some 0) .pending), .ok true) := rfl
  obtain ⟨run, executed, fields⟩ := Option.map_eq_some_iff.mp seen
  simp only [Prod.mk.injEq] at fields
  obtain ⟨capacity, isFree, mapped, resizes⟩ := fields
  have start : (LoopRun.machine u64Size).Reachable (.new 10 2 options 0) :=
    .initial ⟨10, 2, _, 0, by decide, by decide, rfl⟩
  have reached := start.execute events executed
  have inside : 1 < run.transfer.managed.manager.idGenerator.capacity := by
    rw [capacity]
    exact Nat.one_lt_two
  obtain ⟨after, splits, ⟨⟨error, refused⟩, -⟩ | ⟨newRunnerId, partitions⟩⟩ :=
    split_partitions (.between reached) inside isFree mapped (by decide) outcome
  · have accepted : run.transfer.resizeRunner 0 5 = .ok (.error error, run.transfer) := refused
    rw [accepted] at resizes
    cases resizes
  · exact ⟨run, after, newRunnerId, executed, splits, partitions⟩

end DownloadLoop

end BoltLoad
