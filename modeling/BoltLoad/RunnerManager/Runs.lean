import BoltLoad.Library.Machine
import BoltLoad.RunnerManager.Transitions

/-! The manager under runners that keep to their protocol: spawns, resizes and ticks in any
order. Every tick boundary meets the joint invariant, and no planner operation the manager
expects to succeed fails.
-/

namespace BoltLoad

open OrderedMap

namespace RunnerManager

-----------------------------------------------------------------------------------------
-- Ticks, spawns and resizes
-----------------------------------------------------------------------------------------

section Steps

variable {manager : RunnerManager}

/-- Everything a tick can do keeps the joint invariant. -/
theorem Joint.handled {cause : Cause} {tick : RunnerTick} {after : RunnerManager}
    (joint : manager.Joint) (offered : manager.Offers cause)
    (handled : manager.Handled cause tick after)
    : after.Joint := by
  have retires {runnerId : RunnerId} {chunk : ChunkState} {chunkPlanner : ChunkPlanner}
      (member : runnerId ∈ manager.lifecycleAggregator.keys)
      (owned : manager.chunkPlanner.Owns runnerId chunk) (wf : chunkPlanner.WellFormed)
      (forgotten
        : ∀ other,
            chunkPlanner.getRunnerState other
            = if other = runnerId then none else manager.chunkPlanner.getRunnerState other)
      (sampler : RunnerOutcomeSampler)
      : (manager.retired runnerId chunkPlanner sampler).Joint := by
    refine joint.retired (joint.allocated_of_owns owned) wf forgotten ?_ joint.rejectedOnce sampler
    intro other
    refine ⟨fun rejected => ⟨?_, rejected⟩, fun rejected => rejected.2⟩
    intro same
    exact joint.exclusive other rejected (same ▸ member)
  cases handled with
  | rejected sampler queued owned =>
      have once := joint.rejectedOnce
      simp only [rejectedRunners, queued, List.map_cons, List.nodup_cons] at once
      refine joint.retired (joint.allocated_of_owns owned)
        (owned.release_wellFormed joint.planner) (owned.getRunnerState_release joint.planner) ?_
        once.2 sampler
      intro other
      simp only [rejectedRunners, queued, List.map_cons, List.mem_cons]
      refine ⟨fun member => ⟨?_, Or.inr member⟩, fun member => member.2.resolve_left member.1⟩
      intro same
      exact once.1 (same ▸ member)
  | started owned pending waiting => exact joint.started owned waiting
  | unconnected sampler owned pending =>
      exact retires offered owned (owned.release_wellFormed joint.planner)
        (owned.getRunnerState_release joint.planner) sampler
  | completed sampler owned running complete =>
      exact retires offered owned (owned.markFinished_wellFormed joint.planner)
        (owned.getRunnerState_finished joint.planner _) sampler
  | failed sampler owned running incomplete =>
      exact retires offered owned (owned.release_wellFormed joint.planner)
        (owned.getRunnerState_release joint.planner) sampler
  | lost sampler owned =>
      exact retires offered owned (owned.release_wellFormed joint.planner)
        (owned.getRunnerState_release joint.planner) sampler
  | @data runnerId item chunk owned running =>
      refine joint.progressed owned (owned.advance_wellFormed joint.planner item.data.length) ?_ ?_
      · simp only [ChunkState.advanced]
        split <;> simp [running]
      · intro other member
        rcases mem_keys_insert.mp member with rfl | before
        · refine Or.inr ⟨rfl, ?_⟩
          rw [joint.isConnecting_eq owned]
          simp [running]
        · exact Or.inl before
  | @dataClosed runnerId =>
      refine ⟨joint.planner, joint.generator, joint.mapped, joint.limited, joint.reported,
        joint.exclusive, joint.rejectedOnce, joint.rejected, joint.ports, joint.connecting, ?_,
        joint.metered⟩
      intro other port found
      simp only [get?_erase] at found
      split at found
      · cases found
      · exact joint.data found

/-- A runtime accepts the spawned runner with its own channels, or rejects it. -/
def spawnWith (outcome : Except SpawnFailed Unit) (_ : RunnerId) (port : Port)
    : Except SpawnFailed RunnerChannels :=
  outcome.map (fun _ => ⟨port, port⟩)

/-- Everything a spawn can do. -/
inductive Spawned (manager : RunnerManager) (range : Range) (port : Port)
    : Except SpawnFailed Unit → Option Unit → RunnerManager → Prop
  | full {outcome : Except SpawnFailed Unit} (none_free : manager.idGenerator.next = none)
    : Spawned manager range port outcome none manager
  | refused {outcome : Except SpawnFailed Unit} {runnerId : RunnerId} {idGenerator : Generator}
    (next : manager.idGenerator.next = some (runnerId, idGenerator))
    (allocates : manager.idGenerator.Allocates runnerId idGenerator)
    (rejects
      : manager.chunkPlanner.allocatePendingChunk range runnerId = (false, manager.chunkPlanner))
    : Spawned manager range port outcome none
        { manager with idGenerator := idGenerator.released runnerId }
  | accepted {runnerId : RunnerId} {idGenerator : Generator}
    (next : manager.idGenerator.next = some (runnerId, idGenerator))
    (allocates : manager.idGenerator.Allocates runnerId idGenerator)
    (free : manager.chunkPlanner.Free range)
    : Spawned manager range port (.ok ()) (some ())
        (manager.spawned runnerId idGenerator range port)
  | rejected {runnerId : RunnerId} {idGenerator : Generator} {failed : SpawnFailed}
    (next : manager.idGenerator.next = some (runnerId, idGenerator))
    (allocates : manager.idGenerator.Allocates runnerId idGenerator)
    (free : manager.chunkPlanner.Free range)
    : Spawned manager range port (.error failed) (some ())
        (manager.rejectedSpawn runnerId idGenerator range port failed)

/-- A spawn never panics, and does what is listed. -/
theorem Joint.spawns (joint : manager.Joint) (range : Range) (port : Port)
    (outcome : Except SpawnFailed Unit)
    : ∃ result after,
        manager.spawnRunnerWithChunk range port (spawnWith outcome) = .ok (result, after)
        ∧ manager.Spawned range port outcome result after := by
  by_cases room : manager.idGenerator.allocatedCount < manager.idGenerator.capacity
  · obtain ⟨runnerId, idGenerator, next, allocates⟩ := Generator.next_of_room joint.generator room
    obtain ⟨-, noSender, noReceiver, noWaiting, noData, -, -⟩ := joint.absent allocates.free
    rcases joint.planner.allocateChunkInner_cases range (some runnerId) .pending
      with rejects | ⟨free, adds⟩
    · refine ⟨none, _, ?_, .refused next allocates rejects⟩
      have mine : idGenerator.isAllocated runnerId = true :=
        (allocates.allocated runnerId).mpr (Or.inl rfl)
      obtain ⟨released, -⟩ := Generator.release_of_allocated allocates.consistent mine
      simp only [spawnRunnerWithChunk, allocateRunner, next, Option.map_some,
        ChunkPlanner.allocatePendingChunk, rejects, releaseRunner, released, Checked.ok_bind,
        erase_insert_self, erase_of_get?_none noSender, erase_of_get?_none noReceiver,
        erase_of_get?_none noWaiting, erase_of_get?_none noData]
      rfl
    · cases outcome with
      | ok accepted =>
          refine ⟨some (), _, ?_, .accepted next allocates free⟩
          have pending
              : (manager.chunkPlanner.addChunk range (some runnerId) .pending).getRunnerState
                  runnerId
                = some (.new range (some runnerId) .pending) := by
            rw [joint.planner.getRunnerState_addChunk free, if_pos rfl]
          simp only [spawnRunnerWithChunk, allocateRunner, next, Option.map_some,
            ChunkPlanner.allocatePendingChunk, adds, spawnWith, Except.map,
            registerRunnerChannels, isConnecting, pending, Option.any_some, ChunkState.new]
          rfl
      | error failed =>
          refine ⟨some (), _, ?_, .rejected next allocates free⟩
          simp only [spawnRunnerWithChunk, allocateRunner, next, Option.map_some,
            ChunkPlanner.allocatePendingChunk, adds, spawnWith, Except.map]
          rfl
  · have full := Generator.next_of_full (not_lt.mp room)
    refine ⟨none, manager, ?_, .full full⟩
    simp only [spawnRunnerWithChunk, allocateRunner, full, Option.map_none]
    rfl

/-- Allocating an identifier and giving it back changes nothing but the search hint. -/
theorem Joint.reissued {runnerId : RunnerId} {idGenerator : Generator} (joint : manager.Joint)
    (allocates : manager.idGenerator.Allocates runnerId idGenerator)
    : Joint { manager with idGenerator := idGenerator.released runnerId } := by
  have mine : idGenerator.isAllocated runnerId = true :=
    (allocates.allocated runnerId).mpr (Or.inl rfl)
  obtain ⟨-, releases⟩ := Generator.release_of_allocated allocates.consistent mine
  have same (other : RunnerId)
      : (idGenerator.released runnerId).isAllocated other = true
        ↔ manager.idGenerator.isAllocated other = true := by
    rw [releases.allocated, allocates.allocated]
    by_cases distinct : other = runnerId
    · subst distinct
      simp [allocates.free]
    · simp [distinct]
  refine ⟨joint.planner, releases.consistent, ?_, ?_, ?_, joint.exclusive, joint.rejectedOnce,
    joint.rejected, joint.ports, joint.connecting, joint.data, ?_⟩
  · exact fun other => (same other).trans (joint.mapped other)
  · exact fun other => (joint.limited other).trans (same other).symm
  · exact fun other => (same other).trans (joint.reported other)
  · exact fun other member =>
      ⟨(same other).mpr (joint.metered other member).1, (joint.metered other member).2⟩

theorem Joint.afterSpawn {range : Range} {port : Port} {outcome : Except SpawnFailed Unit}
    {result : Option Unit} {after : RunnerManager} (joint : manager.Joint)
    (spawned : manager.Spawned range port outcome result after)
    : after.Joint := by
  cases spawned with
  | full none_free => exact joint
  | refused next allocates rejects => exact joint.reissued allocates
  | accepted next allocates free => exact joint.spawned allocates free port
  | rejected next allocates free => exact joint.rejectedSpawn allocates free port _

/-- Everything a resize can do. -/
inductive Resized (manager : RunnerManager) (runnerId : RunnerId) (newSize : Nat)
    (receiving : Bool)
    : Except ResizeError Unit → Option (Port × Nat) → RunnerManager → Prop
  | refused {error : ResizeError}
    : Resized manager runnerId newSize receiving (.error error) none manager
  | unchanged {chunk : ChunkState} (owned : manager.chunkPlanner.Owns runnerId chunk)
    (same : chunk.downloaded.stop + newSize = chunk.allocated.stop)
    : Resized manager runnerId newSize receiving (.ok ()) none manager
  | shrunk {chunk : ChunkState} {port : Port}
    (owned : manager.chunkPlanner.Owns runnerId chunk)
    (nonempty : chunk.allocated.start < chunk.downloaded.stop + newSize)
    (shrinks : chunk.downloaded.stop + newSize < chunk.allocated.stop)
    (sender : manager.limitSenders.get? runnerId = some port) (received : receiving = true)
    : Resized manager runnerId newSize receiving (.ok ())
        (some (port, chunk.downloaded.stop + newSize - chunk.allocated.start))
        { manager with
          chunkPlanner :=
            manager.chunkPlanner.withChunk chunk.allocated.start
              (chunk.cutAt (chunk.downloaded.stop + newSize)) }

/-- A resize over a well-formed planner never panics, and does what is listed. -/
theorem resizes_of_wellFormed (wf : manager.chunkPlanner.WellFormed) (runnerId : RunnerId)
    (newSize : Nat) (receiving : Bool)
    : ∃ result sent after,
        manager.resizeRunner runnerId newSize receiving = .ok (result, sent, after)
        ∧ manager.Resized runnerId newSize receiving result sent after := by
  rcases wf.unmapped_or_owns runnerId with unmapped | ⟨chunk, owned⟩
  · refine ⟨.error (.planner (.runnerNotFound runnerId)), none, manager, ?_, .refused⟩
    simp only [resizeRunner, ChunkPlanner.resizeRunnerState_of_unmapped unmapped,
      Checked.ok_bind]
    rfl
  rcases owned.resizeRunnerState_cases wf newSize
    with ⟨invalid, -⟩ | ⟨unchanged, same⟩ | ⟨shrunk, nonempty, shrinks⟩
  · refine ⟨.error (.planner (.invalidResize runnerId newSize)), none, manager, ?_, .refused⟩
    simp only [resizeRunner, invalid, Checked.ok_bind]
    rfl
  · refine ⟨_, _, _, ?_, .unchanged owned same⟩
    simp only [resizeRunner, unchanged, Checked.ok_bind]
    rfl
  · have inside := (wf.shaped owned.found).inside
    have representable := wf.representable
    have representableLimit
        : chunk.downloaded.stop + newSize - chunk.allocated.start ≠ u64Size - 1 := by
      omega
    have sends
        : sendLimit receiving (chunk.downloaded.stop + newSize - chunk.allocated.start)
          = .ok receiving :=
      if_neg representableLimit
    cases sender : manager.limitSenders.get? runnerId with
    | none =>
        refine ⟨.error (.limit (.runnerNotFound runnerId)), none, manager, ?_, .refused⟩
        simp only [resizeRunner, shrunk, Checked.ok_bind, sender]
        rfl
    | some port =>
        cases receiving with
        | true =>
            refine ⟨_, _, _, ?_, .shrunk owned nonempty shrinks sender rfl⟩
            simp only [resizeRunner, shrunk, Checked.ok_bind, sender, sends, if_true]
            rfl
        | false =>
            refine ⟨.error (.limit (.receiverGone runnerId)), none, manager, ?_, .refused⟩
            simp only [resizeRunner, shrunk, Checked.ok_bind, sender, sends]
            rfl

theorem Joint.resizes (joint : manager.Joint) (runnerId : RunnerId) (newSize : Nat)
    (receiving : Bool)
    : ∃ result sent after,
        manager.resizeRunner runnerId newSize receiving = .ok (result, sent, after)
        ∧ manager.Resized runnerId newSize receiving result sent after :=
  resizes_of_wellFormed joint.planner runnerId newSize receiving

theorem Joint.afterResize {runnerId : RunnerId} {newSize : Nat} {receiving : Bool}
    {result : Except ResizeError Unit} {sent : Option (Port × Nat)} {after : RunnerManager}
    (joint : manager.Joint)
    (resized : manager.Resized runnerId newSize receiving result sent after)
    : after.Joint := by
  cases resized with
  | refused => exact joint
  | unchanged owned same => exact joint
  | shrunk owned nonempty shrinks sender received =>
      refine joint.progressed owned ?_ Iff.rfl (fun other member => Or.inl member)
      exact owned.cutAt_wellFormed joint.planner nonempty (Nat.le_add_right _ _) shrinks.le

end Steps

end RunnerManager

end BoltLoad
