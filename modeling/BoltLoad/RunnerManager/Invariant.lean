import BoltLoad.ChunkPlanner.Owners
import BoltLoad.RunnerManager.Model

/-! The joint invariant of the manager's collections, and the four changes its paths come
down to: a runner spawned or rejected, started, progressing, and retired.
-/

namespace BoltLoad

open OrderedMap

namespace RunnerManager

/-- The runners whose spawn was rejected and not reported yet. -/
def rejectedRunners (manager : RunnerManager) : List RunnerId :=
  manager.spawnFailures.map Prod.fst

/-- The collections of the manager agree on the allocated runners: each has a chunk, a limit
mailbox, and either a lifecycle receiver or a queued spawn failure; its data receiver waits
while it connects, and is polled, like its meter, only once it started.
-/
structure Joint (manager : RunnerManager) : Prop where
  planner : manager.chunkPlanner.WellFormed
  generator : manager.idGenerator.Consistent
  mapped
    : ∀ runnerId,
        manager.idGenerator.isAllocated runnerId = true
        ↔ ∃ chunk, manager.chunkPlanner.getRunnerState runnerId = some chunk
  limited
    : ∀ runnerId,
        runnerId ∈ manager.limitSenders.keys ↔ manager.idGenerator.isAllocated runnerId = true
  reported
    : ∀ runnerId,
        manager.idGenerator.isAllocated runnerId = true
        ↔ runnerId ∈ manager.lifecycleAggregator.keys ∨ runnerId ∈ manager.rejectedRunners
  exclusive : ∀ runnerId ∈ manager.rejectedRunners, runnerId ∉ manager.lifecycleAggregator.keys
  rejectedOnce : manager.rejectedRunners.Nodup
  rejected : ∀ runnerId ∈ manager.rejectedRunners, manager.isConnecting runnerId = true
  ports
    : ∀ {runnerId port},
        manager.lifecycleAggregator.get? runnerId = some port
        → manager.limitSenders.get? runnerId = some port
  connecting
    : ∀ {runnerId port},
        manager.connectingData.get? runnerId = some port
        ↔ manager.lifecycleAggregator.get? runnerId = some port
          ∧ manager.isConnecting runnerId = true
  data
    : ∀ {runnerId port},
        manager.dataAggregator.get? runnerId = some port
        → manager.lifecycleAggregator.get? runnerId = some port
          ∧ manager.isConnecting runnerId = false
  metered
    : ∀ runnerId ∈ manager.meters.keys,
        manager.idGenerator.isAllocated runnerId = true
        ∧ manager.isConnecting runnerId = false

/-- A manager starts without runners. -/
theorem Joint.new {total : Nat} (representable : total < u64Size) (maxConcurrency : Nat)
    : (RunnerManager.new total maxConcurrency).Joint where
  planner := .new representable
  generator := Generator.consistent_new maxConcurrency
  mapped runnerId := by
    simp [RunnerManager.new, Generator.isAllocated_new, ChunkPlanner.getRunnerState,
      ChunkPlanner.new]
  limited runnerId := by
    simp [RunnerManager.new, Generator.isAllocated_new, mem_keys_iff]
  reported runnerId := by
    simp [RunnerManager.new, Generator.isAllocated_new, mem_keys_iff, rejectedRunners]
  exclusive runnerId member := by cases member
  rejectedOnce := List.nodup_nil
  rejected runnerId member := by cases member
  ports found := by cases found
  connecting := by simp [RunnerManager.new]
  data found := by cases found
  metered runnerId member := by cases member

-----------------------------------------------------------------------------------------
-- Reading the invariant
-----------------------------------------------------------------------------------------

section Reading

variable {manager : RunnerManager} {runnerId : RunnerId} {chunk : ChunkState}

/-- A runner is connecting exactly while its chunk is pending. -/
theorem isConnecting_of_state
    (state : manager.chunkPlanner.getRunnerState runnerId = some chunk)
    : manager.isConnecting runnerId = decide (chunk.status = .pending) := by
  simp [isConnecting, state, beq_eq_decide]

theorem Joint.owned (joint : manager.Joint)
    (allocated : manager.idGenerator.isAllocated runnerId = true)
    : ∃ chunk, manager.chunkPlanner.Owns runnerId chunk := by
  obtain ⟨chunk, state⟩ := (joint.mapped runnerId).mp allocated
  exact ⟨chunk, (ChunkPlanner.getRunnerState_eq_some_iff joint.planner).mp state⟩

theorem Joint.allocated_of_owns (joint : manager.Joint)
    (owned : manager.chunkPlanner.Owns runnerId chunk)
    : manager.idGenerator.isAllocated runnerId = true :=
  (joint.mapped runnerId).mpr
    ⟨chunk, (ChunkPlanner.getRunnerState_eq_some_iff joint.planner).mpr owned⟩

theorem Joint.isConnecting_eq (joint : manager.Joint)
    (owned : manager.chunkPlanner.Owns runnerId chunk)
    : manager.isConnecting runnerId = decide (chunk.status = .pending) :=
  isConnecting_of_state ((ChunkPlanner.getRunnerState_eq_some_iff joint.planner).mpr owned)

theorem Joint.allocated_of_lifecycle (joint : manager.Joint)
    (member : runnerId ∈ manager.lifecycleAggregator.keys)
    : manager.idGenerator.isAllocated runnerId = true :=
  (joint.reported runnerId).mpr (Or.inl member)

/-- A free identifier is in none of the collections. -/
theorem Joint.absent (joint : manager.Joint)
    (free : manager.idGenerator.isAllocated runnerId = false)
    : manager.chunkPlanner.getRunnerState runnerId = none
      ∧ manager.limitSenders.get? runnerId = none
      ∧ manager.lifecycleAggregator.get? runnerId = none
      ∧ manager.connectingData.get? runnerId = none
      ∧ manager.dataAggregator.get? runnerId = none
      ∧ runnerId ∉ manager.rejectedRunners
      ∧ runnerId ∉ manager.meters.keys := by
  have unallocated : ¬ manager.idGenerator.isAllocated runnerId = true := by simp [free]
  have lifecycle : runnerId ∉ manager.lifecycleAggregator.keys :=
    fun member => unallocated (joint.allocated_of_lifecycle member)
  have noReceiver := get?_of_not_mem_keys lifecycle
  refine ⟨?_, ?_, noReceiver, ?_, ?_, ?_, ?_⟩
  · cases state : manager.chunkPlanner.getRunnerState runnerId with
    | none => rfl
    | some chunk => exact absurd ((joint.mapped runnerId).mpr ⟨chunk, state⟩) unallocated
  · exact get?_of_not_mem_keys (fun member => unallocated ((joint.limited runnerId).mp member))
  · cases found : manager.connectingData.get? runnerId with
    | none => rfl
    | some port =>
        have receiver := (joint.connecting.mp found).1
        rw [noReceiver] at receiver
        cases receiver
  · cases found : manager.dataAggregator.get? runnerId with
    | none => rfl
    | some port =>
        have receiver := (joint.data found).1
        rw [noReceiver] at receiver
        cases receiver
  · exact fun member => unallocated ((joint.reported runnerId).mpr (Or.inr member))
  · exact fun member => unallocated (joint.metered runnerId member).1

end Reading

-----------------------------------------------------------------------------------------
-- Changing the manager
-----------------------------------------------------------------------------------------

/-- The manager without a runner, which left the planner and the sampler behind like this. -/
def retired (manager : RunnerManager) (runnerId : RunnerId) (chunkPlanner : ChunkPlanner)
    (runnerOutcomeSampler : RunnerOutcomeSampler)
    : RunnerManager :=
  { manager with
    idGenerator := manager.idGenerator.released runnerId
    chunkPlanner
    limitSenders := manager.limitSenders.erase runnerId
    runnerOutcomeSampler
    lifecycleAggregator := manager.lifecycleAggregator.erase runnerId
    connectingData := manager.connectingData.erase runnerId
    dataAggregator := manager.dataAggregator.erase runnerId
    meters := manager.meters.erase runnerId }

/-- The manager once a connecting runner started. -/
def started (manager : RunnerManager) (runnerId : RunnerId) (chunk : ChunkState) (dataRx : Port)
    : RunnerManager :=
  { manager with
    chunkPlanner :=
      manager.chunkPlanner.withChunk chunk.allocated.start { chunk with status := .running }
    connectingData := manager.connectingData.erase runnerId
    dataAggregator := manager.dataAggregator.insert runnerId dataRx }

/-- The manager once a runner was spawned for `range`. -/
def spawned (manager : RunnerManager) (runnerId : RunnerId) (idGenerator : Generator)
    (range : Range) (port : Port)
    : RunnerManager :=
  { manager with
    idGenerator
    chunkPlanner := manager.chunkPlanner.addChunk range (some runnerId) .pending
    limitSenders := manager.limitSenders.insert runnerId port
    lifecycleAggregator := manager.lifecycleAggregator.insert runnerId port
    connectingData := manager.connectingData.insert runnerId port }

/-- The manager once a runner's spawn for `range` was rejected. -/
def rejectedSpawn (manager : RunnerManager) (runnerId : RunnerId) (idGenerator : Generator)
    (range : Range) (port : Port) (failed : SpawnFailed)
    : RunnerManager :=
  { manager with
    idGenerator
    chunkPlanner := manager.chunkPlanner.addChunk range (some runnerId) .pending
    limitSenders := manager.limitSenders.insert runnerId port
    spawnFailures := manager.spawnFailures ++ [(runnerId, failed)] }

section Changing

variable {manager : RunnerManager} {runnerId : RunnerId}

theorem isConnecting_congr {before after : RunnerManager} {other : RunnerId}
    (same
      : after.chunkPlanner.getRunnerState other = before.chunkPlanner.getRunnerState other)
    : after.isConnecting other = before.isConnecting other := by
  simp only [isConnecting, same]

/-- Retiring a runner leaves the collections to the others: the planner has forgotten it, and
so has the queue of rejected spawns.
-/
theorem Joint.retired (joint : manager.Joint)
    (allocated : manager.idGenerator.isAllocated runnerId = true) {chunkPlanner : ChunkPlanner}
    (wf : chunkPlanner.WellFormed)
    (forgotten
      : ∀ other,
          chunkPlanner.getRunnerState other
          = if other = runnerId then none else manager.chunkPlanner.getRunnerState other)
    {spawnFailures : List (RunnerId × SpawnFailed)}
    (queue
      : ∀ other,
          other ∈ spawnFailures.map Prod.fst ↔ other ≠ runnerId ∧ other ∈ manager.rejectedRunners)
    (once : (spawnFailures.map Prod.fst).Nodup) (runnerOutcomeSampler : RunnerOutcomeSampler)
    : Joint
        { manager.retired runnerId chunkPlanner runnerOutcomeSampler with spawnFailures } := by
  obtain ⟨-, releases⟩ := Generator.release_of_allocated joint.generator allocated
  have connects (other : RunnerId) (distinct : other ≠ runnerId)
      : isConnecting
          { manager.retired runnerId chunkPlanner runnerOutcomeSampler with spawnFailures } other
        = manager.isConnecting other :=
    isConnecting_congr (by
      have state := forgotten other
      rwa [if_neg distinct] at state)
  refine ⟨wf, releases.consistent, ?_, ?_, ?_, ?_, once, ?_, ?_, ?_, ?_, ?_⟩
  · intro other
    have state := forgotten other
    simp only [RunnerManager.retired, releases.allocated, state]
    by_cases same : other = runnerId
    · simp [same]
    · simp [same, joint.mapped other]
  · intro other
    simp only [RunnerManager.retired, mem_keys_erase, releases.allocated, joint.limited]
  · intro other
    simp only [RunnerManager.retired, rejectedRunners, mem_keys_erase, releases.allocated, queue,
      joint.reported]
    tauto
  · intro other member
    have rejected := (queue other).mp member
    simp only [RunnerManager.retired, mem_keys_erase, not_and]
    exact fun _ => joint.exclusive other rejected.2
  · intro other member
    have rejected := (queue other).mp member
    rw [connects other rejected.1]
    exact joint.rejected other rejected.2
  · intro other port found
    simp only [RunnerManager.retired, get?_erase] at found ⊢
    split at found
    · cases found
    · rename_i distinct
      rw [if_neg distinct]
      exact joint.ports found
  · intro other port
    by_cases same : other = runnerId
    · subst same
      simp [RunnerManager.retired]
    · rw [connects other same]
      simp only [RunnerManager.retired, get?_erase_of_ne _ same]
      exact joint.connecting
  · intro other port found
    by_cases same : other = runnerId
    · subst same
      simp [RunnerManager.retired] at found
    · rw [connects other same]
      simp only [RunnerManager.retired, get?_erase_of_ne _ same] at found ⊢
      exact joint.data found
  · intro other member
    simp only [RunnerManager.retired, mem_keys_erase] at member
    rw [connects other member.1]
    have metered := joint.metered other member.2
    exact ⟨(releases.allocated other).mpr ⟨member.1, metered.1⟩, metered.2⟩

/-- A started runner's data is polled from now on. -/
theorem Joint.started {chunk : ChunkState} {dataRx : Port} (joint : manager.Joint)
    (owned : manager.chunkPlanner.Owns runnerId chunk)
    (waiting : manager.connectingData.get? runnerId = some dataRx)
    : (manager.started runnerId chunk dataRx).Joint := by
  obtain ⟨receiver, -⟩ := joint.connecting.mp waiting
  have state (other : RunnerId)
      : (manager.started runnerId chunk dataRx).chunkPlanner.getRunnerState other
        = if other = runnerId then some { chunk with status := .running }
          else manager.chunkPlanner.getRunnerState other :=
    owned.getRunnerState_withChunk joint.planner _ other
  have running : (manager.started runnerId chunk dataRx).isConnecting runnerId = false := by
    have mine := state runnerId
    rw [if_pos rfl] at mine
    simp [isConnecting_of_state mine]
  have connects (other : RunnerId) (distinct : other ≠ runnerId)
      : (manager.started runnerId chunk dataRx).isConnecting other = manager.isConnecting other :=
    isConnecting_congr (by
      have theirs := state other
      rwa [if_neg distinct] at theirs)
  refine ⟨owned.markRunning_wellFormed joint.planner, joint.generator, ?_, joint.limited,
    joint.reported, joint.exclusive, joint.rejectedOnce, ?_, joint.ports, ?_, ?_, ?_⟩
  · intro other
    by_cases same : other = runnerId
    · subst same
      have allocated := joint.allocated_of_owns owned
      have mine := state other
      rw [if_pos rfl] at mine
      exact ⟨fun _ => ⟨_, mine⟩, fun _ => allocated⟩
    · have theirs := state other
      rw [if_neg same] at theirs
      rw [theirs]
      exact joint.mapped other
  · intro other member
    have distinct : other ≠ runnerId := by
      intro same
      subst same
      exact joint.exclusive other member (mem_keys_iff.mpr ⟨_, receiver⟩)
    rw [connects other distinct]
    exact joint.rejected other member
  · intro other port
    by_cases same : other = runnerId
    · subst same
      rw [running]
      simp [RunnerManager.started]
    · rw [connects other same]
      simp only [RunnerManager.started, get?_erase_of_ne _ same]
      exact joint.connecting
  · intro other port found
    by_cases same : other = runnerId
    · subst same
      simp only [RunnerManager.started, get?_insert_self] at found
      cases found
      exact ⟨receiver, running⟩
    · rw [connects other same]
      simp only [RunnerManager.started, get?_insert_of_ne _ _ same] at found
      exact joint.data found
  · intro other member
    have metered := joint.metered other member
    refine ⟨metered.1, ?_⟩
    by_cases same : other = runnerId
    · exact same ▸ running
    · rw [connects other same]
      exact metered.2

/-- A runner's chunk may change in place, if the runner does not start or stop connecting. -/
theorem Joint.progressed {chunk replacement : ChunkState} {acceptedBytes : Nat}
    {meters : OrderedMap RunnerId Nat} (joint : manager.Joint)
    (owned : manager.chunkPlanner.Owns runnerId chunk)
    (wf
      : ChunkPlanner.WellFormed
          { manager.chunkPlanner with
            chunks := manager.chunkPlanner.chunks.insert chunk.allocated.start replacement
            acceptedBytes })
    (phase : replacement.status = .pending ↔ chunk.status = .pending)
    (metered
      : ∀ other ∈ meters.keys, other ∈ manager.meters.keys
          ∨ other = runnerId ∧ manager.isConnecting runnerId = false)
    : Joint
        { manager with
          chunkPlanner :=
            { manager.chunkPlanner with
              chunks := manager.chunkPlanner.chunks.insert chunk.allocated.start replacement
              acceptedBytes }
          meters } := by
  have state (other : RunnerId) :=
    owned.getRunnerState_replaced joint.planner replacement acceptedBytes other
  have connects (other : RunnerId)
      : isConnecting
          { manager with
            chunkPlanner :=
              { manager.chunkPlanner with
                chunks := manager.chunkPlanner.chunks.insert chunk.allocated.start replacement
                acceptedBytes }
            meters } other
        = manager.isConnecting other := by
    by_cases same : other = runnerId
    · subst same
      have mine := state other
      rw [if_pos rfl] at mine
      rw [joint.isConnecting_eq owned, isConnecting_of_state mine]
      simp [phase]
    · have theirs := state other
      rw [if_neg same] at theirs
      exact isConnecting_congr theirs
  refine ⟨wf, joint.generator, ?_, joint.limited, joint.reported, joint.exclusive,
    joint.rejectedOnce, ?_, joint.ports, ?_, ?_, ?_⟩
  · intro other
    rw [joint.mapped other, state other]
    by_cases same : other = runnerId
    · subst same
      simp [(ChunkPlanner.getRunnerState_eq_some_iff joint.planner).mpr owned]
    · simp [same]
  · intro other member
    rw [connects other]
    exact joint.rejected other member
  · intro other port
    rw [connects other]
    exact joint.connecting
  · intro other port found
    rw [connects other]
    exact joint.data found
  · intro other member
    rw [connects other]
    rcases metered other member with before | ⟨rfl, running⟩
    · exact joint.metered other before
    · exact ⟨joint.allocated_of_owns owned, running⟩

section Allocation

variable {idGenerator : Generator} {range : Range}

/-- What a newly allocated runner changes for itself and for the others. -/
theorem Joint.allocation_state (joint : manager.Joint)
    (allocates : manager.idGenerator.Allocates runnerId idGenerator)
    (free : manager.chunkPlanner.Free range)
    : (manager.chunkPlanner.addChunk range (some runnerId) .pending).WellFormed
      ∧ (∀ other,
          (manager.chunkPlanner.addChunk range (some runnerId) .pending).getRunnerState other
          = if other = runnerId then some (.new range (some runnerId) .pending)
            else manager.chunkPlanner.getRunnerState other) := by
  have stateless := (joint.absent allocates.free).1
  refine ⟨joint.planner.add free _ _ ?_ (fun _ => rfl),
    fun other => joint.planner.getRunnerState_addChunk free .pending other⟩
  intro id same
  cases same
  exact joint.planner.unmapped_of_stateless stateless

/-- A spawned runner is connecting, with all its channels registered. -/
theorem Joint.spawned (joint : manager.Joint)
    (allocates : manager.idGenerator.Allocates runnerId idGenerator)
    (free : manager.chunkPlanner.Free range) (port : Port)
    : (manager.spawned runnerId idGenerator range port).Joint := by
  obtain ⟨wf, state⟩ := joint.allocation_state allocates free
  obtain ⟨-, -, -, -, noData, notRejected, notMetered⟩ := joint.absent allocates.free
  have mine : (manager.spawned runnerId idGenerator range port).isConnecting runnerId = true := by
    have pending := state runnerId
    rw [if_pos rfl] at pending
    simp [RunnerManager.spawned, isConnecting, pending, ChunkState.new]
  have connects (other : RunnerId) (distinct : other ≠ runnerId)
      : (manager.spawned runnerId idGenerator range port).isConnecting other
        = manager.isConnecting other :=
    isConnecting_congr (by
      have theirs := state other
      rwa [if_neg distinct] at theirs)
  refine ⟨wf, allocates.consistent, ?_, ?_, ?_, ?_, joint.rejectedOnce, ?_, ?_, ?_, ?_, ?_⟩
  · intro other
    simp only [RunnerManager.spawned, allocates.allocated, state, joint.mapped]
    by_cases same : other = runnerId <;> simp [same]
  · intro other
    simp only [RunnerManager.spawned, mem_keys_insert, allocates.allocated, joint.limited]
  · intro other
    simp only [RunnerManager.spawned, rejectedRunners, mem_keys_insert, allocates.allocated,
      joint.reported]
    tauto
  · intro other member
    have distinct : other ≠ runnerId := fun same => notRejected (same ▸ member)
    simp only [RunnerManager.spawned, mem_keys_insert, distinct, false_or]
    exact joint.exclusive other member
  · intro other member
    have distinct : other ≠ runnerId := fun same => notRejected (same ▸ member)
    rw [connects other distinct]
    exact joint.rejected other member
  · intro other found
    simp only [RunnerManager.spawned, get?_insert]
    split
    · exact id
    · exact joint.ports
  · intro other found
    by_cases same : other = runnerId
    · subst same
      rw [mine]
      simp [RunnerManager.spawned]
    · rw [connects other same]
      simp only [RunnerManager.spawned, get?_insert_of_ne _ _ same]
      exact joint.connecting
  · intro other found registered
    have distinct : other ≠ runnerId := by
      intro same
      subst same
      simp only [RunnerManager.spawned] at registered
      rw [noData] at registered
      cases registered
    rw [connects other distinct]
    simp only [RunnerManager.spawned, get?_insert_of_ne _ _ distinct]
    exact joint.data registered
  · intro other member
    have distinct : other ≠ runnerId := fun same => notMetered (same ▸ member)
    have metered := joint.metered other member
    rw [connects other distinct]
    exact ⟨(allocates.allocated other).mpr (Or.inr metered.1), metered.2⟩

/-- A rejected runner keeps its chunk until its failure is reported. -/
theorem Joint.rejectedSpawn (joint : manager.Joint)
    (allocates : manager.idGenerator.Allocates runnerId idGenerator)
    (free : manager.chunkPlanner.Free range) (port : Port) (failed : SpawnFailed)
    : (manager.rejectedSpawn runnerId idGenerator range port failed).Joint := by
  obtain ⟨wf, state⟩ := joint.allocation_state allocates free
  obtain ⟨-, -, noReceiver, noWaiting, noData, notRejected, notMetered⟩ :=
    joint.absent allocates.free
  have mine
      : (manager.rejectedSpawn runnerId idGenerator range port failed).isConnecting runnerId
        = true := by
    have pending := state runnerId
    rw [if_pos rfl] at pending
    simp [RunnerManager.rejectedSpawn, isConnecting, pending, ChunkState.new]
  have connects (other : RunnerId) (distinct : other ≠ runnerId)
      : (manager.rejectedSpawn runnerId idGenerator range port failed).isConnecting other
        = manager.isConnecting other :=
    isConnecting_congr (by
      have theirs := state other
      rwa [if_neg distinct] at theirs)
  have queue (other : RunnerId)
      : other ∈ (manager.rejectedSpawn runnerId idGenerator range port failed).rejectedRunners
        ↔ other ∈ manager.rejectedRunners ∨ other = runnerId := by
    simp [RunnerManager.rejectedSpawn, rejectedRunners]
  refine ⟨wf, allocates.consistent, ?_, ?_, ?_, ?_, ?_, ?_, ?_, ?_, ?_, ?_⟩
  · intro other
    simp only [RunnerManager.rejectedSpawn, allocates.allocated, state, joint.mapped]
    by_cases same : other = runnerId <;> simp [same]
  · intro other
    simp only [RunnerManager.rejectedSpawn, mem_keys_insert, allocates.allocated, joint.limited]
  · intro other
    rw [queue]
    simp only [RunnerManager.rejectedSpawn, allocates.allocated, joint.reported]
    tauto
  · intro other member
    rcases (queue other).mp member with before | rfl
    · exact joint.exclusive other before
    · intro registered
      obtain ⟨_, found⟩ := mem_keys_iff.mp registered
      simp only [RunnerManager.rejectedSpawn] at found
      rw [noReceiver] at found
      cases found
  · have once := joint.rejectedOnce
    simp only [RunnerManager.rejectedSpawn, rejectedRunners, List.map_append, List.map_cons,
      List.map_nil] at once notRejected ⊢
    exact List.nodup_append_comm.mp (List.nodup_cons.mpr ⟨notRejected, once⟩)
  · intro other member
    by_cases same : other = runnerId
    · exact same ▸ mine
    · rw [connects other same]
      exact joint.rejected other (((queue other).mp member).resolve_right same)
  · intro other registered found
    have distinct : other ≠ runnerId := by
      intro same
      subst same
      simp only [RunnerManager.rejectedSpawn] at found
      rw [noReceiver] at found
      cases found
    simp only [RunnerManager.rejectedSpawn, get?_insert_of_ne _ _ distinct]
    exact joint.ports found
  · intro other registered
    by_cases same : other = runnerId
    · subst same
      simp [RunnerManager.rejectedSpawn, noReceiver, noWaiting]
    · rw [connects other same]
      exact joint.connecting
  · intro other registered found
    have distinct : other ≠ runnerId := by
      intro same
      subst same
      simp only [RunnerManager.rejectedSpawn] at found
      rw [noData] at found
      cases found
    rw [connects other distinct]
    exact joint.data found
  · intro other member
    have distinct : other ≠ runnerId := fun same => notMetered (same ▸ member)
    have metered := joint.metered other member
    rw [connects other distinct]
    exact ⟨(allocates.allocated other).mpr (Or.inr metered.1), metered.2⟩

end Allocation

end Changing

end RunnerManager

end BoltLoad
