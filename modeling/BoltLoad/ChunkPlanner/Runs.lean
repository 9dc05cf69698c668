import BoltLoad.Library.Machine
import BoltLoad.ChunkPlanner.Operations

/-! Runs of the planner: any of its public operations in any order and with any arguments,
except that a runner is never given a second chunk while it is mapped to one.
-/

namespace BoltLoad

open OrderedMap

namespace ChunkPlanner

/-- A public operation with its arguments; `configure` sets the two public limits. -/
inductive Operation
  | configure (minChunkSize : Nat) (maxChunkCount : Option Nat)
  | allocateChunk (range : Range) (runnerId : Option RunnerId)
  | allocatePendingChunk (range : Range) (runnerId : RunnerId)
  | allocateIdleChunk (range : Range)
  | updateProgress (runnerId : RunnerId) (bytesDownloaded : Nat)
  | markRunning (runnerId : RunnerId)
  | markFinished (runnerId : RunnerId)
  | markFailed (runnerId : RunnerId)
  | splitChunk (runnerId : RunnerId) (splitPos : Nat) (newRunnerId : RunnerId)
  | resizeRunnerState (runnerId : RunnerId) (newSize : Nat)
  deriving DecidableEq, Repr

/-- The runner an operation gives a new chunk to. -/
def Operation.newRunner : Operation → Option RunnerId
  | .allocateChunk _ runnerId => runnerId
  | .allocatePendingChunk _ runnerId => some runnerId
  | .splitChunk _ _ newRunnerId => some newRunnerId
  | _ => none

/-- The planner an operation leaves behind. -/
def perform (planner : ChunkPlanner) : Operation → Checked ChunkPlanner
  | .configure minChunkSize maxChunkCount => .ok { planner with minChunkSize, maxChunkCount }
  | .allocateChunk range runnerId => .ok (planner.allocateChunk range runnerId).2
  | .allocatePendingChunk range runnerId => .ok (planner.allocatePendingChunk range runnerId).2
  | .allocateIdleChunk range => .ok (planner.allocateIdleChunk range).2
  | .updateProgress runnerId bytes => (planner.updateProgress runnerId bytes).map Prod.snd
  | .markRunning runnerId => .ok (planner.markRunning runnerId).2
  | .markFinished runnerId => .ok (planner.markFinished runnerId).2
  | .markFailed runnerId => .ok (planner.markFailed runnerId).2
  | .splitChunk runnerId splitPos newRunnerId =>
      .ok (planner.splitChunk runnerId splitPos newRunnerId).2
  | .resizeRunnerState runnerId newSize => (planner.resizeRunnerState runnerId newSize).map Prod.snd

/-- A new chunk is only given to a runner that is not mapped. -/
def Admits (planner : ChunkPlanner) (operation : Operation) : Prop :=
  ∀ runnerId ∈ operation.newRunner, planner.runnerToChunk.get? runnerId = none

instance (planner : ChunkPlanner) (operation : Operation) : Decidable (planner.Admits operation) :=
  inferInstanceAs (Decidable (∀ runnerId ∈ operation.newRunner, _))

/-- The planner of a file whose size is a `u64`, under any admitted operations. -/
def machine : Machine ChunkPlanner Operation Panic where
  Initial planner := ∃ total < u64Size, planner = ChunkPlanner.new total
  Enabled := Admits
  next := perform

instance (planner : ChunkPlanner) (operation : Operation)
    : Decidable (machine.Enabled planner operation) :=
  inferInstanceAs (Decidable (planner.Admits operation))

-----------------------------------------------------------------------------------------
-- What an operation can make of a planner
-----------------------------------------------------------------------------------------

/-- The planners an admitted operation can leave behind. -/
inductive Changes (planner : ChunkPlanner) : ChunkPlanner → Prop
  | unchanged : Changes planner planner
  | configured (minChunkSize : Nat) (maxChunkCount : Option Nat)
    : Changes planner { planner with minChunkSize, maxChunkCount }
  | added {range : Range} {runnerId : Option RunnerId} {status : ChunkStatus}
    (free : planner.Free range)
    (fresh : ∀ id, runnerId = some id → planner.runnerToChunk.get? id = none)
    (owner : status.isActive = true → runnerId.isSome = true)
    : Changes planner (planner.addChunk range runnerId status)
  | advanced {runnerId : RunnerId} {chunk : ChunkState} (owned : planner.Owns runnerId chunk)
    (bytes : Nat)
    : Changes planner (planner.advance chunk bytes)
  | started {runnerId : RunnerId} {chunk : ChunkState} (owned : planner.Owns runnerId chunk)
    : Changes planner
        (planner.withChunk chunk.allocated.start { chunk with status := .running })
  | finished {runnerId : RunnerId} {chunk : ChunkState} (owned : planner.Owns runnerId chunk)
    : Changes planner
        ((planner.forget runnerId).withChunk chunk.allocated.start
          { chunk with status := .finished })
  | released {runnerId : RunnerId} {chunk : ChunkState} (owned : planner.Owns runnerId chunk)
    : Changes planner (planner.release runnerId chunk)
  | cut {runnerId : RunnerId} {chunk : ChunkState} {stop : Nat}
    (owned : planner.Owns runnerId chunk) (nonempty : chunk.allocated.start < stop)
    (keeps : chunk.downloaded.stop ≤ stop) (shrinks : stop ≤ chunk.allocated.stop)
    : Changes planner (planner.withChunk chunk.allocated.start (chunk.cutAt stop))
  | divided {runnerId newRunnerId : RunnerId} {chunk : ChunkState} {stop : Nat}
    (owned : planner.Owns runnerId chunk) (inner : chunk.downloaded.stop < stop)
    (shrinks : stop < chunk.allocated.stop)
    (fresh : planner.runnerToChunk.get? newRunnerId = none)
    : Changes planner (planner.divide chunk stop newRunnerId)

/-- Allocating adds a chunk of a free range or changes nothing. -/
theorem WellFormed.allocateChunkInner_changes {planner : ChunkPlanner}
    (wf : planner.WellFormed) (range : Range) (runnerId : Option RunnerId)
    (status : ChunkStatus)
    (fresh : ∀ id, runnerId = some id → planner.runnerToChunk.get? id = none)
    (owner : status.isActive = true → runnerId.isSome = true)
    : planner.Changes (planner.allocateChunkInner range runnerId status).2 := by
  rcases wf.allocateChunkInner_cases range runnerId status with rejected | ⟨free, accepted⟩
  · rw [rejected]
    exact .unchanged
  · rw [accepted]
    exact .added free fresh owner

/-- An admitted operation on a well-formed planner ends without panic in one of these
planners, by cases on the operation and on whether its runner is mapped.
-/
theorem WellFormed.perform_changes {planner : ChunkPlanner} (wf : planner.WellFormed)
    {operation : Operation} (admitted : planner.Admits operation)
    : ∃ after, planner.perform operation = .ok after ∧ planner.Changes after := by
  cases operation with
  | configure minChunkSize maxChunkCount => exact ⟨_, rfl, .configured _ _⟩
  | allocateChunk range runnerId =>
      refine ⟨_, rfl, ?_⟩
      cases runnerId with
      | none =>
          exact wf.allocateChunkInner_changes range none .idle (by simp)
            (by simp [ChunkStatus.isActive])
      | some id =>
          exact wf.allocateChunkInner_changes range (some id) .pending
            (fun other named => admitted other named) (fun _ => rfl)
  | allocatePendingChunk range runnerId =>
      exact ⟨_, rfl, wf.allocateChunkInner_changes range (some runnerId) .pending
        (fun other named => admitted other named) (fun _ => rfl)⟩
  | allocateIdleChunk range =>
      exact ⟨_, rfl, wf.allocateChunkInner_changes range none .idle (by simp)
        (by simp [ChunkStatus.isActive])⟩
  | updateProgress runnerId bytes =>
      rcases wf.unmapped_or_owns runnerId with unmapped | ⟨chunk, owned⟩
      · refine ⟨planner, ?_, .unchanged⟩
        simp only [ChunkPlanner.perform, updateProgress_of_unmapped unmapped]
        rfl
      · refine ⟨planner.advance chunk bytes, ?_, .advanced owned bytes⟩
        simp only [ChunkPlanner.perform, owned.updateProgress_eq wf]
        rfl
  | markRunning runnerId =>
      refine ⟨_, rfl, ?_⟩
      rcases wf.unmapped_or_owns runnerId with unmapped | ⟨chunk, owned⟩
      · rw [(mark_of_unmapped unmapped).1]
        exact .unchanged
      · rw [owned.markRunning_eq]
        exact .started owned
  | markFinished runnerId =>
      refine ⟨_, rfl, ?_⟩
      rcases wf.unmapped_or_owns runnerId with unmapped | ⟨chunk, owned⟩
      · rw [(mark_of_unmapped unmapped).2.1]
        exact .unchanged
      · rw [owned.markFinished_eq]
        exact .finished owned
  | markFailed runnerId =>
      refine ⟨_, rfl, ?_⟩
      rcases wf.unmapped_or_owns runnerId with unmapped | ⟨chunk, owned⟩
      · rw [(mark_of_unmapped unmapped).2.2]
        exact .unchanged
      · rw [owned.markFailed_eq wf]
        exact .released owned
  | splitChunk runnerId splitPos newRunnerId =>
      refine ⟨_, rfl, ?_⟩
      rcases wf.unmapped_or_owns runnerId with unmapped | ⟨chunk, owned⟩
      · rw [splitChunk_of_unmapped unmapped splitPos newRunnerId]
        exact .unchanged
      · rcases owned.splitChunk_cases splitPos newRunnerId with refused | ⟨split, inner, shrinks⟩
        · rw [refused]
          exact .unchanged
        · rw [split]
          exact .divided owned inner shrinks (admitted newRunnerId rfl)
  | resizeRunnerState runnerId newSize =>
      rcases wf.unmapped_or_owns runnerId with unmapped | ⟨chunk, owned⟩
      · refine ⟨planner, ?_, .unchanged⟩
        simp only [ChunkPlanner.perform, resizeRunnerState_of_unmapped unmapped]
        rfl
      · rcases owned.resizeRunnerState_cases wf newSize with
          ⟨refused, -⟩ | ⟨same, -⟩ | ⟨shrunk, nonempty, shrinks⟩
        · refine ⟨planner, ?_, .unchanged⟩
          simp only [ChunkPlanner.perform, refused]
          rfl
        · refine ⟨planner, ?_, .unchanged⟩
          simp only [ChunkPlanner.perform, same]
          rfl
        · refine ⟨_, ?_, .cut owned nonempty (Nat.le_add_right _ _) shrinks.le⟩
          simp only [ChunkPlanner.perform, shrunk]
          rfl

-----------------------------------------------------------------------------------------
-- Every operation keeps the invariant and never panics
-----------------------------------------------------------------------------------------

theorem WellFormed.changes {planner after : ChunkPlanner} (wf : planner.WellFormed)
    (changes : planner.Changes after)
    : after.WellFormed := by
  cases changes with
  | unchanged => exact wf
  | configured minChunkSize maxChunkCount =>
      exact ⟨wf.representable, wf.keyed, wf.shaped, wf.apart, wf.mapped, wf.active, wf.accounted⟩
  | added free fresh owner => exact wf.add free _ _ fresh owner
  | advanced owned bytes => exact owned.advance_wellFormed wf bytes
  | started owned => exact owned.markRunning_wellFormed wf
  | finished owned => exact owned.markFinished_wellFormed wf
  | released owned => exact owned.release_wellFormed wf
  | cut owned nonempty keeps shrinks => exact owned.cutAt_wellFormed wf nonempty keeps shrinks
  | divided owned inner shrinks fresh => exact owned.divide_wellFormed wf inner shrinks fresh

theorem WellFormed.perform {planner : ChunkPlanner} (wf : planner.WellFormed)
    {operation : Operation} (admitted : planner.Admits operation)
    : ∃ after, planner.perform operation = .ok after ∧ after.WellFormed := by
  obtain ⟨after, performed, changes⟩ := wf.perform_changes admitted
  exact ⟨after, performed, wf.changes changes⟩

/-- Every reachable planner is well formed, by induction on its run. -/
theorem reachable_wellFormed {planner : ChunkPlanner} (reached : machine.Reachable planner)
    : planner.WellFormed := by
  refine reached.invariant ?_ ?_
  · intro state start
    obtain ⟨total, representable, rfl⟩ := start
    exact WellFormed.new representable
  · intro before operation after _ wf step
    obtain ⟨result, performed, kept⟩ := wf.perform step.enabled
    cases performed.symm.trans step.next
    exact kept

-----------------------------------------------------------------------------------------
-- The queries with arithmetic
-----------------------------------------------------------------------------------------

/-- What `getIncompleteStates` keeps of a well-formed planner. -/
def isSplittable (planner : ChunkPlanner) (minChunkSize : Option Nat) (chunk : ChunkState) : Bool :=
  decide (chunk.status = .running)
    && decide (chunk.downloaded.stop < chunk.allocated.stop)
    && decide (chunk.allocated.stop - chunk.downloaded.stop
        ≥ max (minChunkSize.getD 0) (2 * planner.minChunkSize))

theorem WellFormed.splittable_eq {planner : ChunkPlanner} (wf : planner.WellFormed)
    (representable : 2 * planner.minChunkSize < u64Size) (minChunkSize : Option Nat)
    {chunk : ChunkState} (member : chunk ∈ planner.chunks.values)
    : planner.splittable minChunkSize chunk = .ok (planner.isSplittable minChunkSize chunk) := by
  obtain ⟨start, found⟩ := mem_values_iff.mp member
  have remaining := (wf.shaped found).remaining_eq
  simp only [splittable, isSplittable, remaining, Checked.mul_eq representable, Checked.ok_bind]
  split
  · rename_i running
    cases minChunkSize with
    | none => simp [running.1, running.2, pure, Except.pure]
    | some size => simp [running.1, running.2, pure, Except.pure]
  · rename_i other
    have refused : (decide (chunk.status = .running)
        && decide (chunk.downloaded.stop < chunk.allocated.stop)) = false := by
      simpa using other
    simp [refused, pure, Except.pure]

/-- A splittable chunk is active, so its runner is known and `expect` is not reached. -/
theorem WellFormed.getIncompleteStates_eq {planner : ChunkPlanner} (wf : planner.WellFormed)
    (representable : 2 * planner.minChunkSize < u64Size) (minChunkSize : Option Nat)
    : planner.getIncompleteStates minChunkSize
      = .ok ((planner.chunks.values.filter (planner.isSplittable minChunkSize)).map
          (fun chunk => (chunk.runnerId.getD 0, chunk.incompleteRange))) := by
  have filtered
      : planner.chunks.values.filterM (planner.splittable minChunkSize)
        = .ok (planner.chunks.values.filter (planner.isSplittable minChunkSize)) :=
    Checked.filterM_eq_ok
      (fun chunk member => wf.splittable_eq representable minChunkSize member)
  simp only [getIncompleteStates, filtered, Checked.ok_bind]
  refine Checked.mapM_eq_ok (fun chunk member => ?_)
  obtain ⟨listed, keeps⟩ := List.mem_filter.mp member
  obtain ⟨start, found⟩ := mem_values_iff.mp listed
  have running : chunk.status = .running := by
    simp only [isSplittable, Bool.and_eq_true, decide_eq_true_eq] at keeps
    exact keeps.1.1
  obtain ⟨runnerId, named, -⟩ := wf.active found (by simp [running, ChunkStatus.isActive])
  simp only [named, Checked.expect_some, Checked.ok_bind, Option.getD_some]
  rfl

/-- Everything the fields of a planner promise each other. -/
structure Represented (planner : ChunkPlanner) : Prop where
  keyedByStart
    : ∀ start chunk, planner.chunks.get? start = some chunk → chunk.allocated.start = start
  allocatedInside
    : ∀ start chunk,
        planner.chunks.get? start = some chunk
        → chunk.allocated.start < chunk.allocated.stop ∧ chunk.allocated.stop ≤ planner.total
  pairwiseDisjoint
    : ∀ first left second right,
        planner.chunks.get? first = some left
        → planner.chunks.get? second = some right
        → first ≠ second
        → left.allocated.Apart right.allocated
  downloadedInside
    : ∀ start chunk,
        planner.chunks.get? start = some chunk
        → chunk.allocated.start = chunk.downloaded.start
          ∧ chunk.downloaded.start ≤ chunk.downloaded.stop
          ∧ chunk.downloaded.stop ≤ chunk.allocated.stop
  mappingInjective
    : ∀ left right start,
        planner.runnerToChunk.get? left = some start
        → planner.runnerToChunk.get? right = some start
        → left = right
  mappingPoints
    : ∀ runnerId start,
        planner.runnerToChunk.get? runnerId = some start
        → ∃ chunk, planner.chunks.get? start = some chunk ∧ chunk.runnerId = some runnerId
  activeMapped
    : ∀ start chunk,
        planner.chunks.get? start = some chunk
        → chunk.status = .running ∨ chunk.status = .pending
        → ∃ runnerId,
            chunk.runnerId = some runnerId ∧ planner.runnerToChunk.get? runnerId = some start
  acceptedSum
    : planner.acceptedBytes = (planner.chunks.values.map (fun chunk => chunk.downloaded.len)).sum
  acceptedBound : planner.acceptedBytes ≤ planner.total

/-- The working invariant promises all of it. -/
theorem WellFormed.represented {planner : ChunkPlanner} (wf : planner.WellFormed)
    : planner.Represented where
  keyedByStart _ _ found := wf.keyed found
  allocatedInside _ _ found := ⟨(wf.shaped found).nonempty, (wf.shaped found).inside⟩
  pairwiseDisjoint _ _ _ _ leftFound rightFound distinct point inLeft inRight :=
    distinct (wf.start_unique leftFound rightFound inLeft inRight)
  downloadedInside _ _ found :=
    ⟨(wf.shaped found).anchored.symm, (wf.shaped found).started, (wf.shaped found).bounded⟩
  mappingInjective _ _ _ left right := wf.runner_unique left right
  mappingPoints _ _ mapped := wf.mapped mapped
  activeMapped _ chunk found status := by
    refine wf.active found ?_
    rcases status with running | pending
    · simp [running, ChunkStatus.isActive]
    · simp [pending, ChunkStatus.isActive]
  acceptedSum := by
    rw [wf.accounted]
    simp [sumBy, values, Function.comp_def]
  acceptedBound := wf.acceptedBytes_le

/-- In every run of the planner the representation invariant holds, the next admitted
operation does not panic, and neither do the queries that compute with chunk sizes.
-/
theorem representation_invariant {planner : ChunkPlanner}
    (reached : machine.Reachable planner)
    : planner.Represented
      ∧ (∀ operation, planner.Admits operation → ∃ after, planner.perform operation = .ok after)
      ∧ (∀ chunk ∈ planner.chunks.values, ∃ bytes, chunk.remaining = .ok bytes)
      ∧ (2 * planner.minChunkSize < u64Size
          → ∀ minChunkSize, ∃ states, planner.getIncompleteStates minChunkSize = .ok states) := by
  have wf := reachable_wellFormed reached
  refine ⟨wf.represented, ?_, ?_, ?_⟩
  · intro operation admitted
    obtain ⟨after, performed, -⟩ := wf.perform admitted
    exact ⟨after, performed⟩
  · intro chunk member
    obtain ⟨start, found⟩ := mem_values_iff.mp member
    exact ⟨_, (wf.shaped found).remaining_eq⟩
  · intro representable minChunkSize
    exact ⟨_, wf.getIncompleteStates_eq representable minChunkSize⟩

/-- The invariant on a run that allocates, delivers, splits, shrinks and fails. -/
theorem representation_invariant_run
    : ∃ planner : ChunkPlanner,
        machine.execute (ChunkPlanner.new 1000)
            [.allocatePendingChunk ⟨0, 600⟩ 0, .markRunning 0, .updateProgress 0 100,
              .splitChunk 0 300 1, .resizeRunnerState 1 200, .updateProgress 1 150, .markFailed 1]
          = some planner
        ∧ planner.acceptedBytes = 250
        ∧ planner.getAvailableRanges = [⟨450, 1000⟩]
        ∧ planner.Represented := by
  let events : List Operation :=
    [.allocatePendingChunk ⟨0, 600⟩ 0, .markRunning 0, .updateProgress 0 100,
      .splitChunk 0 300 1, .resizeRunnerState 1 200, .updateProgress 1 150, .markFailed 1]
  have start : machine.Reachable (ChunkPlanner.new 1000) := .initial ⟨1000, by decide, rfl⟩
  have isRun : (machine.execute (ChunkPlanner.new 1000) events).isSome = true := by decide
  obtain ⟨planner, executed⟩ := Option.isSome_iff_exists.mp isRun
  have bytes : (machine.execute (ChunkPlanner.new 1000) events).map ChunkPlanner.acceptedBytes
      = some 250 := by decide
  have free : (machine.execute (ChunkPlanner.new 1000) events).map ChunkPlanner.getAvailableRanges
      = some [⟨450, 1000⟩] := by decide
  rw [executed] at bytes free
  exact ⟨planner, executed, Option.some.inj bytes, Option.some.inj free,
    (representation_invariant (start.execute events executed)).1⟩

end ChunkPlanner

end BoltLoad
