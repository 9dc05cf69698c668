import BoltLoad.ChunkPlanner.Operations

/-! Which chunk each runner owns after a change to the planner: the runner concerned owns the
changed chunk, or none, and every other runner owns what it owned.
-/

namespace BoltLoad

open OrderedMap

namespace ChunkPlanner

variable {planner : ChunkPlanner} {runnerId : RunnerId} {chunk : ChunkState}

/-- The planner's total is all a range operation reads of it. -/
@[simp] theorem total_withChunk (start : Nat) : (planner.withChunk start chunk).total = planner.total :=
  rfl

@[simp] theorem total_advance (bytes : Nat) : (planner.advance chunk bytes).total = planner.total :=
  rfl

@[simp] theorem total_forget : (planner.forget runnerId).total = planner.total := rfl

@[simp] theorem total_release : (planner.release runnerId chunk).total = planner.total := by
  unfold release
  split <;> rfl

/-- What only a configuration changes. -/
def configuration (planner : ChunkPlanner) : Nat × Nat × Option Nat :=
  (planner.total, planner.minChunkSize, planner.maxChunkCount)

@[simp] theorem configuration_withChunk (start : Nat)
    : (planner.withChunk start chunk).configuration = planner.configuration :=
  rfl

@[simp] theorem configuration_advance (bytes : Nat)
    : (planner.advance chunk bytes).configuration = planner.configuration :=
  rfl

@[simp] theorem configuration_forget
    : (planner.forget runnerId).configuration = planner.configuration :=
  rfl

@[simp] theorem configuration_release
    : (planner.release runnerId chunk).configuration = planner.configuration := by
  unfold release
  split <;> rfl

@[simp] theorem configuration_addChunk (range : Range) (owner : Option RunnerId)
    (status : ChunkStatus)
    : (planner.addChunk range owner status).configuration = planner.configuration :=
  rfl

/-- A runner has a state exactly when the planner maps it. -/
theorem WellFormed.mapped_iff (wf : planner.WellFormed) (runnerId : RunnerId)
    : runnerId ∈ planner.runnerToChunk.keys ↔ ∃ chunk, planner.getRunnerState runnerId = some chunk := by
  rw [mem_keys_iff]
  constructor
  · rintro ⟨start, mapped⟩
    obtain ⟨chunk, owned, -, -⟩ := wf.owns mapped
    exact ⟨chunk, (getRunnerState_eq_some_iff wf).mpr owned⟩
  · rintro ⟨chunk, state⟩
    exact ⟨_, ((getRunnerState_eq_some_iff wf).mp state).mapped⟩

theorem WellFormed.unmapped_of_stateless (wf : planner.WellFormed)
    (stateless : planner.getRunnerState runnerId = none)
    : planner.runnerToChunk.get? runnerId = none := by
  rcases wf.unmapped_or_owns runnerId with unmapped | ⟨chunk, owned⟩
  · exact unmapped
  · rw [(getRunnerState_eq_some_iff wf).mpr owned] at stateless
    cases stateless

/-- Two runners never own chunks that start together. -/
theorem WellFormed.distinct_starts (wf : planner.WellFormed) {other : RunnerId}
    {otherChunk : ChunkState} (owned : planner.Owns runnerId chunk)
    (otherOwned : planner.Owns other otherChunk) (distinct : other ≠ runnerId)
    : otherChunk.allocated.start ≠ chunk.allocated.start := by
  intro same
  have mapped := otherOwned.mapped
  rw [same] at mapped
  exact distinct (wf.runner_unique mapped owned.mapped)

/-- The chunks of two runners share no byte. -/
theorem WellFormed.allocated_apart (wf : planner.WellFormed) {other : RunnerId}
    {otherChunk : ChunkState} (owned : planner.Owns runnerId chunk)
    (otherOwned : planner.Owns other otherChunk) (distinct : other ≠ runnerId)
    : chunk.allocated.Apart otherChunk.allocated := by
  intro point mine theirs
  have same := wf.start_unique owned.found otherOwned.found mine theirs
  exact wf.distinct_starts owned otherOwned distinct same.symm

/-- Replacing the chunk a runner owns changes that runner's state only. -/
theorem Owns.getRunnerState_replaced (wf : planner.WellFormed)
    (owned : planner.Owns runnerId chunk) (replacement : ChunkState) (acceptedBytes : Nat)
    (other : RunnerId)
    : getRunnerState
        { planner with
          chunks := planner.chunks.insert chunk.allocated.start replacement
          acceptedBytes } other
      = if other = runnerId then some replacement else planner.getRunnerState other := by
  unfold getRunnerState
  split
  · rename_i same
    subst same
    simp [owned.mapped]
  · rename_i distinct
    cases mapped : planner.runnerToChunk.get? other with
    | none => rfl
    | some start =>
        obtain ⟨otherChunk, otherOwned, key, -⟩ := wf.owns mapped
        have apart := wf.distinct_starts owned otherOwned distinct
        rw [key] at apart
        simp only [Option.bind_some]
        exact get?_insert_of_ne _ _ apart

theorem Owns.getRunnerState_withChunk (wf : planner.WellFormed)
    (owned : planner.Owns runnerId chunk) (replacement : ChunkState) (other : RunnerId)
    : (planner.withChunk chunk.allocated.start replacement).getRunnerState other
      = if other = runnerId then some replacement else planner.getRunnerState other :=
  owned.getRunnerState_replaced wf replacement planner.acceptedBytes other

theorem Owns.getRunnerState_advance (wf : planner.WellFormed)
    (owned : planner.Owns runnerId chunk) (bytes : Nat) (other : RunnerId)
    : (planner.advance chunk bytes).getRunnerState other
      = if other = runnerId then some (chunk.advanced bytes) else planner.getRunnerState other :=
  owned.getRunnerState_replaced wf _ _ other

/-- Without its mapping a runner has no state, whatever becomes of its chunk. -/
theorem Owns.getRunnerState_forgotten (wf : planner.WellFormed)
    (owned : planner.Owns runnerId chunk) (chunks : OrderedMap Nat ChunkState)
    (kept : ∀ start, start ≠ chunk.allocated.start → chunks.get? start = planner.chunks.get? start)
    (other : RunnerId)
    : getRunnerState
        { planner with chunks, runnerToChunk := planner.runnerToChunk.erase runnerId } other
      = if other = runnerId then none else planner.getRunnerState other := by
  unfold getRunnerState
  split
  · rename_i same
    simp [same]
  · rename_i distinct
    rw [get?_erase_of_ne _ distinct]
    cases mapped : planner.runnerToChunk.get? other with
    | none => rfl
    | some start =>
        obtain ⟨otherChunk, otherOwned, key, -⟩ := wf.owns mapped
        have apart := wf.distinct_starts owned otherOwned distinct
        rw [key] at apart
        simp only [Option.bind_some]
        exact kept start apart

theorem Owns.getRunnerState_finished (wf : planner.WellFormed)
    (owned : planner.Owns runnerId chunk) (replacement : ChunkState) (other : RunnerId)
    : ((planner.forget runnerId).withChunk chunk.allocated.start replacement).getRunnerState other
      = if other = runnerId then none else planner.getRunnerState other :=
  owned.getRunnerState_forgotten wf _ (fun _ distinct => get?_insert_of_ne _ _ distinct) other

theorem Owns.getRunnerState_release (wf : planner.WellFormed)
    (owned : planner.Owns runnerId chunk) (other : RunnerId)
    : (planner.release runnerId chunk).getRunnerState other
      = if other = runnerId then none else planner.getRunnerState other := by
  unfold release
  split
  · exact owned.getRunnerState_forgotten wf _ (fun _ distinct => get?_erase_of_ne _ distinct) other
  · exact owned.getRunnerState_finished wf _ other

/-- A new chunk starts where none did, so it changes the state of its runner only. -/
theorem WellFormed.getRunnerState_addChunk (wf : planner.WellFormed) {range : Range}
    (free : planner.Free range) (status : ChunkStatus) (other : RunnerId)
    : (planner.addChunk range (some runnerId) status).getRunnerState other
      = if other = runnerId then some (.new range (some runnerId) status)
        else planner.getRunnerState other := by
  unfold getRunnerState addChunk
  simp only
  split
  · rename_i same
    subst same
    simp
  · rename_i distinct
    rw [get?_insert_of_ne _ _ distinct]
    cases mapped : planner.runnerToChunk.get? other with
    | none => rfl
    | some start =>
        obtain ⟨otherChunk, otherOwned, key, -⟩ := wf.owns mapped
        simp only [Option.bind_some]
        refine get?_insert_of_ne _ _ (fun same => ?_)
        have nonempty := (wf.shaped otherOwned.found).nonempty
        have wide := free.nonempty
        rcases free.apart otherOwned.found with left | right <;> omega

end ChunkPlanner

end BoltLoad
