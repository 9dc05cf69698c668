import BoltLoad.ChunkPlanner.Available

/-! A chunk cut in two, the second part given to a new runner. Every byte keeps exactly one
owner, and nothing becomes or ceases to be available.
-/

namespace BoltLoad

open OrderedMap

namespace ChunkPlanner

/-- The planner after a runner's chunk was cut off at `middle` and the rest given to a new
runner, which is still to connect.
-/
def handOver (planner : ChunkPlanner) (chunk : ChunkState) (middle : Nat)
    (newRunnerId : RunnerId)
    : ChunkPlanner :=
  (planner.withChunk chunk.allocated.start (chunk.cutAt middle)).addChunk
    ⟨middle, chunk.allocated.stop⟩ (some newRunnerId) .pending

/-- The runner's old range is the disjoint union of what it keeps, with every accepted byte,
and of the new runner's pending chunk. No other chunk or runner is concerned, every byte is
owned as before and once, and the available ranges are the same.
-/
structure Partitions (before after : ChunkPlanner) (runnerId : RunnerId) (chunk : ChunkState)
    (middle : Nat) (newRunnerId : RunnerId)
    : Prop where
  fresh : before.getRunnerState newRunnerId = none
  kept
    : after.getRunnerState runnerId
      = some { chunk with allocated := ⟨chunk.allocated.start, middle⟩ }
  given
    : after.getRunnerState newRunnerId
      = some (.new ⟨middle, chunk.allocated.stop⟩ (some newRunnerId) .pending)
  union
    : ∀ point,
        point ∈ chunk.allocated
        ↔ point ∈ (⟨chunk.allocated.start, middle⟩ : Range)
          ∨ point ∈ (⟨middle, chunk.allocated.stop⟩ : Range)
  disjoint
    : HalfOpen.Apart (⟨chunk.allocated.start, middle⟩ : Range) ⟨middle, chunk.allocated.stop⟩
  keptNonempty : chunk.allocated.start < middle
  givenNonempty : middle < chunk.allocated.stop
  keepsDownloaded : chunk.downloaded.stop ≤ middle
  accepted : after.acceptedBytes = before.acceptedBytes
  vacant : before.chunks.get? middle = none
  otherChunks
    : ∀ start,
        start ≠ chunk.allocated.start
        → start ≠ middle
        → after.chunks.get? start = before.chunks.get? start
  otherRunners
    : ∀ other,
        other ≠ newRunnerId → after.runnerToChunk.get? other = before.runnerToChunk.get? other
  ownedAlike : ∀ point, after.Allotted point ↔ before.Allotted point
  ownedOnce
    : ∀ first left second right point,
        after.chunks.get? first = some left
        → after.chunks.get? second = some right
        → point ∈ left.allocated
        → point ∈ right.allocated
        → first = second
  available : after.getAvailableRanges = before.getAvailableRanges

variable {planner : ChunkPlanner}

/-- The same bytes allotted leave the same ranges available. -/
theorem WellFormed.getAvailableRanges_congr {before after : ChunkPlanner}
    (beforeWf : before.WellFormed) (afterWf : after.WellFormed)
    (total : after.total = before.total)
    (same : ∀ point, after.Allotted point ↔ before.Allotted point)
    : after.getAvailableRanges = before.getAvailableRanges := by
  have listed (planner : ChunkPlanner) (point : Nat)
      : (∃ range ∈ planner.chunks.values.map ChunkState.allocated, point ∈ range)
        ↔ planner.Allotted point := by
    constructor
    · rintro ⟨range, member, holds⟩
      obtain ⟨chunk, inValues, rfl⟩ := List.mem_map.mp member
      obtain ⟨start, found⟩ := mem_values_iff.mp inValues
      exact ⟨start, chunk, found, holds⟩
    · rintro ⟨start, chunk, found, holds⟩
      exact ⟨_, List.mem_map_of_mem (mem_values_iff.mpr ⟨start, found⟩), holds⟩
  have ascending := afterWf.ascending
  rw [total] at ascending
  rw [getAvailableRanges_eq, getAvailableRanges_eq, total]
  refine ascending.gaps_congr beforeWf.ascending (fun point => ?_)
  rw [listed, listed, same]

section HandOver

variable {runnerId newRunnerId : RunnerId} {chunk : ChunkState} {middle : Nat}

theorem Owns.handOver_wellFormed (wf : planner.WellFormed) (owned : planner.Owns runnerId chunk)
    (keptNonempty : chunk.allocated.start < middle) (keeps : chunk.downloaded.stop ≤ middle)
    (givenNonempty : middle < chunk.allocated.stop)
    (fresh : planner.runnerToChunk.get? newRunnerId = none)
    : (planner.handOver chunk middle newRunnerId).WellFormed := by
  refine (owned.cutAt_wellFormed wf keptNonempty keeps givenNonempty.le).add
    (owned.free_after_cut wf keptNonempty givenNonempty) _ _ ?_ (fun _ => rfl)
  intro id named
  cases named
  exact fresh

/-- No chunk starts strictly inside another. -/
theorem WellFormed.get?_inside (wf : planner.WellFormed)
    (owned : planner.Owns runnerId chunk) (inside : chunk.allocated.start < middle)
    (before : middle < chunk.allocated.stop)
    : planner.chunks.get? middle = none := by
  cases found : planner.chunks.get? middle with
  | none => rfl
  | some other =>
      have apart := wf.apart owned.found found inside
      omega

/-- The chunks afterwards: the given part, the kept part, and the others as they were. -/
theorem get?_handOver (start : Nat)
    : (planner.handOver chunk middle newRunnerId).chunks.get? start
      = if start = middle then
          some (.new ⟨middle, chunk.allocated.stop⟩ (some newRunnerId) .pending)
        else if start = chunk.allocated.start then some (chunk.cutAt middle)
        else planner.chunks.get? start := by
  simp only [handOver, addChunk, withChunk, get?_insert]

/-- The runners that are not concerned keep their states. -/
theorem Owns.getRunnerState_handOver (wf : planner.WellFormed)
    (owned : planner.Owns runnerId chunk) (keptNonempty : chunk.allocated.start < middle)
    (keeps : chunk.downloaded.stop ≤ middle) (givenNonempty : middle < chunk.allocated.stop)
    (fresh : planner.runnerToChunk.get? newRunnerId = none) {other : RunnerId}
    {otherChunk : ChunkState} (state : planner.getRunnerState other = some otherChunk)
    (distinct : other ≠ runnerId)
    : (planner.handOver chunk middle newRunnerId).getRunnerState other = some otherChunk := by
  have cutWf := owned.cutAt_wellFormed wf keptNonempty keeps givenNonempty.le
  have free := owned.free_after_cut wf keptNonempty givenNonempty
  have mapped := ((getRunnerState_eq_some_iff wf).mp state).mapped
  have old : other ≠ newRunnerId := by
    rintro rfl
    cases fresh.symm.trans mapped
  rw [handOver, cutWf.getRunnerState_addChunk free, if_neg old,
    owned.getRunnerState_withChunk wf, if_neg distinct]
  exact state

/-- Handing over partitions the chunk. -/
theorem Owns.partitions (wf : planner.WellFormed) (owned : planner.Owns runnerId chunk)
    (keptNonempty : chunk.allocated.start < middle) (keeps : chunk.downloaded.stop ≤ middle)
    (givenNonempty : middle < chunk.allocated.stop)
    (fresh : planner.runnerToChunk.get? newRunnerId = none)
    : planner.Partitions (planner.handOver chunk middle newRunnerId) runnerId chunk middle
        newRunnerId := by
  have afterWf := owned.handOver_wellFormed wf keptNonempty keeps givenNonempty fresh
  have cutWf := owned.cutAt_wellFormed wf keptNonempty keeps givenNonempty.le
  have free := owned.free_after_cut wf keptNonempty givenNonempty
  have other : runnerId ≠ newRunnerId := by
    rintro rfl
    cases fresh.symm.trans owned.mapped
  have allotted (point : Nat)
      : (planner.handOver chunk middle newRunnerId).Allotted point ↔ planner.Allotted point := by
    constructor
    · rintro ⟨start, holder, found, holds⟩
      rw [get?_handOver] at found
      split at found
      · cases found
        exact ⟨_, chunk, owned.found, keptNonempty.le.trans holds.1, holds.2⟩
      · split at found
        · cases found
          exact ⟨_, chunk, owned.found, holds.1, holds.2.trans givenNonempty⟩
        · exact ⟨start, holder, found, holds⟩
    · rintro ⟨start, holder, found, holds⟩
      by_cases same : start = chunk.allocated.start
      · subst same
        cases found.symm.trans owned.found
        rcases lt_or_ge point middle with early | late
        · refine ⟨chunk.allocated.start, chunk.cutAt middle, ?_, holds.1, early⟩
          rw [get?_handOver, if_neg keptNonempty.ne, if_pos rfl]
        · refine ⟨middle, .new ⟨middle, chunk.allocated.stop⟩ (some newRunnerId) .pending, ?_,
            late, holds.2⟩
          rw [get?_handOver, if_pos rfl]
      · refine ⟨start, holder, ?_, holds⟩
        have elsewhere : start ≠ middle := by
          rintro rfl
          cases (wf.get?_inside owned keptNonempty givenNonempty).symm.trans found
        rw [get?_handOver, if_neg elsewhere, if_neg same]
        exact found
  refine {
    fresh := by simp [getRunnerState, fresh]
    kept := ?_
    given := ?_
    union := ?_
    disjoint := HalfOpen.apart_of_le (Or.inl (le_refl _))
    keptNonempty := keptNonempty
    givenNonempty := givenNonempty
    keepsDownloaded := keeps
    accepted := rfl
    vacant := wf.get?_inside owned keptNonempty givenNonempty
    otherChunks := ?_
    otherRunners := ?_
    ownedAlike := allotted
    ownedOnce := ?_
    available := wf.getAvailableRanges_congr afterWf rfl allotted
  }
  · rw [handOver, cutWf.getRunnerState_addChunk free, if_neg other,
      owned.getRunnerState_withChunk wf, if_pos rfl]
    rfl
  · rw [handOver, cutWf.getRunnerState_addChunk free, if_pos rfl]
  · intro point
    simp only [HalfOpen.mem_iff]
    omega
  · intro start kept given
    rw [get?_handOver, if_neg given, if_neg kept]
  · intro id distinct
    exact get?_insert_of_ne _ _ distinct
  · intro first left second right point leftFound rightFound inLeft inRight
    exact afterWf.start_unique leftFound rightFound inLeft inRight

end HandOver

end ChunkPlanner

end BoltLoad
