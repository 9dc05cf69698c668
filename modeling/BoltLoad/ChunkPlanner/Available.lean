import BoltLoad.ChunkPlanner.Coverage
import BoltLoad.ChunkPlanner.Runs

/-! What the planner has left to allocate. The available ranges are the maximal gaps between
the chunks, an allocation is accepted exactly inside one of them, and it takes its range out
of them.
-/

namespace BoltLoad

open OrderedMap

namespace ChunkPlanner

variable {planner : ChunkPlanner}

/-- The offset is in an available range. -/
def Available (planner : ChunkPlanner) (point : Nat) : Prop :=
  ∃ range ∈ planner.getAvailableRanges, point ∈ range

/-- What is available is within the file and allocated to no chunk. -/
theorem WellFormed.available_iff (wf : planner.WellFormed) (point : Nat)
    : planner.Available point ↔ point < planner.total ∧ ¬ planner.Allotted point := by
  unfold Available
  rw [getAvailableRanges_eq, wf.ascending.exists_gap_iff]
  refine and_congr ⟨fun inside => inside.2, fun inside => ⟨Nat.zero_le _, inside⟩⟩ ?_
  constructor
  · rintro outside ⟨start, chunk, found, holds⟩
    exact outside _ (List.mem_map_of_mem (mem_values_iff.mpr ⟨start, found⟩)) holds
  · intro unallotted range member holds
    obtain ⟨chunk, listed, rfl⟩ := List.mem_map.mp member
    obtain ⟨start, found⟩ := mem_values_iff.mp listed
    exact unallotted ⟨start, chunk, found, holds⟩

-----------------------------------------------------------------------------------------
-- What is accepted
-----------------------------------------------------------------------------------------

/-- A free range is one that meets no chunk. -/
theorem WellFormed.free_iff_uncovered (wf : planner.WellFormed) {range : Range}
    : planner.Free range
      ↔ HalfOpen.Uncovered 0 planner.total (planner.chunks.values.map ChunkState.allocated)
          range := by
  constructor
  · intro free
    refine ⟨free.nonempty, Nat.zero_le _, free.inside, fun interval member => ?_⟩
    obtain ⟨chunk, listed, rfl⟩ := List.mem_map.mp member
    obtain ⟨start, found⟩ := mem_values_iff.mp listed
    have key := wf.keyed found
    refine HalfOpen.apart_of_le ?_
    rcases free.apart found with before | behind
    · exact .inr before
    · exact .inl (key.symm ▸ behind)
  · intro uncovered
    refine ⟨uncovered.nonempty, uncovered.last, fun {start chunk} found => ?_⟩
    have key := wf.keyed found
    have listed := List.mem_map_of_mem (f := ChunkState.allocated) (mem_values_iff.mpr ⟨start, found⟩)
    have apart := uncovered.apart _ listed
    rcases apart.le_or_le uncovered.nonempty (wf.shaped found).nonempty with before | behind
    · exact .inr (key ▸ before)
    · exact .inl behind

/-- A free range lies inside one available range. -/
theorem WellFormed.free_iff_inside (wf : planner.WellFormed) {range : Range}
    : planner.Free range
      ↔ range.start < range.stop
        ∧ ∃ gap ∈ planner.getAvailableRanges, gap.start ≤ range.start ∧ range.stop ≤ gap.stop := by
  rw [wf.free_iff_uncovered, getAvailableRanges_eq]
  constructor
  · intro uncovered
    exact ⟨uncovered.nonempty, wf.ascending.uncovered_inside uncovered⟩
  · rintro ⟨nonempty, gap, member, starts, stops⟩
    have uncovered := wf.ascending.gap_uncovered member
    refine ⟨nonempty, Nat.zero_le _, stops.trans uncovered.last, fun interval listed => ?_⟩
    intro point holds
    exact uncovered.apart interval listed point
      ⟨starts.trans holds.1, holds.2.trans_le stops⟩

theorem chunkCountReached_eq_false_iff
    : planner.chunkCountReached = false
      ↔ ∀ maximum ∈ planner.maxChunkCount, planner.getChunksCount < maximum := by
  unfold chunkCountReached
  cases planner.maxChunkCount with
  | none => simp
  | some maximum => simp

/-- The allocation accepts the free ranges, as long as more chunks are allowed. -/
theorem WellFormed.allocateChunkInner_iff (wf : planner.WellFormed) (range : Range)
    (runnerId : Option RunnerId) (status : ChunkStatus)
    : (planner.allocateChunkInner range runnerId status).1 = true
      ↔ planner.Free range ∧ planner.chunkCountReached = false := by
  constructor
  · intro accepted
    rcases wf.allocateChunkInner_cases range runnerId status with rejected | ⟨free, -⟩
    · rw [rejected] at accepted
      cases accepted
    · refine ⟨free, ?_⟩
      unfold allocateChunkInner at accepted
      split at accepted
      · cases accepted
      split at accepted
      · cases accepted
      · rename_i room
        simpa using room
  · rintro ⟨free, room⟩
    rw [wf.allocateChunkInner_of_free free room]

/-- The check of the single predecessor agrees with checking every chunk. -/
theorem WellFormed.overlapsPredecessor_iff (wf : planner.WellFormed) {range : Range}
    (nonempty : range.start < range.stop) (inside : range.stop ≤ planner.total)
    : planner.overlapsPredecessor range = true
      ↔ ∃ chunk ∈ planner.chunks.values, ¬ range.Apart chunk.allocated := by
  rw [← Bool.not_eq_false, wf.free_iff nonempty inside, wf.free_iff_uncovered, ← not_iff_not,
    not_not]
  simp only [not_exists, not_and, not_not]
  constructor
  · intro uncovered chunk listed
    exact uncovered.apart _ (List.mem_map_of_mem listed)
  · intro apart
    refine ⟨nonempty, Nat.zero_le _, inside, fun interval member => ?_⟩
    obtain ⟨chunk, listed, rfl⟩ := List.mem_map.mp member
    exact apart chunk listed

-----------------------------------------------------------------------------------------
-- What is left
-----------------------------------------------------------------------------------------

/-- The available ranges do not depend on who owns a chunk. -/
theorem getAvailableRanges_addChunk (range : Range) (left right : Option RunnerId)
    (leftStatus rightStatus : ChunkStatus)
    : (planner.addChunk range left leftStatus).getAvailableRanges
      = (planner.addChunk range right rightStatus).getAvailableRanges := by
  rw [getAvailableRanges_eq, getAvailableRanges_eq]
  have same
      : ChunkState.allocated (.new range left leftStatus)
        = ChunkState.allocated (.new range right rightStatus) := rfl
  simp only [addChunk, map_values_insert planner.chunks range.start ChunkState.allocated same]

/-- A new chunk takes its range out of what is available. -/
theorem WellFormed.available_addChunk (wf : planner.WellFormed) {range : Range}
    (free : planner.Free range) (runnerId : Option RunnerId) (status : ChunkStatus) (point : Nat)
    : (planner.addChunk range runnerId status).Available point
      ↔ planner.Available point ∧ point ∉ range := by
  have idle : (planner.addChunk range none .idle).WellFormed :=
    wf.add free none .idle (by simp) (by simp [ChunkStatus.isActive])
  unfold Available
  rw [getAvailableRanges_addChunk range runnerId none status .idle]
  change (planner.addChunk range none .idle).Available point ↔ planner.Available point ∧ _
  rw [idle.available_iff, wf.available_iff, and_assoc]
  refine and_congr_right (fun _ => ?_)
  rw [← not_or, not_iff_not]
  constructor
  · rintro ⟨start, chunk, found, holds⟩
    simp only [addChunk, get?_insert] at found
    split at found
    · cases found
      exact Or.inr holds
    · exact Or.inl ⟨start, chunk, found, holds⟩
  · intro allotted
    rcases allotted with ⟨start, chunk, found, holds⟩ | inside
    · refine ⟨start, chunk, ?_, holds⟩
      have key := wf.keyed found
      have nonempty := (wf.shaped found).nonempty
      have wide := free.nonempty
      have elsewhere : start ≠ range.start := by
        rcases free.apart found with before | behind <;> omega
      simp only [addChunk, get?_insert_of_ne _ _ elsewhere]
      exact found
    · exact ⟨range.start, .new range none .idle, get?_insert_self _ _ _, inside⟩

/-- A release gives back what the chunk had not downloaded. -/
theorem Owns.available_release {runnerId : RunnerId} {chunk : ChunkState}
    (wf : planner.WellFormed) (owned : planner.Owns runnerId chunk) (point : Nat)
    : (planner.release runnerId chunk).Available point
      ↔ planner.Available point ∨ point ∈ chunk.incompleteRange := by
  have shaped := wf.shaped owned.found
  have anchored := shaped.anchored
  have started := shaped.started
  rw [(owned.release_wellFormed wf).available_iff, wf.available_iff, total_release]
  constructor
  · rintro ⟨inside, released⟩
    by_cases allotted : planner.Allotted point
    · right
      obtain ⟨start, holder, found, holds⟩ := allotted
      by_cases same : start = chunk.allocated.start
      · subst same
        cases found.symm.trans owned.found
        refine ⟨?_, holds.2⟩
        by_contra before
        simp only [ChunkState.incompleteRange, not_le] at before
        have touched : chunk.downloaded.start ≠ chunk.downloaded.stop := by
          have first := holds.1
          omega
        refine released ⟨chunk.allocated.start, chunk.kept, ?_, holds.1, before⟩
        rw [get?_release, if_pos rfl, if_neg touched]
      · refine absurd ⟨start, holder, ?_, holds⟩ released
        rw [get?_release, if_neg same]
        exact found
    · exact Or.inl ⟨inside, allotted⟩
  · intro either
    -- What is allotted after the release was allotted before, outside the given part.
    have kept (allotted : (planner.release runnerId chunk).Allotted point)
        : planner.Allotted point ∧ point ∉ chunk.incompleteRange := by
      obtain ⟨start, holder, found, holds⟩ := allotted
      rw [get?_release] at found
      split at found
      · split at found
        · cases found
        · cases found
          simp only [ChunkState.kept, HalfOpen.mem_iff] at holds
          refine ⟨⟨_, chunk, owned.found, holds.1, holds.2.trans_le shaped.bounded⟩, ?_⟩
          intro later
          exact (holds.2.trans_le later.1).false
      · rename_i elsewhere
        refine ⟨⟨start, holder, found, holds⟩, fun later => elsewhere ?_⟩
        have inside : point ∈ chunk.allocated := by
          have first := later.1
          simp only [ChunkState.incompleteRange] at first
          exact ⟨by omega, later.2⟩
        exact wf.start_unique found owned.found holds inside
    rcases either with ⟨inside, free⟩ | later
    · exact ⟨inside, fun allotted => free (kept allotted).1⟩
    · refine ⟨later.2.trans_le shaped.inside, fun allotted => (kept allotted).2 later⟩

-----------------------------------------------------------------------------------------
-- Exactness in every run
-----------------------------------------------------------------------------------------

/-- What the available ranges and the allocations promise each other. -/
structure AllocatesExactly (planner : ChunkPlanner) : Prop where
  sorted : HalfOpen.Separated planner.getAvailableRanges
  maximalGaps
    : ∀ range,
        range ∈ planner.getAvailableRanges
        ↔ HalfOpen.MaximalGap 0 planner.total (planner.chunks.values.map ChunkState.allocated) range
  accepts
    : ∀ range runnerId,
        (planner.allocateChunk range runnerId).1 = true
        ↔ range.start < range.stop
          ∧ (∃ gap ∈ planner.getAvailableRanges,
              gap.start ≤ range.start ∧ range.stop ≤ gap.stop)
          ∧ ∀ maximum ∈ planner.maxChunkCount, planner.getChunksCount < maximum
  predecessorSuffices
    : ∀ range : Range,
        range.start < range.stop
        → range.stop ≤ planner.total
        → (planner.overlapsPredecessor range = true
          ↔ ∃ chunk ∈ planner.chunks.values, ¬ range.Apart chunk.allocated)
  takes
    : ∀ range runnerId after,
        planner.allocateChunk range runnerId = (true, after)
        → ∀ point, after.Available point ↔ planner.Available point ∧ point ∉ range

/-- Both kinds of allocation are one allocation with a status. -/
theorem allocateChunk_eq (range : Range) (runnerId : Option RunnerId)
    : planner.allocateChunk range runnerId
      = planner.allocateChunkInner range runnerId (if runnerId.isSome then .pending else .idle) := by
  cases runnerId with
  | none => rfl
  | some id => rfl

theorem WellFormed.allocatesExactly (wf : planner.WellFormed) : planner.AllocatesExactly where
  sorted := by
    rw [getAvailableRanges_eq]
    exact wf.ascending.gaps_separated
  maximalGaps range := by
    rw [getAvailableRanges_eq]
    exact wf.ascending.mem_gaps_iff
  accepts range runnerId := by
    rw [allocateChunk_eq, wf.allocateChunkInner_iff, wf.free_iff_inside,
      chunkCountReached_eq_false_iff, and_assoc]
  predecessorSuffices _ nonempty inside := wf.overlapsPredecessor_iff nonempty inside
  takes range runnerId after allocated point := by
    rw [allocateChunk_eq] at allocated
    rcases wf.allocateChunkInner_cases range runnerId _ with rejected | ⟨free, accepted⟩
    · cases rejected.symm.trans allocated
    · cases accepted.symm.trans allocated
      exact wf.available_addChunk free runnerId _ point

/-- In every reachable planner the available ranges are the maximal gaps between the chunks,
and exactly the ranges inside one of them are allocated, while more chunks are allowed.
-/
theorem available_exact {planner : ChunkPlanner} (reached : machine.Reachable planner)
    : planner.AllocatesExactly :=
  (reachable_wellFormed reached).allocatesExactly

/-- Two chunks leave three gaps: a range inside one is taken, and one across a chunk is not. -/
theorem available_exact_between
    : ∃ planner : ChunkPlanner,
        machine.execute (ChunkPlanner.new 1000)
            [.allocatePendingChunk ⟨100, 300⟩ 0, .allocateIdleChunk ⟨600, 800⟩]
          = some planner
        ∧ planner.getAvailableRanges = [⟨0, 100⟩, ⟨300, 600⟩, ⟨800, 1000⟩]
        ∧ (planner.allocateChunk ⟨300, 500⟩ (some 1)).1 = true
        ∧ (planner.allocateChunk ⟨0, 400⟩ none).1 = false
        ∧ planner.AllocatesExactly := by
  let events : List Operation :=
    [.allocatePendingChunk ⟨100, 300⟩ 0, .allocateIdleChunk ⟨600, 800⟩]
  have start : machine.Reachable (ChunkPlanner.new 1000) := .initial ⟨1000, by decide, rfl⟩
  have isRun : (machine.execute (ChunkPlanner.new 1000) events).isSome = true := by decide
  obtain ⟨planner, executed⟩ := Option.isSome_iff_exists.mp isRun
  have ranges
      : (machine.execute (ChunkPlanner.new 1000) events).map ChunkPlanner.getAvailableRanges
        = some [⟨0, 100⟩, ⟨300, 600⟩, ⟨800, 1000⟩] := by decide
  have inner
      : (machine.execute (ChunkPlanner.new 1000) events).map
          (fun planner => (planner.allocateChunk ⟨300, 500⟩ (some 1)).1) = some true := by decide
  have across
      : (machine.execute (ChunkPlanner.new 1000) events).map
          (fun planner => (planner.allocateChunk ⟨0, 400⟩ none).1) = some false := by decide
  rw [executed] at ranges inner across
  exact ⟨planner, executed, Option.some.inj ranges, Option.some.inj inner,
    Option.some.inj across, available_exact (start.execute events executed)⟩

end ChunkPlanner

end BoltLoad
