import BoltLoad.ChunkPlanner.Owners

/-! When a planner is complete: every offset is allocated, every chunk finished. A release
completes it exactly when the chunk was full and all else is done, and a complete planner
whose finished chunks are full has downloaded the file.
-/

namespace BoltLoad

open OrderedMap

namespace ChunkPlanner

/-- The offset is allocated to a chunk. -/
def Allotted (planner : ChunkPlanner) (point : Nat) : Prop :=
  ∃ start chunk, planner.chunks.get? start = some chunk ∧ point ∈ chunk.allocated

-----------------------------------------------------------------------------------------
-- The ranges left to allocate
-----------------------------------------------------------------------------------------

/-- The cursor passes over the chunks, noting the gaps, by induction on the chunks. -/
theorem foldl_availableStep (total : Nat) (chunks : List ChunkState) (found : List Range)
    (cursor : Nat)
    : (let passed := chunks.foldl availableStep (found, cursor)
        if passed.2 < total then passed.1 ++ [⟨passed.2, total⟩] else passed.1)
      = found ++ HalfOpen.gaps cursor total (chunks.map ChunkState.allocated) := by
  induction chunks generalizing found cursor with
  | nil =>
      simp only [List.map_nil, HalfOpen.gaps]
      change (if cursor < total then found ++ [⟨cursor, total⟩] else found) = _
      split <;> simp
  | cons chunk rest ih =>
      rw [List.foldl_cons, List.map_cons, HalfOpen.gaps, availableStep]
      have later := ih
        (if cursor < chunk.allocated.start then found ++ [⟨cursor, chunk.allocated.start⟩]
          else found)
        chunk.allocated.stop
      rw [later]
      split <;> simp

theorem getAvailableRanges_eq (planner : ChunkPlanner)
    : planner.getAvailableRanges
      = HalfOpen.gaps 0 planner.total (planner.chunks.values.map ChunkState.allocated) := by
  have passed := foldl_availableStep planner.total planner.chunks.values [] 0
  simpa [getAvailableRanges] using passed

variable {planner : ChunkPlanner}

/-- Nothing is left to allocate exactly when every offset is. -/
theorem WellFormed.getAvailableRanges_eq_nil_iff (wf : planner.WellFormed)
    : planner.getAvailableRanges = [] ↔ ∀ point < planner.total, planner.Allotted point := by
  rw [getAvailableRanges_eq, wf.ascending.gaps_eq_nil_iff_covered]
  refine ⟨fun covered point inside => ?_, fun covered point inside => ?_⟩
  · obtain ⟨range, member, holds⟩ := covered point ⟨Nat.zero_le _, inside⟩
    obtain ⟨chunk, listed, rfl⟩ := List.mem_map.mp member
    obtain ⟨start, found⟩ := mem_values_iff.mp listed
    exact ⟨start, chunk, found, holds⟩
  · obtain ⟨start, chunk, found, holds⟩ := covered point inside.2
    exact ⟨_, List.mem_map_of_mem (mem_values_iff.mpr ⟨start, found⟩), holds⟩

-----------------------------------------------------------------------------------------
-- Completion
-----------------------------------------------------------------------------------------

/-- A planner is complete when it has chunks, all finished, and every offset is allocated. -/
theorem WellFormed.isComplete_iff (wf : planner.WellFormed)
    : planner.isComplete = true
      ↔ (∃ start chunk, planner.chunks.get? start = some chunk)
        ∧ (∀ start chunk, planner.chunks.get? start = some chunk → chunk.status = .finished)
        ∧ ∀ point < planner.total, planner.Allotted point := by
  have some_chunk
      : planner.chunks.entries ≠ [] ↔ ∃ start chunk, planner.chunks.get? start = some chunk := by
    refine ⟨fun nonempty => ?_, ?_⟩
    · obtain ⟨entry, member⟩ := List.exists_mem_of_ne_nil _ nonempty
      exact ⟨entry.1, entry.2, get?_eq_some_iff.mpr member⟩
    · rintro ⟨start, chunk, found⟩
      exact List.ne_nil_of_mem (get?_eq_some_iff.mp found)
  have all_finished
      : (∀ chunk ∈ planner.chunks.values, chunk.status = .finished)
        ↔ ∀ start chunk, planner.chunks.get? start = some chunk → chunk.status = .finished := by
    refine ⟨fun all start chunk found => all chunk (mem_values_iff.mpr ⟨start, found⟩), ?_⟩
    intro all chunk member
    obtain ⟨start, found⟩ := mem_values_iff.mp member
    exact all start chunk found
  rw [← some_chunk, ← all_finished, ← wf.getAvailableRanges_eq_nil_iff]
  simp [isComplete, and_assoc]

section Release

variable {runnerId : RunnerId} {chunk : ChunkState}

/-- The state in which releasing a chunk completes the planner: it is full, every other
chunk is finished, and every offset is allocated.
-/
structure Completes (planner : ChunkPlanner) (chunk : ChunkState) : Prop where
  full : chunk.downloaded.stop = chunk.allocated.stop
  others
    : ∀ start other,
        planner.chunks.get? start = some other
        → start ≠ chunk.allocated.start
        → other.status = .finished
  allotted : ∀ point < planner.total, planner.Allotted point

/-- The chunks of a released planner: the others, and what was downloaded of this one. -/
theorem get?_release (start : Nat)
    : (planner.release runnerId chunk).chunks.get? start
      = if start = chunk.allocated.start then
          if chunk.downloaded.start = chunk.downloaded.stop then none else some chunk.kept
        else planner.chunks.get? start := by
  unfold release
  split
  · simp only [get?_erase]
  · simp only [withChunk, forget, get?_insert]

/-- A release completes the planner exactly in the state above. -/
theorem Owns.release_isComplete_iff (wf : planner.WellFormed)
    (owned : planner.Owns runnerId chunk)
    : (planner.release runnerId chunk).isComplete = true ↔ planner.Completes chunk := by
  have shaped := wf.shaped owned.found
  have anchored := shaped.anchored
  rw [(owned.release_wellFormed wf).isComplete_iff, total_release]
  refine ⟨?_, ?_⟩
  · rintro ⟨_, finished, allotted⟩
    -- An offset of the chunk can only be allocated to what is kept of it.
    have kept (point : Nat) (inside : point ∈ chunk.allocated)
        : chunk.downloaded.start ≠ chunk.downloaded.stop ∧ point ∈ chunk.downloaded := by
      obtain ⟨start, holder, found, holds⟩ := allotted point (inside.2.trans_le shaped.inside)
      rw [get?_release] at found
      split at found
      · split at found
        · cases found
        · rename_i nonempty
          cases found
          refine ⟨nonempty, ?_⟩
          simp only [ChunkState.kept, HalfOpen.mem_iff] at holds
          exact ⟨anchored ▸ holds.1, holds.2⟩
      · rename_i elsewhere
        exact absurd (wf.start_unique found owned.found holds inside) elsewhere
    refine ⟨?_, ?_, ?_⟩
    · by_contra short
      have tail := kept chunk.downloaded.stop
        ⟨by have started := shaped.started; omega, by have bounded := shaped.bounded; omega⟩
      exact tail.2.2.false
    · intro start other found elsewhere
      refine finished start other ?_
      rw [get?_release, if_neg elsewhere]
      exact found
    · intro point inside
      obtain ⟨start, holder, found, holds⟩ := allotted point inside
      rw [get?_release] at found
      split at found
      · split at found
        · cases found
        · cases found
          refine ⟨_, _, owned.found, holds.1, ?_⟩
          exact holds.2.trans_le shaped.bounded
      · exact ⟨start, holder, found, holds⟩
  · intro completes
    have nonempty : chunk.downloaded.start ≠ chunk.downloaded.stop := by
      have wide := shaped.nonempty
      have full := completes.full
      omega
    have mine
        : (planner.release runnerId chunk).chunks.get? chunk.allocated.start
          = some chunk.kept := by
      rw [get?_release, if_pos rfl, if_neg nonempty]
    refine ⟨⟨_, _, mine⟩, ?_, ?_⟩
    · intro start other found
      by_cases same : start = chunk.allocated.start
      · subst same
        cases found.symm.trans mine
        rfl
      · rw [get?_release, if_neg same] at found
        exact completes.others start other found same
    · intro point inside
      obtain ⟨start, holder, found, holds⟩ := completes.allotted point inside
      by_cases same : start = chunk.allocated.start
      · subst same
        cases found.symm.trans owned.found
        refine ⟨_, _, mine, holds.1, ?_⟩
        simp only [ChunkState.kept, completes.full]
        exact holds.2
      · refine ⟨start, holder, ?_, holds⟩
        rw [get?_release, if_neg same]
        exact found

end Release

-----------------------------------------------------------------------------------------
-- What a complete planner has downloaded
-----------------------------------------------------------------------------------------

/-- Ranges that follow each other merge into one, by induction on the ranges. -/
theorem foldl_mergeStep_tiles {first cursor total : Nat} {ranges : List Range}
    (ascending : HalfOpen.Ascending cursor total ranges)
    (tiles : HalfOpen.Tiles cursor total ranges)
    : ranges.foldl mergeStep [⟨first, cursor⟩] = [⟨first, total⟩] := by
  induction ranges generalizing cursor with
  | nil =>
      have last : cursor = total := tiles
      rw [last]
      rfl
  | cons range rest ih =>
      obtain ⟨starts, tail⟩ := tiles
      obtain ⟨-, nonempty, later⟩ := ascending
      have merged : mergeStep [⟨first, cursor⟩] range = [⟨first, range.stop⟩] := by
        have latest : max cursor range.stop = range.stop := max_eq_right (by omega)
        simp only [mergeStep, starts, ge_iff_le, le_refl, if_true, latest]
      rw [List.foldl_cons, merged]
      exact ih later tail

section Complete

variable (wf : planner.WellFormed) (complete : planner.isComplete = true)
  (full
    : ∀ start chunk,
        planner.chunks.get? start = some chunk
        → chunk.status = .finished
        → chunk.downloaded.stop = chunk.allocated.stop)

include wf complete

/-- The chunks of a complete planner tile the file. -/
theorem WellFormed.tiles_of_complete
    : HalfOpen.Tiles 0 planner.total (planner.chunks.values.map ChunkState.allocated) := by
  obtain ⟨-, -, allotted⟩ := wf.isComplete_iff.mp complete
  rw [← wf.ascending.gaps_eq_nil_iff, ← getAvailableRanges_eq, wf.getAvailableRanges_eq_nil_iff]
  exact allotted

include full

/-- Where finished chunks are full, every chunk of a complete planner was downloaded whole. -/
theorem WellFormed.whole_of_complete {chunk : ChunkState} (member : chunk ∈ planner.chunks.values)
    : chunk.downloaded = chunk.allocated ∧ chunk.downloaded.start < chunk.downloaded.stop := by
  obtain ⟨-, finished, -⟩ := wf.isComplete_iff.mp complete
  obtain ⟨start, found⟩ := mem_values_iff.mp member
  have shaped := wf.shaped found
  have stop := full start chunk found (finished start chunk found)
  have same : chunk.downloaded = chunk.allocated := by
    cases downloaded : chunk.downloaded
    cases allocated : chunk.allocated
    have anchored := shaped.anchored
    simp_all
  exact ⟨same, same ▸ shaped.nonempty⟩

/-- It has accepted every byte of the file. -/
theorem WellFormed.getTotalDownloaded_of_complete : planner.getTotalDownloaded = planner.total := by
  have lengths
      : planner.chunks.values.map (fun chunk => chunk.downloaded.len)
        = (planner.chunks.values.map ChunkState.allocated).map HalfOpen.len := by
    rw [List.map_map]
    refine List.map_congr_left (fun chunk member => ?_)
    rw [(wf.whole_of_complete complete full member).1]
    rfl
  rw [getTotalDownloaded, wf.accounted, sumBy_eq_sum_values, lengths,
    wf.ascending.sum_eq (wf.tiles_of_complete complete), Nat.sub_zero]

/-- It reports the whole file as downloaded. -/
theorem WellFormed.getDownloadedRanges_of_complete
    : planner.getDownloadedRanges = [⟨0, planner.total⟩] := by
  obtain ⟨⟨someStart, someChunk, someFound⟩, -, -⟩ := wf.isComplete_iff.mp complete
  have whole (chunk : ChunkState) (member : chunk ∈ planner.chunks.values) :=
    wf.whole_of_complete complete full member
  have ranges
      : (planner.chunks.values.filter
          (fun chunk => decide (chunk.downloaded.start < chunk.downloaded.stop))).map
          ChunkState.downloaded
        = planner.chunks.values.map ChunkState.allocated := by
    rw [List.filter_eq_self.mpr (fun chunk member => by simpa using (whole chunk member).2)]
    exact List.map_congr_left (fun chunk member => (whole chunk member).1)
  have ascending := wf.ascending
  have tiles := wf.tiles_of_complete complete
  have nonempty : planner.chunks.values.map ChunkState.allocated ≠ [] :=
    List.ne_nil_of_mem (List.mem_map_of_mem (mem_values_iff.mpr ⟨someStart, someFound⟩))
  unfold getDownloadedRanges mergeAdjacentRanges
  simp only [ranges]
  generalize planner.chunks.values.map ChunkState.allocated = allocated
    at ascending tiles nonempty
  have sorted : allocated.Pairwise (fun left right => left.start ≤ right.start) :=
    ascending.pairwise_start
  rw [sorted.insertionSort_eq, sorted.insertionSort_eq]
  cases allocated with
  | nil => exact absurd rfl nonempty
  | cons first rest =>
      obtain ⟨starts, tail⟩ := tiles
      obtain ⟨-, -, later⟩ := ascending
      have merged : rest.foldl mergeStep [⟨0, first.stop⟩] = [⟨0, planner.total⟩] :=
        foldl_mergeStep_tiles later tail
      simp only
      have head : first = ⟨0, first.stop⟩ := by rw [← starts]
      rw [head, merged]
      rfl

end Complete

end ChunkPlanner

end BoltLoad
