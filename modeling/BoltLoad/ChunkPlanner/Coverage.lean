import BoltLoad.ChunkPlanner.Completion
import BoltLoad.ChunkPlanner.Owners

/-! The offsets a planner has downloaded. Accepting bytes adds the accepted range, which was
not downloaded before; nothing else the manager does changes them.
-/

namespace BoltLoad

open OrderedMap

namespace ChunkPlanner

/-- The offset is among the downloaded ones. -/
def Covered (planner : ChunkPlanner) (point : Nat) : Prop :=
  ∃ start chunk, planner.chunks.get? start = some chunk ∧ point ∈ chunk.downloaded

variable {planner : ChunkPlanner} {runnerId : RunnerId} {chunk : ChunkState} {point : Nat}

/-- Only the downloaded parts of the chunks matter. -/
theorem covered_congr {before after : ChunkPlanner}
    (same
      : ∀ start,
          (after.chunks.get? start).map ChunkState.downloaded
          = (before.chunks.get? start).map ChunkState.downloaded)
    (point : Nat)
    : after.Covered point ↔ before.Covered point := by
  have either {left right : ChunkPlanner}
      (same
        : ∀ start,
            (left.chunks.get? start).map ChunkState.downloaded
            = (right.chunks.get? start).map ChunkState.downloaded)
      (covered : left.Covered point)
      : right.Covered point := by
    obtain ⟨start, chunk, found, holds⟩ := covered
    have mapped := same start
    rw [found, Option.map_some, eq_comm, Option.map_eq_some_iff] at mapped
    obtain ⟨other, foundOther, downloaded⟩ := mapped
    exact ⟨start, other, foundOther, downloaded ▸ holds⟩
  exact ⟨either same, either (fun start => (same start).symm)⟩

theorem WellFormed.covered_lt (wf : planner.WellFormed) (covered : planner.Covered point)
    : point < planner.total := by
  obtain ⟨start, chunk, found, holds⟩ := covered
  have shaped := wf.shaped found
  exact (holds.2.trans_le shaped.bounded).trans_le shaped.inside

/-- What a chunk still has to download is not downloaded by any chunk. -/
theorem Owns.uncovered (wf : planner.WellFormed) (owned : planner.Owns runnerId chunk)
    (inside : point ∈ chunk.incompleteRange)
    : ¬ planner.Covered point := by
  rintro ⟨start, holder, found, holds⟩
  have mine := wf.shaped owned.found
  have theirs := wf.shaped found
  have inMine : point ∈ chunk.allocated :=
    ⟨by have := mine.anchored; have := mine.started; have := inside.1
        simp only [ChunkState.incompleteRange] at this; omega,
      inside.2⟩
  have inTheirs : point ∈ holder.allocated :=
    ⟨theirs.anchored ▸ holds.1, holds.2.trans_le theirs.bounded⟩
  have same := wf.start_unique found owned.found inTheirs inMine
  subst same
  cases found.symm.trans owned.found
  exact (holds.2.trans_le inside.1).false

/-- Replacing a chunk by one with the same downloaded part changes nothing. -/
theorem Owns.covered_withChunk (owned : planner.Owns runnerId chunk) {replacement : ChunkState}
    (same : replacement.downloaded = chunk.downloaded) (point : Nat)
    : (planner.withChunk chunk.allocated.start replacement).Covered point
      ↔ planner.Covered point := by
  refine covered_congr (fun start => ?_) point
  simp only [withChunk, get?_insert]
  split
  · rename_i key
    rw [key, owned.found, Option.map_some, Option.map_some, same]
  · rfl

/-- A release keeps what was downloaded. -/
theorem Owns.covered_release (owned : planner.Owns runnerId chunk) (point : Nat)
    : (planner.release runnerId chunk).Covered point ↔ planner.Covered point := by
  unfold release
  split
  · rename_i empty
    refine ⟨?_, ?_⟩
    · rintro ⟨start, holder, found, holds⟩
      simp only [get?_erase] at found
      split at found
      · cases found
      · exact ⟨start, holder, found, holds⟩
    · rintro ⟨start, holder, found, holds⟩
      refine ⟨start, holder, ?_, holds⟩
      simp only [get?_erase]
      rw [if_neg, found]
      intro key
      subst key
      cases found.symm.trans owned.found
      exact (holds.1.trans_lt holds.2).ne empty
  · have kept : chunk.kept.downloaded = chunk.downloaded := rfl
    exact owned.covered_withChunk kept point

/-- Accepting bytes covers exactly the accepted range on top. -/
theorem Owns.covered_advance (wf : planner.WellFormed) (owned : planner.Owns runnerId chunk)
    (bytes point : Nat)
    : (planner.advance chunk bytes).Covered point
      ↔ planner.Covered point
        ∨ point ∈ (⟨chunk.downloaded.stop,
            chunk.downloaded.stop
              + min bytes (chunk.allocated.stop - chunk.downloaded.stop)⟩ : Range) := by
  have started := (wf.shaped owned.found).started
  have mine
      : (planner.advance chunk bytes).chunks.get? chunk.allocated.start
        = some (chunk.advanced bytes) := get?_insert_self _ _ _
  refine ⟨?_, ?_⟩
  · rintro ⟨start, holder, found, holds⟩
    by_cases key : start = chunk.allocated.start
    · subst key
      cases found.symm.trans mine
      rcases lt_or_ge point chunk.downloaded.stop with before | after
      · exact Or.inl ⟨_, chunk, owned.found, holds.1, before⟩
      · exact Or.inr ⟨after, holds.2⟩
    · simp only [advance, get?_insert_of_ne _ _ key] at found
      exact Or.inl ⟨start, holder, found, holds⟩
  · intro covered
    rcases covered with ⟨start, holder, found, holds⟩ | inside
    · by_cases key : start = chunk.allocated.start
      · subst key
        cases found.symm.trans owned.found
        exact ⟨_, _, mine, holds.1, holds.2.trans_le (Nat.le_add_right _ _)⟩
      · refine ⟨start, holder, ?_, holds⟩
        simp only [advance, get?_insert_of_ne _ _ key]
        exact found
    · exact ⟨_, _, mine, started.trans inside.1, inside.2⟩

/-- A new chunk has nothing downloaded. -/
theorem WellFormed.covered_addChunk (wf : planner.WellFormed) {range : Range}
    (free : planner.Free range) (runnerId : Option RunnerId) (status : ChunkStatus) (point : Nat)
    : (planner.addChunk range runnerId status).Covered point ↔ planner.Covered point := by
  refine ⟨?_, ?_⟩
  · rintro ⟨start, holder, found, holds⟩
    simp only [addChunk, get?_insert] at found
    split at found
    · cases found
      exact absurd (holds.1.trans_lt holds.2) (lt_irrefl _)
    · exact ⟨start, holder, found, holds⟩
  · rintro ⟨start, holder, found, holds⟩
    refine ⟨start, holder, ?_, holds⟩
    have nonempty := (wf.shaped found).nonempty
    have key := wf.keyed found
    have wide := free.nonempty
    have elsewhere : start ≠ range.start := by
      rcases free.apart found with left | right <;> omega
    simp only [addChunk, get?_insert_of_ne _ _ elsewhere]
    exact found

/-- Where finished chunks are full, a complete planner has downloaded every byte. -/
theorem WellFormed.covered_of_complete (wf : planner.WellFormed)
    (complete : planner.isComplete = true)
    (full
      : ∀ start chunk,
          planner.chunks.get? start = some chunk
          → chunk.status = .finished
          → chunk.downloaded.stop = chunk.allocated.stop)
    (inside : point < planner.total)
    : planner.Covered point := by
  obtain ⟨-, -, allotted⟩ := wf.isComplete_iff.mp complete
  obtain ⟨start, chunk, found, holds⟩ := allotted point inside
  have whole := (wf.whole_of_complete complete full (mem_values_iff.mpr ⟨start, found⟩)).1
  exact ⟨start, chunk, found, whole ▸ holds⟩

end ChunkPlanner

end BoltLoad
