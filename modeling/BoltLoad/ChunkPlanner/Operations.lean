import BoltLoad.ChunkPlanner.Invariant

/-! What each planner operation does to a well-formed planner, and that it stays well
formed. An operation on an unmapped runner fails and changes nothing; on a mapped one it
changes the chunk that runner owns.
-/

namespace BoltLoad

open OrderedMap

namespace ChunkState

/-- The chunk after accepting at most `bytes` more bytes. -/
def advanced (chunk : ChunkState) (bytes : Nat) : ChunkState :=
  let stop := chunk.downloaded.stop + min bytes (chunk.allocated.stop - chunk.downloaded.stop)
  { chunk with
    downloaded := ⟨chunk.downloaded.start, stop⟩
    status := if stop ≥ chunk.allocated.stop then .finished else chunk.status }

/-- The chunk cut off after its downloaded part, which no runner continues. -/
def kept (chunk : ChunkState) : ChunkState :=
  { chunk with
    allocated := ⟨chunk.allocated.start, chunk.downloaded.stop⟩
    status := .finished
    runnerId := none }

/-- The chunk cut off at `stop`. -/
def cutAt (chunk : ChunkState) (stop : Nat) : ChunkState :=
  { chunk with allocated := ⟨chunk.allocated.start, stop⟩ }

theorem Shaped.advanced {chunk : ChunkState} {total : Nat} (shaped : chunk.Shaped total)
    (bytes : Nat)
    : (chunk.advanced bytes).Shaped total where
  nonempty := shaped.nonempty
  inside := shaped.inside
  anchored := shaped.anchored
  started := by
    have started := shaped.started
    simp only [ChunkState.advanced]
    omega
  bounded := by
    have bounded := shaped.bounded
    simp only [ChunkState.advanced]
    omega

end ChunkState

namespace ChunkPlanner

/-- The planner after a runner's chunk accepted at most `bytes` more bytes. -/
def advance (planner : ChunkPlanner) (chunk : ChunkState) (bytes : Nat) : ChunkPlanner :=
  { planner with
    chunks := planner.chunks.insert chunk.allocated.start (chunk.advanced bytes)
    acceptedBytes :=
      planner.acceptedBytes + min bytes (chunk.allocated.stop - chunk.downloaded.stop) }

/-- The planner with one chunk replaced in place. -/
def withChunk (planner : ChunkPlanner) (start : Nat) (chunk : ChunkState) : ChunkPlanner :=
  { planner with chunks := planner.chunks.insert start chunk }

/-- The planner without one runner's mapping. -/
def forget (planner : ChunkPlanner) (runnerId : RunnerId) : ChunkPlanner :=
  { planner with runnerToChunk := planner.runnerToChunk.erase runnerId }

/-- The planner after the unfinished part of a runner's chunk was released. -/
def release (planner : ChunkPlanner) (runnerId : RunnerId) (chunk : ChunkState) : ChunkPlanner :=
  if chunk.downloaded.start = chunk.downloaded.stop then
    { planner.forget runnerId with chunks := planner.chunks.erase chunk.allocated.start }
  else
    (planner.forget runnerId).withChunk chunk.allocated.start chunk.kept

/-- A runner is unmapped or owns a chunk. -/
theorem WellFormed.unmapped_or_owns {planner : ChunkPlanner} (wf : planner.WellFormed)
    (runnerId : RunnerId)
    : planner.runnerToChunk.get? runnerId = none ∨ ∃ chunk, planner.Owns runnerId chunk := by
  cases mapped : planner.runnerToChunk.get? runnerId with
  | none => exact .inl rfl
  | some start =>
      obtain ⟨chunk, owned, -, -⟩ := wf.owns mapped
      exact .inr ⟨chunk, owned⟩

-----------------------------------------------------------------------------------------
-- Allocation
-----------------------------------------------------------------------------------------

/-- The check of the single predecessor finds every overlap: chunks starting earlier end
before the predecessor does.
-/
theorem WellFormed.free_iff {planner : ChunkPlanner} (wf : planner.WellFormed)
    {range : Range} (nonempty : range.start < range.stop) (inside : range.stop ≤ planner.total)
    : planner.overlapsPredecessor range = false ↔ planner.Free range := by
  unfold overlapsPredecessor
  cases below : planner.chunks.lastBelow range.stop with
  | none =>
      refine ⟨fun _ => ⟨nonempty, inside, fun found => .inr ?_⟩, fun _ => rfl⟩
      exact lastBelow_eq_none below (get?_eq_some_iff.mp found)
  | some pred =>
      obtain ⟨member, less, greatest⟩ := lastBelow_eq_some below
      have predFound : planner.chunks.get? pred.1 = some pred.2 := get?_eq_some_iff.mpr member
      simp only [Option.any_some, decide_eq_false_iff_not, gt_iff_lt, not_lt]
      constructor
      · intro stops
        refine ⟨nonempty, inside, fun {start chunk} found => ?_⟩
        rcases lt_or_ge start range.stop with before | after
        · have notLater := greatest (start, chunk) (get?_eq_some_iff.mp found) before
          rcases lt_or_eq_of_le notLater with earlier | same
          · have apart := wf.apart found predFound earlier
            have predKey := wf.keyed predFound
            have predNonempty := (wf.shaped predFound).nonempty
            omega
          · simp only at same
            subst same
            cases Option.some.inj (found.symm.trans predFound)
            exact .inl stops
        · exact .inr after
      · intro free
        rcases free.apart predFound with before | after
        · exact before
        · omega

/-- An allocation is rejected without a change, or adds a chunk of a free range. -/
theorem WellFormed.allocateChunkInner_cases {planner : ChunkPlanner}
    (wf : planner.WellFormed) (range : Range) (runnerId : Option RunnerId)
    (status : ChunkStatus)
    : planner.allocateChunkInner range runnerId status = (false, planner)
      ∨ planner.Free range
        ∧ planner.allocateChunkInner range runnerId status
          = (true, planner.addChunk range runnerId status) := by
  unfold allocateChunkInner
  split
  · exact .inl rfl
  rename_i valid
  split
  · exact .inl rfl
  split
  · exact .inl rfl
  rename_i clear
  simp only [ge_iff_le, gt_iff_lt, Bool.or_eq_true, decide_eq_true_eq, not_or, not_le,
    not_lt] at valid
  exact .inr ⟨(wf.free_iff valid.1 valid.2).mp (by simpa using clear), rfl⟩

/-- A free range is allocated unless the chunk count has reached its maximum. -/
theorem WellFormed.allocateChunkInner_of_free {planner : ChunkPlanner}
    (wf : planner.WellFormed) {range : Range} (free : planner.Free range)
    (room : planner.chunkCountReached = false) (runnerId : Option RunnerId)
    (status : ChunkStatus)
    : planner.allocateChunkInner range runnerId status
      = (true, planner.addChunk range runnerId status) := by
  have nonempty := free.nonempty
  have inside := free.inside
  have clear := (wf.free_iff nonempty inside).mpr free
  simp [allocateChunkInner, room, clear, nonempty, inside]

-----------------------------------------------------------------------------------------
-- Progress
-----------------------------------------------------------------------------------------

/-- Accepting bytes keeps the planner well formed, so they never pass the file's total. -/
theorem Owns.advance_wellFormed {planner : ChunkPlanner} {runnerId : RunnerId} {chunk : ChunkState}
    (wf : planner.WellFormed) (owned : planner.Owns runnerId chunk) (bytes : Nat)
    : (planner.advance chunk bytes).WellFormed := by
  have shaped := wf.shaped owned.found
  refine wf.replaceOwned owned
    ⟨owned.found, shaped.advanced bytes, rfl, le_refl _, ?_⟩ rfl
  have started := shaped.started
  simp only [ChunkState.advanced, HalfOpen.len]
  omega

/-- An owned chunk accepts at most its remaining length, without overflow. -/
theorem Owns.updateProgress_eq {planner : ChunkPlanner} {runnerId : RunnerId}
    {chunk : ChunkState} (wf : planner.WellFormed) (owned : planner.Owns runnerId chunk)
    (bytes : Nat)
    : planner.updateProgress runnerId bytes
      = .ok (.ok ⟨chunk.downloaded.stop, (chunk.advanced bytes).downloaded.stop⟩,
          planner.advance chunk bytes) := by
  have shaped := wf.shaped owned.found
  have inside := shaped.inside
  have bounded := shaped.bounded
  have representable := wf.representable
  have accepted := (owned.advance_wellFormed wf bytes).acceptedBytes_le
  simp only [advance] at accepted
  let taken := min bytes (chunk.allocated.stop - chunk.downloaded.stop)
  have added
      : Checked.add chunk.downloaded.stop taken = .ok (chunk.downloaded.stop + taken) :=
    Checked.add_eq (by omega)
  have difference
      : Checked.sub (chunk.downloaded.stop + taken) chunk.downloaded.stop
        = .ok (chunk.downloaded.stop + taken - chunk.downloaded.stop) :=
    Checked.sub_eq (by omega)
  have total
      : Checked.add planner.acceptedBytes taken = .ok (planner.acceptedBytes + taken) :=
    Checked.add_eq (by omega)
  simp only [taken] at added difference total
  simp only [updateProgress, owned.mapped, owned.found, shaped.remaining_eq, Checked.ok_bind,
    added, difference, Nat.add_sub_cancel_left, total, ChunkState.isComplete, advance,
    ChunkState.advanced, decide_eq_true_eq]
  split <;> rfl

/-- Progress of an unmapped runner is refused without a change. -/
theorem updateProgress_of_unmapped {planner : ChunkPlanner} {runnerId : RunnerId}
    (unmapped : planner.runnerToChunk.get? runnerId = none) (bytes : Nat)
    : planner.updateProgress runnerId bytes
      = .ok (.error s!"Runner {runnerId} not found", planner) := by
  simp [updateProgress, unmapped]

-----------------------------------------------------------------------------------------
-- Status changes
-----------------------------------------------------------------------------------------

theorem Owns.markRunning_eq {planner : ChunkPlanner} {runnerId : RunnerId}
    {chunk : ChunkState} (owned : planner.Owns runnerId chunk)
    : planner.markRunning runnerId
      = (.ok (), planner.withChunk chunk.allocated.start { chunk with status := .running }) := by
  simp [markRunning, owned.mapped, owned.found, withChunk]

theorem Owns.markRunning_wellFormed {planner : ChunkPlanner} {runnerId : RunnerId}
    {chunk : ChunkState} (wf : planner.WellFormed) (owned : planner.Owns runnerId chunk)
    : (planner.withChunk chunk.allocated.start { chunk with status := .running }).WellFormed := by
  have shaped := wf.shaped owned.found
  have fits : planner.Replaces chunk { chunk with status := .running } planner.acceptedBytes :=
    ⟨owned.found,
      ⟨shaped.nonempty, shaped.inside, shaped.anchored, shaped.started, shaped.bounded⟩,
      rfl, le_refl _, rfl⟩
  exact wf.replaceOwned owned fits rfl

theorem Owns.markFinished_eq {planner : ChunkPlanner} {runnerId : RunnerId}
    {chunk : ChunkState} (owned : planner.Owns runnerId chunk)
    : planner.markFinished runnerId
      = (.ok (),
          (planner.forget runnerId).withChunk chunk.allocated.start
            { chunk with status := .finished }) := by
  simp [markFinished, owned.mapped, owned.found, withChunk, forget]

theorem Owns.markFinished_wellFormed {planner : ChunkPlanner} {runnerId : RunnerId}
    {chunk : ChunkState} (wf : planner.WellFormed) (owned : planner.Owns runnerId chunk)
    : ((planner.forget runnerId).withChunk chunk.allocated.start
        { chunk with status := .finished }).WellFormed := by
  have shaped := wf.shaped owned.found
  have fits : planner.Replaces chunk { chunk with status := .finished } planner.acceptedBytes :=
    ⟨owned.found,
      ⟨shaped.nonempty, shaped.inside, shaped.anchored, shaped.started, shaped.bounded⟩,
      rfl, le_refl _, rfl⟩
  exact wf.replaceReleased owned fits rfl

/-- Failing an owned chunk releases what it did not download. -/
theorem Owns.markFailed_eq {planner : ChunkPlanner} {runnerId : RunnerId}
    {chunk : ChunkState} (wf : planner.WellFormed) (owned : planner.Owns runnerId chunk)
    : planner.markFailed runnerId
      = (.ok ⟨chunk.downloaded.stop, chunk.allocated.stop⟩, planner.release runnerId chunk) := by
  have anchored := (wf.shaped owned.found).anchored
  simp only [markFailed, owned.mapped, owned.found, release, forget]
  split
  · rename_i untouched
    rw [← untouched, anchored]
  · simp [withChunk, insert_erase_self, ChunkState.kept]

theorem Owns.release_wellFormed {planner : ChunkPlanner} {runnerId : RunnerId}
    {chunk : ChunkState} (wf : planner.WellFormed) (owned : planner.Owns runnerId chunk)
    : (planner.release runnerId chunk).WellFormed := by
  have shaped := wf.shaped owned.found
  unfold release
  split
  · rename_i untouched
    exact wf.remove owned untouched
  · rename_i touched
    have anchored := shaped.anchored
    have started := shaped.started
    have bounded := shaped.bounded
    have inside := shaped.inside
    have kept : chunk.kept.Shaped planner.total := {
      nonempty := by
        simp only [ChunkState.kept]
        omega
      inside := bounded.trans inside
      anchored := anchored
      started := started
      bounded := le_refl _
    }
    exact wf.replaceReleased owned ⟨owned.found, kept, rfl, bounded, rfl⟩ rfl

/-- The status changes of an unmapped runner fail and change nothing. -/
theorem mark_of_unmapped {planner : ChunkPlanner} {runnerId : RunnerId}
    (unmapped : planner.runnerToChunk.get? runnerId = none)
    : planner.markRunning runnerId = (.error (.runnerNotFound runnerId), planner)
      ∧ planner.markFinished runnerId = (.error (.runnerNotFound runnerId), planner)
      ∧ planner.markFailed runnerId = (.error (.runnerNotFound runnerId), planner) := by
  simp [markRunning, markFinished, markFailed, unmapped]

-----------------------------------------------------------------------------------------
-- Resizing and splitting
-----------------------------------------------------------------------------------------

/-- A chunk may be cut off anywhere from its downloaded part on, if it stays nonempty. -/
theorem Owns.cutAt_wellFormed {planner : ChunkPlanner} {runnerId : RunnerId}
    {chunk : ChunkState} (wf : planner.WellFormed) (owned : planner.Owns runnerId chunk)
    {stop : Nat} (nonempty : chunk.allocated.start < stop)
    (keeps : chunk.downloaded.stop ≤ stop) (shrinks : stop ≤ chunk.allocated.stop)
    : (planner.withChunk chunk.allocated.start (chunk.cutAt stop)).WellFormed := by
  have shaped := wf.shaped owned.found
  have fits : planner.Replaces chunk (chunk.cutAt stop) planner.acceptedBytes :=
    ⟨owned.found,
      ⟨nonempty, shrinks.trans shaped.inside, shaped.anchored, shaped.started, keeps⟩,
      rfl, shrinks, rfl⟩
  exact wf.replaceOwned owned fits rfl

/-- A resize leaves the planner as it is, or cuts the chunk off strictly before its end. -/
theorem Owns.resizeRunnerState_cases {planner : ChunkPlanner} {runnerId : RunnerId}
    {chunk : ChunkState} (wf : planner.WellFormed) (owned : planner.Owns runnerId chunk)
    (newSize : Nat)
    : (planner.resizeRunnerState runnerId newSize
          = .ok (.error (.invalidResize runnerId newSize), planner)
        ∧ (chunk.downloaded.stop + newSize ≤ chunk.allocated.start
          ∨ chunk.allocated.stop < chunk.downloaded.stop + newSize))
      ∨ (planner.resizeRunnerState runnerId newSize = .ok (.ok .unchanged, planner)
        ∧ chunk.downloaded.stop + newSize = chunk.allocated.stop)
      ∨ (planner.resizeRunnerState runnerId newSize
          = .ok
              (.ok (.shrunk (chunk.downloaded.stop + newSize - chunk.allocated.start)),
              planner.withChunk chunk.allocated.start
                (chunk.cutAt (chunk.downloaded.stop + newSize)))
        ∧ chunk.allocated.start < chunk.downloaded.stop + newSize
        ∧ chunk.downloaded.stop + newSize < chunk.allocated.stop) := by
  have inside := (wf.shaped owned.found).inside
  have representable := wf.representable
  simp only [resizeRunnerState, owned.mapped, owned.found, Checked.checkedAdd]
  split
  · rename_i none_eq
    split at none_eq
    · cases none_eq
    · exact .inl ⟨rfl, .inr (by omega)⟩
  · rename_i newEnd some_eq
    split at some_eq
    · cases some_eq
      split
      · rename_i same
        exact .inr (.inl ⟨rfl, same⟩)
      · rename_i differs
        split
        · rename_i inner
          refine .inr (.inr ⟨?_, inner⟩)
          rw [Checked.sub_eq inner.1.le]
          rfl
        · rename_i outer
          exact .inl ⟨rfl, by omega⟩
    · cases some_eq

theorem resizeRunnerState_of_unmapped {planner : ChunkPlanner} {runnerId : RunnerId}
    (unmapped : planner.runnerToChunk.get? runnerId = none) (newSize : Nat)
    : planner.resizeRunnerState runnerId newSize
      = .ok (.error (.runnerNotFound runnerId), planner) := by
  simp [resizeRunnerState, unmapped]

/-- The planner after a runner's chunk was cut off at `stop` and the rest given to a new
running runner.
-/
def divide (planner : ChunkPlanner) (chunk : ChunkState) (stop : Nat)
    (newRunnerId : RunnerId)
    : ChunkPlanner :=
  (planner.withChunk chunk.allocated.start (chunk.cutAt stop)).addChunk
    ⟨stop, chunk.allocated.stop⟩ (some newRunnerId) .running

/-- A split changes nothing, or divides the chunk inside its incomplete range. -/
theorem Owns.splitChunk_cases {planner : ChunkPlanner} {runnerId : RunnerId}
    {chunk : ChunkState} (owned : planner.Owns runnerId chunk)
    (splitPos : Nat) (newRunnerId : RunnerId)
    : planner.splitChunk runnerId splitPos newRunnerId
        = (.error (.invalidSplitPosition splitPos), planner)
      ∨ (planner.splitChunk runnerId splitPos newRunnerId
          = (.ok ⟨splitPos, chunk.allocated.stop⟩, planner.divide chunk splitPos newRunnerId)
        ∧ chunk.downloaded.stop < splitPos
        ∧ splitPos < chunk.allocated.stop) := by
  have remapped
      : (planner.runnerToChunk.erase runnerId).insert runnerId chunk.allocated.start
        = planner.runnerToChunk := by
    rw [insert_erase_self, insert_of_get? owned.mapped]
  simp only [splitChunk, owned.mapped, owned.found, insert_erase_self, remapped]
  split
  · exact .inl (by rw [insert_of_get? owned.found])
  · rename_i inner
    simp only [ge_iff_le, Bool.or_eq_true, decide_eq_true_eq, not_or, not_le] at inner
    exact .inr ⟨rfl, inner⟩

theorem splitChunk_of_unmapped {planner : ChunkPlanner} {runnerId : RunnerId}
    (unmapped : planner.runnerToChunk.get? runnerId = none) (splitPos : Nat)
    (newRunnerId : RunnerId)
    : planner.splitChunk runnerId splitPos newRunnerId
      = (.error (.runnerNotFound runnerId), planner) := by
  simp [splitChunk, unmapped]

/-- What a cut leaves free: the part of the chunk from the cut on. -/
theorem Owns.free_after_cut {planner : ChunkPlanner} {runnerId : RunnerId}
    {chunk : ChunkState} (wf : planner.WellFormed) (owned : planner.Owns runnerId chunk)
    {stop : Nat} (inner : chunk.allocated.start < stop) (shrinks : stop < chunk.allocated.stop)
    : (planner.withChunk chunk.allocated.start (chunk.cutAt stop)).Free
        ⟨stop, chunk.allocated.stop⟩ where
  nonempty := shrinks
  inside := (wf.shaped owned.found).inside
  apart := by
    intro start other found
    rcases get?_replace.mp found with ⟨-, rfl⟩ | ⟨distinct, old⟩
    · exact .inl (le_refl _)
    · rcases lt_or_gt_of_ne distinct with less | greater
      · have apart := wf.apart old owned.found less
        exact .inl (by simp only; omega)
      · exact .inr (wf.apart owned.found old greater)

theorem Owns.divide_wellFormed {planner : ChunkPlanner} {runnerId : RunnerId}
    {chunk : ChunkState} (wf : planner.WellFormed) (owned : planner.Owns runnerId chunk)
    {stop : Nat} {newRunnerId : RunnerId} (inner : chunk.downloaded.stop < stop)
    (shrinks : stop < chunk.allocated.stop)
    (fresh : planner.runnerToChunk.get? newRunnerId = none)
    : (planner.divide chunk stop newRunnerId).WellFormed := by
  have shaped := wf.shaped owned.found
  have anchored := shaped.anchored
  have started := shaped.started
  have nonempty : chunk.allocated.start < stop := by omega
  refine (owned.cutAt_wellFormed wf nonempty inner.le shrinks.le).add
    (owned.free_after_cut wf nonempty shrinks) _ _ ?_ (fun _ => rfl)
  intro id named
  cases named
  exact fresh

end ChunkPlanner

end BoltLoad
