import BoltLoad.ChunkPlanner.Available

/-! What the planner reports as downloaded. The reported ranges are the downloaded parts of
the chunks, merged where they touch; along every run they and their total only grow, and a
failed runner gives back exactly what it had not downloaded.
-/

namespace BoltLoad

open OrderedMap

namespace ChunkPlanner

-----------------------------------------------------------------------------------------
-- Merging
-----------------------------------------------------------------------------------------

/-- Separated ranges with the points of the merged ones, and as many of them. -/
structure Merges (result ranges : List Range) : Prop where
  separated : HalfOpen.Separated result
  points : ∀ point, (∃ range ∈ result, point ∈ range) ↔ ∃ range ∈ ranges, point ∈ range
  length : (result.map HalfOpen.len).sum = (ranges.map HalfOpen.len).sum

/-- The merge of `last` with the ranges after it, in order. -/
def mergeFrom (last : Range) : List Range → List Range
  | [] => [last]
  | range :: rest =>
    if last.stop ≥ range.start then mergeFrom ⟨last.start, max last.stop range.stop⟩ rest
    else last :: mergeFrom range rest

/-- The loop keeps the merged ranges in reverse, by induction on the rest. -/
theorem foldl_mergeStep (last : Range) (earlier ranges : List Range)
    : (ranges.foldl mergeStep (last :: earlier)).reverse
      = earlier.reverse ++ mergeFrom last ranges := by
  induction ranges generalizing last earlier with
  | nil => simp [mergeFrom]
  | cons range rest ih =>
      simp only [List.foldl_cons, mergeStep, mergeFrom]
      split
      · exact ih _ _
      · rw [ih, List.reverse_cons, List.append_assoc, List.singleton_append]

/-- No merged range starts before the first. -/
theorem start_le_of_mem_mergeFrom {high : Nat} {last range : Range} {ranges : List Range}
    (nonempty : last.start < last.stop)
    (ascending : HalfOpen.Ascending last.stop high ranges)
    (member : range ∈ mergeFrom last ranges)
    : last.start ≤ range.start := by
  induction ranges generalizing last with
  | nil => exact (List.mem_singleton.mp member) ▸ le_refl _
  | cons head rest ih =>
      obtain ⟨after, headNonempty, later⟩ := ascending
      simp only [mergeFrom] at member
      split at member
      · have longest : max last.stop head.stop = head.stop :=
          max_eq_right (after.trans headNonempty.le)
        rw [longest] at member
        exact @ih ⟨last.start, head.stop⟩ (nonempty.trans (after.trans_lt headNonempty)) later
          member
      · rcases List.mem_cons.mp member with rfl | inRest
        · exact le_refl _
        · exact (nonempty.le.trans after).trans (ih headNonempty later inRest)

/-- Order, points and lengths of a merge, by one induction on the ranges after the first. -/
theorem mergeFrom_merges {high : Nat} {last : Range} {ranges : List Range}
    (nonempty : last.start < last.stop)
    (ascending : HalfOpen.Ascending last.stop high ranges)
    : Merges (mergeFrom last ranges) (last :: ranges) := by
  induction ranges generalizing last with
  | nil =>
      exact ⟨⟨by simpa [mergeFrom] using nonempty, List.pairwise_singleton _ _⟩,
        fun point => Iff.rfl, rfl⟩
  | cons head rest ih =>
      obtain ⟨after, headNonempty, later⟩ := ascending
      simp only [mergeFrom]
      split
      · -- The range continues the last one.
        rename_i touches
        have longest : max last.stop head.stop = head.stop :=
          max_eq_right (after.trans headNonempty.le)
        have merges := @ih ⟨last.start, head.stop⟩
          (nonempty.trans (after.trans_lt headNonempty)) later
        rw [longest]
        refine ⟨merges.separated, fun point => ?_, ?_⟩
        · have halves
              : point ∈ (⟨last.start, head.stop⟩ : Range) ↔ point ∈ last ∨ point ∈ head := by
            simp only [HalfOpen.mem_iff]
            omega
          rw [merges.points point]
          simp only [List.exists_mem_cons_iff, halves, or_assoc]
        · rw [merges.length]
          simp only [List.map_cons, List.sum_cons, HalfOpen.len]
          omega
      · -- A gap is left before the range.
        rename_i apart
        have merges := ih headNonempty later
        refine ⟨⟨?_, ?_⟩, fun point => ?_, ?_⟩
        · intro range member
          rcases List.mem_cons.mp member with rfl | inRest
          · exact nonempty
          · exact merges.separated.nonempty range inRest
        · refine List.pairwise_cons.mpr ⟨fun range member => ?_, merges.separated.apart⟩
          exact (not_le.mp apart).trans_le (start_le_of_mem_mergeFrom headNonempty later member)
        · rw [List.exists_mem_cons_iff, List.exists_mem_cons_iff, merges.points point]
        · rw [List.map_cons, List.sum_cons, merges.length]
          rfl

/-- Ascending ranges are merged where they touch. -/
theorem mergeAdjacentRanges_merges {low high : Nat} {ranges : List Range}
    (ascending : HalfOpen.Ascending low high ranges)
    : Merges (mergeAdjacentRanges ranges) ranges := by
  have sorted : ranges.Pairwise (fun left right => left.start ≤ right.start) :=
    ascending.pairwise_start
  unfold mergeAdjacentRanges
  rw [sorted.insertionSort_eq]
  cases ranges with
  | nil => exact ⟨⟨by simp, .nil⟩, fun _ => Iff.rfl, rfl⟩
  | cons first rest =>
      obtain ⟨-, nonempty, later⟩ := ascending
      change Merges (rest.foldl mergeStep [first]).reverse (first :: rest)
      rw [foldl_mergeStep]
      exact mergeFrom_merges nonempty later

-----------------------------------------------------------------------------------------
-- The downloaded ranges
-----------------------------------------------------------------------------------------

section Reported

variable {planner : ChunkPlanner}

/-- The nonempty downloaded parts of the chunks, in key order. -/
def downloads (planner : ChunkPlanner) : List Range :=
  (planner.chunks.values.filter
    (fun chunk => decide (chunk.downloaded.start < chunk.downloaded.stop))).map
    ChunkState.downloaded

/-- Each downloaded part lies within its chunk, so the parts ascend as the chunks do. -/
theorem WellFormed.downloads_ascending (wf : planner.WellFormed)
    : HalfOpen.Ascending 0 planner.total planner.downloads := by
  refine HalfOpen.ascending_of_pairwise (Nat.zero_le _) ?_ ?_
  · intro range member
    obtain ⟨chunk, kept, rfl⟩ := List.mem_map.mp member
    obtain ⟨listed, nonempty⟩ := List.mem_filter.mp kept
    obtain ⟨start, found⟩ := mem_values_iff.mp listed
    have shaped := wf.shaped found
    exact ⟨Nat.zero_le _, of_decide_eq_true nonempty, shaped.bounded.trans shaped.inside⟩
  · refine List.pairwise_map.mpr (List.Pairwise.filter _ ?_)
    simp only [values, List.pairwise_map]
    refine planner.chunks.ordered.imp_of_mem (fun leftMember rightMember less => ?_)
    have left := get?_eq_some_iff.mpr leftMember
    have right := get?_eq_some_iff.mpr rightMember
    have apart := wf.apart left right less
    have key := wf.keyed right
    have anchored := (wf.shaped right).anchored
    have bounded := (wf.shaped left).bounded
    omega

theorem WellFormed.getDownloadedRanges_merges (wf : planner.WellFormed)
    : Merges planner.getDownloadedRanges planner.downloads := by
  have sorted : planner.downloads.Pairwise (fun left right => left.start ≤ right.start) :=
    wf.downloads_ascending.pairwise_start
  have merges := mergeAdjacentRanges_merges wf.downloads_ascending
  unfold getDownloadedRanges
  change Merges
    (mergeAdjacentRanges (planner.downloads.insertionSort (fun left right => left.start ≤ right.start)))
    planner.downloads
  rw [sorted.insertionSort_eq]
  exact merges

/-- A chunk without downloaded bytes has no downloaded point. -/
theorem exists_mem_downloads_iff (point : Nat)
    : (∃ range ∈ planner.downloads, point ∈ range) ↔ planner.Covered point := by
  constructor
  · rintro ⟨range, member, holds⟩
    obtain ⟨chunk, kept, rfl⟩ := List.mem_map.mp member
    obtain ⟨start, found⟩ := mem_values_iff.mp (List.mem_filter.mp kept).1
    exact ⟨start, chunk, found, holds⟩
  · rintro ⟨start, chunk, found, holds⟩
    have nonempty : chunk.downloaded.start < chunk.downloaded.stop := holds.1.trans_lt holds.2
    have listed := mem_values_iff.mpr ⟨start, found⟩
    exact ⟨_, List.mem_map_of_mem (List.mem_filter.mpr ⟨listed, decide_eq_true nonempty⟩), holds⟩

/-- The reported ranges hold the downloaded offsets. -/
theorem WellFormed.reported_iff (wf : planner.WellFormed) (point : Nat)
    : (∃ range ∈ planner.getDownloadedRanges, point ∈ range) ↔ planner.Covered point := by
  rw [wf.getDownloadedRanges_merges.points point]
  exact exists_mem_downloads_iff point

/-- Leaving out empty parts leaves out no bytes, by induction on the chunks. -/
theorem sum_len_filter (chunks : List ChunkState)
    : (((chunks.filter
        (fun chunk => decide (chunk.downloaded.start < chunk.downloaded.stop))).map
          ChunkState.downloaded).map HalfOpen.len).sum
      = (chunks.map (fun chunk => chunk.downloaded.len)).sum := by
  induction chunks with
  | nil => rfl
  | cons chunk rest ih =>
      rw [List.filter_cons]
      split
      · simp only [List.map_cons, List.sum_cons, ih]
      · rename_i empty
        have none_downloaded : chunk.downloaded.len = 0 := by
          simp only [HalfOpen.len]
          simp only [decide_eq_true_eq] at empty
          omega
        simp only [List.map_cons, List.sum_cons, none_downloaded, Nat.zero_add, ih]

/-- The reported ranges are together as long as the accepted bytes. -/
theorem WellFormed.sum_getDownloadedRanges (wf : planner.WellFormed)
    : (planner.getDownloadedRanges.map HalfOpen.len).sum = planner.getTotalDownloaded := by
  rw [wf.getDownloadedRanges_merges.length, downloads, sum_len_filter, getTotalDownloaded,
    wf.accounted, sumBy_eq_sum_values]

end Reported

-----------------------------------------------------------------------------------------
-- Nothing downloaded is lost
-----------------------------------------------------------------------------------------

/-- What `before` had downloaded, `after` has too. -/
structure Keeps (before after : ChunkPlanner) : Prop where
  covered : ∀ point, before.Covered point → after.Covered point
  accepted : before.acceptedBytes ≤ after.acceptedBytes

theorem Keeps.refl (planner : ChunkPlanner) : planner.Keeps planner :=
  ⟨fun _ covered => covered, le_refl _⟩

theorem Keeps.trans {first second third : ChunkPlanner} (earlier : first.Keeps second)
    (later : second.Keeps third)
    : first.Keeps third :=
  ⟨fun point covered => later.covered point (earlier.covered point covered),
    earlier.accepted.trans later.accepted⟩

/-- Only progress changes the downloaded parts, and it extends one of them. -/
theorem Changes.keeps {planner after : ChunkPlanner} (wf : planner.WellFormed)
    (changes : planner.Changes after)
    : planner.Keeps after := by
  cases changes with
  | unchanged => exact .refl _
  | configured minChunkSize maxChunkCount => exact ⟨fun _ covered => covered, le_refl _⟩
  | added free fresh owner =>
      exact ⟨fun point => (wf.covered_addChunk free _ _ point).mpr, le_refl _⟩
  | advanced owned bytes =>
      refine ⟨fun point covered => ?_, Nat.le_add_right _ _⟩
      exact (owned.covered_advance wf bytes point).mpr (Or.inl covered)
  | started owned =>
      refine ⟨fun point => (owned.covered_withChunk ?_ point).mpr, le_refl _⟩
      rfl
  | finished owned =>
      refine ⟨fun point => (owned.covered_withChunk ?_ point).mpr, le_refl _⟩
      rfl
  | released owned =>
      refine ⟨fun point => (owned.covered_release point).mpr, ?_⟩
      unfold release
      split <;> exact le_refl _
  | cut owned nonempty keeps shrinks =>
      refine ⟨fun point => (owned.covered_withChunk ?_ point).mpr, le_refl _⟩
      rfl
  | divided owned inner shrinks fresh =>
      have shaped := wf.shaped owned.found
      have nonempty : _ < _ :=
        shaped.anchored ▸ shaped.started.trans_lt inner
      have cutWf := owned.cutAt_wellFormed wf nonempty inner.le shrinks.le
      have free := owned.free_after_cut wf nonempty shrinks
      refine ⟨fun point covered => (cutWf.covered_addChunk free _ _ point).mpr ?_, le_refl _⟩
      refine (owned.covered_withChunk ?_ point).mpr covered
      rfl

/-- Along every run what was downloaded stays so, by induction on the run. -/
theorem reachable_keeps {planner later : ChunkPlanner} (reached : machine.Reachable planner)
    (continued : (machine.startingAt planner).Reachable later)
    : planner.Keeps later := by
  refine continued.invariant ?_ ?_
  · intro state start
    have same : state = planner := start
    exact same ▸ .refl _
  · intro before operation after running keeps step
    have wf := reachable_wellFormed (reached.of_startingAt running)
    obtain ⟨result, performed, changes⟩ := wf.perform_changes step.enabled
    cases performed.symm.trans step.next
    exact keeps.trans (changes.keeps wf)

-----------------------------------------------------------------------------------------
-- Failed runners
-----------------------------------------------------------------------------------------

/-- A failed runner gives back what it had not downloaded, and nothing else changes of what
is available or downloaded.
-/
structure GivesBack (planner : ChunkPlanner) (runnerId : RunnerId) (chunk : ChunkState)
    : Prop where
  returned : (planner.markFailed runnerId).1 = .ok chunk.incompleteRange
  available
    : ∀ point,
        (planner.markFailed runnerId).2.Available point
        ↔ planner.Available point ∨ point ∈ chunk.incompleteRange
  unfinished : ∀ point ∈ chunk.incompleteRange, ¬ planner.Available point
  downloaded
    : ∀ point,
        (∃ range ∈ (planner.markFailed runnerId).2.getDownloadedRanges, point ∈ range)
        ↔ ∃ range ∈ planner.getDownloadedRanges, point ∈ range
  accepted : (planner.markFailed runnerId).2.getTotalDownloaded = planner.getTotalDownloaded

theorem Owns.givesBack {planner : ChunkPlanner} {runnerId : RunnerId} {chunk : ChunkState}
    (wf : planner.WellFormed) (owned : planner.Owns runnerId chunk)
    : planner.GivesBack runnerId chunk := by
  have failed := owned.markFailed_eq wf
  have shaped := wf.shaped owned.found
  refine ⟨?_, ?_, ?_, ?_, ?_⟩
  · rw [failed]
    rfl
  · intro point
    rw [failed]
    exact owned.available_release wf point
  · intro point later available
    have first := later.1
    have anchored := shaped.anchored
    have started := shaped.started
    simp only [ChunkState.incompleteRange] at first
    have inside : point ∈ chunk.allocated := ⟨by omega, later.2⟩
    exact ((wf.available_iff point).mp available).2 ⟨_, chunk, owned.found, inside⟩
  · intro point
    rw [failed, (owned.release_wellFormed wf).reported_iff, wf.reported_iff]
    exact owned.covered_release point
  · rw [failed, getTotalDownloaded, release]
    split <;> rfl

-----------------------------------------------------------------------------------------
-- Every run
-----------------------------------------------------------------------------------------

/-- In every reachable planner the reported ranges are canonical, hold exactly what the
chunks downloaded and are as long as the accepted bytes. Whatever operations follow, no
reported byte is lost, and a failed runner gives back exactly its unfinished part.
-/
theorem accepted_never_lost {planner : ChunkPlanner} (reached : machine.Reachable planner)
    : HalfOpen.Separated planner.getDownloadedRanges
      ∧ (∀ point,
          (∃ range ∈ planner.getDownloadedRanges, point ∈ range)
          ↔ ∃ chunk ∈ planner.chunks.values, point ∈ chunk.downloaded)
      ∧ (planner.getDownloadedRanges.map HalfOpen.len).sum = planner.getTotalDownloaded
      ∧ (∀ later,
          (machine.startingAt planner).Reachable later
          → planner.getTotalDownloaded ≤ later.getTotalDownloaded
            ∧ ∀ point,
                (∃ range ∈ planner.getDownloadedRanges, point ∈ range)
                → ∃ range ∈ later.getDownloadedRanges, point ∈ range)
      ∧ ∀ runnerId chunk,
          planner.getRunnerState runnerId = some chunk → planner.GivesBack runnerId chunk := by
  have wf := reachable_wellFormed reached
  refine ⟨wf.getDownloadedRanges_merges.separated, ?_, wf.sum_getDownloadedRanges, ?_, ?_⟩
  · intro point
    rw [wf.reported_iff]
    constructor
    · rintro ⟨start, chunk, found, holds⟩
      exact ⟨chunk, mem_values_iff.mpr ⟨start, found⟩, holds⟩
    · rintro ⟨chunk, listed, holds⟩
      obtain ⟨start, found⟩ := mem_values_iff.mp listed
      exact ⟨start, chunk, found, holds⟩
  · intro later continued
    have keeps := reachable_keeps reached continued
    have laterWf := reachable_wellFormed (reached.of_startingAt continued)
    refine ⟨keeps.accepted, fun point reported => ?_⟩
    rw [laterWf.reported_iff]
    exact keeps.covered point ((wf.reported_iff point).mp reported)
  · intro runnerId chunk state
    exact ((getRunnerState_eq_some_iff wf).mp state).givesBack wf

/-- A failure after two touching deliveries: they are reported as one range, before and after. -/
theorem accepted_never_lost_failing
    : ∃ planner : ChunkPlanner,
        machine.execute (ChunkPlanner.new 1000)
            [.allocatePendingChunk ⟨0, 100⟩ 0, .allocatePendingChunk ⟨100, 400⟩ 1,
              .updateProgress 0 100, .updateProgress 1 50]
          = some planner
        ∧ planner.getDownloadedRanges = [⟨0, 150⟩]
        ∧ planner.GivesBack 1 ⟨⟨100, 400⟩, ⟨100, 150⟩, some 1, .pending⟩ := by
  let events : List Operation :=
    [.allocatePendingChunk ⟨0, 100⟩ 0, .allocatePendingChunk ⟨100, 400⟩ 1,
      .updateProgress 0 100, .updateProgress 1 50]
  have start : machine.Reachable (ChunkPlanner.new 1000) := .initial ⟨1000, by decide, rfl⟩
  have isRun : (machine.execute (ChunkPlanner.new 1000) events).isSome = true := by decide
  obtain ⟨planner, executed⟩ := Option.isSome_iff_exists.mp isRun
  have ranges
      : (machine.execute (ChunkPlanner.new 1000) events).map ChunkPlanner.getDownloadedRanges
        = some [⟨0, 150⟩] := by decide
  have state
      : (machine.execute (ChunkPlanner.new 1000) events).map
          (fun planner => planner.getRunnerState 1)
        = some (some ⟨⟨100, 400⟩, ⟨100, 150⟩, some 1, .pending⟩) := by decide
  rw [executed] at ranges state
  have lost := accepted_never_lost (start.execute events executed)
  exact ⟨planner, executed, Option.some.inj ranges,
    lost.2.2.2.2 1 _ (Option.some.inj state)⟩

end ChunkPlanner

end BoltLoad
