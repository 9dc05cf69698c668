import BoltLoad.ChunkPlanner.Coverage
import BoltLoad.RunnerManager.Protocol

/-! What the manager hands out for writing: ranges within the file, as long as their bytes,
that never meet, and are together what the planner has downloaded.
-/

namespace BoltLoad

open OrderedMap

namespace RunnerManager

variable {manager after : RunnerManager}

theorem covered_of_silent {tick : RunnerTick} {point : Nat} (silent : tick.downloaded = none)
    (same : after.chunkPlanner.Covered point ↔ manager.chunkPlanner.Covered point)
    : after.chunkPlanner.Covered point
      ↔ manager.chunkPlanner.Covered point
        ∨ ∃ chunk ∈ tick.downloaded, point ∈ chunk.range := by
  simpa [silent] using same

theorem attemptTick_downloaded (runnerId : RunnerId) (error : TaskError)
    : (attemptTick runnerId error).downloaded = none := by
  unfold attemptTick
  split <;> rfl

/-- Reporting the end of a runner hands out nothing, whichever way it is reported. -/
theorem report_downloaded (complete : Bool) {ordinary : RunnerTick}
    (silent : ordinary.downloaded = none)
    : (if complete then RunnerTick.finished else ordinary).downloaded = none := by
  cases complete
  · exact silent
  · rfl

/-- The chunk a tick hands out, and nothing else, is newly downloaded. -/
theorem Joint.handled_covered {cause : Cause} {tick : RunnerTick} (joint : manager.Joint)
    (handled : manager.Handled cause tick after) (point : Nat)
    : after.chunkPlanner.Covered point
      ↔ manager.chunkPlanner.Covered point
        ∨ ∃ chunk ∈ tick.downloaded, point ∈ chunk.range := by
  cases handled with
  | rejected sampler queued owned =>
      exact covered_of_silent (attemptTick_downloaded _ _) (owned.covered_release point)
  | @started runnerId chunk dataRx owned pending waiting =>
      have same : { chunk with status := ChunkStatus.running }.downloaded = chunk.downloaded := rfl
      exact covered_of_silent rfl (owned.covered_withChunk same point)
  | unconnected sampler owned pending =>
      exact covered_of_silent (attemptTick_downloaded _ _) (owned.covered_release point)
  | @completed runnerId reason chunk sampler owned running complete =>
      have same : { chunk with status := ChunkStatus.finished }.downloaded = chunk.downloaded := rfl
      exact covered_of_silent (report_downloaded _ rfl) (owned.covered_withChunk same point)
  | failed sampler owned running incomplete =>
      exact covered_of_silent (attemptTick_downloaded _ _) (owned.covered_release point)
  | lost sampler owned =>
      exact covered_of_silent (report_downloaded _ rfl) (owned.covered_release point)
  | @data runnerId item chunk owned running =>
      refine (owned.covered_advance joint.planner item.data.length point).trans ?_
      simp [RunnerTick.withChunk, accepted]
  | dataClosed => exact covered_of_silent rfl Iff.rfl

/-- What a tick hands out was not downloaded before, lies within the file, and is as long as
its bytes.
-/
theorem Joint.handled_downloaded {cause : Cause} {tick : RunnerTick} (joint : manager.Joint)
    (handled : manager.Handled cause tick after) {chunk : DownloadedChunk}
    (downloaded : tick.downloaded = some chunk)
    : chunk.range.stop ≤ manager.chunkPlanner.total
      ∧ chunk.range.start + chunk.bytes.length = chunk.range.stop
      ∧ ∀ point ∈ chunk.range, ¬ manager.chunkPlanner.Covered point := by
  cases handled with
  | @data runnerId item owner owned running =>
      cases downloaded
      have shaped := joint.planner.shaped owned.found
      have bounded := shaped.bounded
      have inside := shaped.inside
      refine ⟨?_, ?_, ?_⟩
      · simp only [accepted]
        omega
      · simp only [accepted, List.length_take]
        omega
      · intro point within
        refine owned.uncovered joint.planner ⟨within.1, ?_⟩
        have upper := within.2
        simp only [accepted] at upper
        simp only [ChunkState.incompleteRange]
        omega
  | completed =>
      rw [report_downloaded _ rfl] at downloaded
      cases downloaded
  | lost =>
      rw [report_downloaded _ rfl] at downloaded
      cases downloaded
  | rejected =>
      rw [attemptTick_downloaded] at downloaded
      cases downloaded
  | unconnected =>
      rw [attemptTick_downloaded] at downloaded
      cases downloaded
  | failed =>
      rw [attemptTick_downloaded] at downloaded
      cases downloaded
  | started => cases downloaded
  | dataClosed => cases downloaded

theorem Joint.handled_total {cause : Cause} {tick : RunnerTick}
    (handled : manager.Handled cause tick after)
    : after.chunkPlanner.total = manager.chunkPlanner.total := by
  cases handled <;>
    simp [RunnerManager.retired, RunnerManager.started, advanced, finishedPlanner]

/-- A spawn downloads nothing. -/
theorem Joint.spawned_covered {range : Range} {port : Port} {outcome : Except SpawnFailed Unit}
    {result : Option Unit} (joint : manager.Joint)
    (spawned : manager.Spawned range port outcome result after) (point : Nat)
    : (after.chunkPlanner.Covered point ↔ manager.chunkPlanner.Covered point)
      ∧ after.chunkPlanner.total = manager.chunkPlanner.total := by
  cases spawned with
  | full none_free => exact ⟨Iff.rfl, rfl⟩
  | refused next allocates rejects => exact ⟨Iff.rfl, rfl⟩
  | accepted next allocates free => exact ⟨joint.planner.covered_addChunk free _ _ point, rfl⟩
  | rejected next allocates free => exact ⟨joint.planner.covered_addChunk free _ _ point, rfl⟩

/-- A resize downloads nothing. -/
theorem resized_covered {runnerId : RunnerId} {newSize : Nat} {receiving : Bool}
    {result : Except ResizeError Unit} {sent : Option (Port × Nat)}
    (resized : manager.Resized runnerId newSize receiving result sent after) (point : Nat)
    : (after.chunkPlanner.Covered point ↔ manager.chunkPlanner.Covered point)
      ∧ after.chunkPlanner.total = manager.chunkPlanner.total := by
  cases resized with
  | refused => exact ⟨Iff.rfl, rfl⟩
  | unchanged owned same => exact ⟨Iff.rfl, rfl⟩
  | @shrunk chunk port owned nonempty shrinks sender received =>
      have same
          : (chunk.cutAt (chunk.downloaded.stop + newSize)).downloaded = chunk.downloaded := rfl
      exact ⟨owned.covered_withChunk same point, rfl⟩

end RunnerManager

namespace ManagerRun

open RunnerManager

/-- What was handed out for writing so far. -/
structure WritesSound (run : ManagerRun) : Prop where
  apart : run.written.Pairwise (fun earlier later => earlier.range.Apart later.range)
  fits
    : ∀ chunk ∈ run.written,
        chunk.range.stop ≤ run.manager.chunkPlanner.total
        ∧ chunk.range.start + chunk.bytes.length = chunk.range.stop
  covers
    : ∀ point,
        run.manager.chunkPlanner.Covered point ↔ ∃ chunk ∈ run.written, point ∈ chunk.range

variable {run : ManagerRun}

/-- A chunk handed out for writing meets none of the earlier ones. -/
theorem WritesSound.afterCause {cause : Cause} {tick : RunnerTick} {manager : RunnerManager}
    (writes : run.WritesSound) (sound : run.Sound)
    (handled : run.manager.Handled cause tick manager)
    : (run.afterCause cause tick manager).WritesSound := by
  have joint := sound.joint
  have total := Joint.handled_total handled
  refine ⟨?_, ?_, ?_⟩
  · refine List.pairwise_append.mpr ⟨writes.apart, ?_, ?_⟩
    · cases tick.downloaded with
      | none => exact .nil
      | some chunk => exact List.pairwise_singleton _ _
    · intro earlier written later new point inEarlier inLater
      have downloaded := Option.mem_toList.mp new
      exact (joint.handled_downloaded handled downloaded).2.2 point inLater
        ((writes.covers point).mpr ⟨earlier, written, inEarlier⟩)
  · intro chunk member
    simp only [ManagerRun.afterCause, total]
    rcases List.mem_append.mp member with before | new
    · exact writes.fits chunk before
    · obtain ⟨inside, long, -⟩ := joint.handled_downloaded handled (Option.mem_toList.mp new)
      exact ⟨inside, long⟩
  · intro point
    simp only [ManagerRun.afterCause, joint.handled_covered handled, writes.covers,
      List.mem_append, Option.mem_toList, Option.mem_def]
    refine ⟨?_, ?_⟩
    · intro covered
      rcases covered with ⟨chunk, before, holds⟩ | ⟨chunk, new, holds⟩
      · exact ⟨chunk, Or.inl before, holds⟩
      · exact ⟨chunk, Or.inr new, holds⟩
    · rintro ⟨chunk, member, holds⟩
      rcases member with before | new
      · exact Or.inl ⟨chunk, before, holds⟩
      · exact Or.inr ⟨chunk, new, holds⟩

/-- What was handed out stays sound while nothing is downloaded. -/
theorem WritesSound.of_covered {manager : RunnerManager} (writes : run.WritesSound)
    (same
      : ∀ point,
          (manager.chunkPlanner.Covered point ↔ run.manager.chunkPlanner.Covered point)
          ∧ manager.chunkPlanner.total = run.manager.chunkPlanner.total)
    (nextPort : Port)
    : WritesSound { run with manager, nextPort } := by
  refine ⟨writes.apart, ?_, fun point => (same point).1.trans (writes.covers point)⟩
  intro chunk member
  have fits := writes.fits chunk member
  rw [← (same 0).2] at fits
  exact fits

/-- In every run what is handed out for writing is sound, by induction on the run. -/
theorem reachable_writesSound (reached : machine.Reachable run) : run.WritesSound := by
  refine reached.invariant ?_ ?_
  · rintro start ⟨total, maxConcurrency, representable, same⟩
    subst same
    refine ⟨.nil, fun chunk member => (by cases member), fun point => ⟨?_, ?_⟩⟩
    · rintro ⟨_, _, found, _⟩
      cases found
    · rintro ⟨_, member, _⟩
      cases member
  · intro before event after earlier writes step
    have sound := reachable_sound earlier
    cases event with
    | spawn range outcome =>
        obtain ⟨result, manager, spawns, spawned⟩ :=
          sound.joint.spawns range before.nextPort outcome
        have next := step.next
        simp only [machine, ManagerRun.next, ManagerRun.spawn, spawns] at next
        cases next
        exact writes.of_covered (sound.joint.spawned_covered spawned) _
    | resize runnerId newSize receiving =>
        obtain ⟨result, sent, manager, resizes, resized⟩ :=
          sound.joint.resizes runnerId newSize receiving
        have next := step.next
        simp only [machine, ManagerRun.next, ManagerRun.resize, resizes] at next
        cases next
        exact writes.of_covered (resized_covered resized) _
    | tick now dataEnabled lifecycle data =>
        have next := step.next
        rcases sound.ticks now step.enabled with ⟨tick, ticked, ticks, outcome⟩ | ⟨early, -⟩
        · simp only [machine, ManagerRun.next, ticks] at next
          cases next
          cases outcome with
          | idle nothing => exact writes
          | handled selects offered handled => exact writes.afterCause sound handled
        · simp only [machine, ManagerRun.next, early] at next
          cases next
    | takeMetersSnapshot =>
        have next := step.next
        cases next
        exact ⟨writes.apart, writes.fits, writes.covers⟩
    | observeOutcomes sampler =>
        have next := step.next
        cases next
        exact ⟨writes.apart, writes.fits, writes.covers⟩

end ManagerRun

end BoltLoad
