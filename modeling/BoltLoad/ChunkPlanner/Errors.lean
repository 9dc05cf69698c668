import BoltLoad.ChunkPlanner.Operations

/-! What a failed operation leaves behind: the planner as it was. Operations that take entries
out before they validate put them back, and a guard restores what was not committed.
-/

namespace BoltLoad

open OrderedMap

namespace ChunkPlanner

/-- Whichever operation fails, the planner is the same afterwards. -/
structure FailsAtomically (planner : ChunkPlanner) : Prop where
  allocateChunk
    : ∀ range runnerId after,
        planner.allocateChunk range runnerId = (false, after) → after = planner
  updateProgress
    : ∀ runnerId bytesDownloaded message after,
        planner.updateProgress runnerId bytesDownloaded = .ok (.error message, after)
        → after = planner
  markRunning
    : ∀ runnerId error after,
        planner.markRunning runnerId = (.error error, after) → after = planner
  markFinished
    : ∀ runnerId error after,
        planner.markFinished runnerId = (.error error, after) → after = planner
  markFailed
    : ∀ runnerId error after,
        planner.markFailed runnerId = (.error error, after) → after = planner
  splitChunk
    : ∀ runnerId splitPos newRunnerId error after,
        planner.splitChunk runnerId splitPos newRunnerId = (.error error, after)
        → after = planner
  resizeRunnerState
    : ∀ runnerId newSize error after,
        planner.resizeRunnerState runnerId newSize = .ok (.error error, after)
        → after = planner

variable {planner : ChunkPlanner}

/-- A rejected allocation, whatever it was for. -/
theorem allocateChunkInner_false {range : Range} {runnerId : Option RunnerId}
    {status : ChunkStatus} {after : ChunkPlanner}
    (rejected : planner.allocateChunkInner range runnerId status = (false, after))
    : after = planner := by
  unfold allocateChunkInner at rejected
  split at rejected
  · exact (Prod.mk.inj rejected).2.symm
  split at rejected
  · exact (Prod.mk.inj rejected).2.symm
  split at rejected
  · exact (Prod.mk.inj rejected).2.symm
  · cases (Prod.mk.inj rejected).1

/-- A mapped runner owns its chunk, so only the position of a split and the size of a resize
can be wrong; an unmapped one is refused first.
-/
theorem WellFormed.failsAtomically (wf : planner.WellFormed) : planner.FailsAtomically where
  allocateChunk range runnerId after rejected := by
    cases runnerId with
    | none => exact allocateChunkInner_false rejected
    | some id => exact allocateChunkInner_false rejected
  updateProgress runnerId bytes message after failed := by
    rcases wf.unmapped_or_owns runnerId with unmapped | ⟨chunk, owned⟩
    · rw [updateProgress_of_unmapped unmapped] at failed
      exact (Prod.mk.inj (Except.ok.inj failed)).2.symm
    · rw [owned.updateProgress_eq wf] at failed
      cases (Prod.mk.inj (Except.ok.inj failed)).1
  markRunning runnerId error after failed := by
    rcases wf.unmapped_or_owns runnerId with unmapped | ⟨chunk, owned⟩
    · rw [(mark_of_unmapped unmapped).1] at failed
      exact (Prod.mk.inj failed).2.symm
    · rw [owned.markRunning_eq] at failed
      cases (Prod.mk.inj failed).1
  markFinished runnerId error after failed := by
    rcases wf.unmapped_or_owns runnerId with unmapped | ⟨chunk, owned⟩
    · rw [(mark_of_unmapped unmapped).2.1] at failed
      exact (Prod.mk.inj failed).2.symm
    · rw [owned.markFinished_eq] at failed
      cases (Prod.mk.inj failed).1
  markFailed runnerId error after failed := by
    rcases wf.unmapped_or_owns runnerId with unmapped | ⟨chunk, owned⟩
    · rw [(mark_of_unmapped unmapped).2.2] at failed
      exact (Prod.mk.inj failed).2.symm
    · rw [owned.markFailed_eq wf] at failed
      cases (Prod.mk.inj failed).1
  splitChunk runnerId splitPos newRunnerId error after failed := by
    rcases wf.unmapped_or_owns runnerId with unmapped | ⟨chunk, owned⟩
    · rw [splitChunk_of_unmapped unmapped] at failed
      exact (Prod.mk.inj failed).2.symm
    · rcases owned.splitChunk_cases splitPos newRunnerId with refused | ⟨split, -⟩
      · rw [refused] at failed
        exact (Prod.mk.inj failed).2.symm
      · rw [split] at failed
        cases (Prod.mk.inj failed).1
  resizeRunnerState runnerId newSize error after failed := by
    rcases wf.unmapped_or_owns runnerId with unmapped | ⟨chunk, owned⟩
    · rw [resizeRunnerState_of_unmapped unmapped] at failed
      exact (Prod.mk.inj (Except.ok.inj failed)).2.symm
    · rcases owned.resizeRunnerState_cases wf newSize with ⟨refused, -⟩ | ⟨same, -⟩ | ⟨shrunk, -⟩
      · rw [refused] at failed
        exact (Prod.mk.inj (Except.ok.inj failed)).2.symm
      · rw [same] at failed
        cases (Prod.mk.inj (Except.ok.inj failed)).1
      · rw [shrunk] at failed
        cases (Prod.mk.inj (Except.ok.inj failed)).1

end ChunkPlanner

-----------------------------------------------------------------------------------------
-- The guard of a planner
-----------------------------------------------------------------------------------------

/-- A planner behind a guard: the planner as changed so far, and as it was. -/
structure PlannerGuard where
  planner : ChunkPlanner
  snapshot : ChunkPlanner
  committed : Bool

namespace PlannerGuard

def new (planner : ChunkPlanner) : PlannerGuard where
  planner := planner
  snapshot := planner
  committed := false

/-- `planner`: the guarded planner may be changed in any way. -/
def modify (guard : PlannerGuard) (change : ChunkPlanner → ChunkPlanner) : PlannerGuard :=
  { guard with planner := change guard.planner }

/-- The planner a dropped guard leaves behind. -/
def drop (guard : PlannerGuard) : ChunkPlanner :=
  if !guard.committed then guard.snapshot else guard.planner

/-- A committed guard is dropped as such. -/
def commit (guard : PlannerGuard) : ChunkPlanner := drop { guard with committed := true }

/-- Changes do not reach the snapshot, by induction on them. -/
theorem foldl_modify_snapshot (guard : PlannerGuard)
    (changes : List (ChunkPlanner → ChunkPlanner))
    : (changes.foldl modify guard).snapshot = guard.snapshot
      ∧ (changes.foldl modify guard).committed = guard.committed := by
  induction changes generalizing guard with
  | nil => exact ⟨rfl, rfl⟩
  | cons change rest ih => exact ih (guard.modify change)

/-- Without a commit every change is undone. -/
theorem drop_uncommitted (planner : ChunkPlanner)
    (changes : List (ChunkPlanner → ChunkPlanner))
    : (changes.foldl modify (new planner)).drop = planner := by
  obtain ⟨snapshot, committed⟩ := foldl_modify_snapshot (new planner) changes
  rw [drop, snapshot, committed]
  rfl

/-- A commit keeps them. -/
theorem commit_modify (planner : ChunkPlanner) (change : ChunkPlanner → ChunkPlanner)
    : ((new planner).modify change).commit = change planner :=
  rfl

end PlannerGuard

end BoltLoad
