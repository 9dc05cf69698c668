import BoltLoad.ChunkPlanner.Errors
import BoltLoad.DownloadLoop.Model
import BoltLoad.Transfer.Ticks

/-! A resize changes the planner and a runner's mailbox together or not at all.
-/

namespace BoltLoad

open OrderedMap

namespace RunnerManager

variable {manager : RunnerManager}

/-- A resize works on the planner behind a guard, committed once the limit is sent. -/
theorem resizeRunner_guarded {runnerId : RunnerId} {newSize : Nat} {receiving : Bool}
    {result : Except ResizeError Unit} {sent : Option (Port × Nat)} {after : RunnerManager}
    (resizes : manager.resizeRunner runnerId newSize receiving = .ok (result, sent, after))
    : ∃ outcome planner,
        manager.chunkPlanner.resizeRunnerState runnerId newSize = .ok (outcome, planner)
        ∧ after.chunkPlanner
          = (let guard := (PlannerGuard.new manager.chunkPlanner).modify (fun _ => planner)
            if sent.isSome then guard.commit else guard.drop) := by
  unfold resizeRunner at resizes
  obtain ⟨⟨outcome, planner⟩, resized, rest⟩ := Checked.bind_eq_ok.mp resizes
  refine ⟨outcome, planner, resized, ?_⟩
  cases outcome with
  | error source =>
      cases rest
      rfl
  | ok resize =>
      cases resize with
      | unchanged =>
          cases rest
          rfl
      | shrunk limit =>
          simp only at rest
          split at rest
          · cases rest
            rfl
          · obtain ⟨received, sends, rest⟩ := Checked.bind_eq_ok.mp rest
            cases received with
            | true =>
                cases rest
                rfl
            | false =>
                cases rest
                rfl

end RunnerManager

namespace Transfer

variable {transfer : Transfer}

/-- A refused resize leaves everything as it was; an accepted one either does so too, or puts
into the runner's mailbox the length its chunk has from then on.
-/
def ResizesAtomically (transfer : Transfer) (runnerId : RunnerId) (newSize : Nat) : Prop :=
  ∃ result after,
    transfer.resizeRunner runnerId newSize = .ok (result, after)
    ∧ match result with
      | .error _ => after = transfer
      | .ok () =>
        after = transfer
        ∨ ∃ port inst chunk limit,
            transfer.managed.manager.limitSenders.get? runnerId = some port
            ∧ after.instances.get? port = some inst
            ∧ inst.mailbox = some limit
            ∧ inst.sent.getLast? = some limit
            ∧ after.managed.manager.chunkPlanner.getRunnerState runnerId = some chunk
            ∧ chunk.allocated.len = limit

/-- The transfer once its manager was resized and the limit, if any, was sent. -/
def resized (transfer : Transfer) (manager : RunnerManager) (sent : Option (Port × Nat))
    : Transfer where
  managed := { transfer.managed with manager }
  instances :=
    match sent with
    | some (port, limit) => transfer.update port (fun inst => inst.receive limit)
    | none => transfer.instances

theorem resizeRunner_eq {runnerId : RunnerId} {newSize : Nat}
    {result : Except ResizeError Unit} {sent : Option (Port × Nat)} {manager : RunnerManager}
    (resizes
      : transfer.managed.manager.resizeRunner runnerId newSize (transfer.receives runnerId)
        = .ok (result, sent, manager))
    : transfer.resizeRunner runnerId newSize = .ok (result, transfer.resized manager sent) := by
  have managed
      : transfer.managed.resize runnerId newSize (transfer.receives runnerId)
        = .ok (result, sent, { transfer.managed with manager }) := by
    simp only [ManagerRun.resize, resizes, Checked.ok_bind]
    rfl
  have resized : transfer.resize runnerId newSize = .ok (transfer.resized manager sent) := by
    simp only [Transfer.resize, managed, Checked.ok_bind]
    rfl
  simp only [Transfer.resizeRunner, managed, resized, Checked.ok_bind]
  rfl

theorem resizes_atomically (wf : transfer.managed.manager.chunkPlanner.WellFormed)
    (runnerId : RunnerId) (newSize : Nat)
    : transfer.ResizesAtomically runnerId newSize := by
  obtain ⟨result, sent, manager, resizes, resized⟩ :=
    RunnerManager.resizes_of_wellFormed wf runnerId newSize (transfer.receives runnerId)
  refine ⟨result, _, resizeRunner_eq resizes, ?_⟩
  cases resized with
  | refused => rfl
  | unchanged owned same => exact Or.inl rfl
  | @shrunk chunk port owned nonempty shrinks sender received =>
      -- The mailbox has a receiver, so there is an instance to take the limit.
      simp only [receives, sender, Option.bind_some, Option.any_eq_true] at received
      obtain ⟨inst, found, -⟩ := received
      have cut := owned.getRunnerState_withChunk wf
        (chunk.cutAt (chunk.downloaded.stop + newSize)) runnerId
      rw [if_pos rfl] at cut
      refine Or.inr ⟨port, inst.receive _, _, _, sender, ?_, rfl, ?_, cut, rfl⟩
      · simp only [Transfer.resized, Transfer.update, found]
        exact get?_insert_self _ _ _
      · simp [Instance.receive, ChunkState.cutAt, HalfOpen.len]

/-- Over a well-formed planner, a failing operation changes nothing, a resize changes the
planner and the mailbox together or not at all, and a guard dropped without a commit undoes
whatever was done through it.
-/
theorem errors_change_nothing {planner : ChunkPlanner} (wf : planner.WellFormed)
    : planner.FailsAtomically
      ∧ (∀ transfer : Transfer,
          transfer.managed.manager.chunkPlanner = planner
          → ∀ runnerId newSize, transfer.ResizesAtomically runnerId newSize)
      ∧ ∀ changes : List (ChunkPlanner → ChunkPlanner),
          (changes.foldl PlannerGuard.modify (PlannerGuard.new planner)).drop = planner := by
  refine ⟨wf.failsAtomically, ?_, PlannerGuard.drop_uncommitted planner⟩
  intro transfer same runnerId newSize
  exact resizes_atomically (same.symm ▸ wf) runnerId newSize

/-- A runner is resized while it receives limits, and not once it is gone. -/
theorem errors_change_nothing_gone
    : ∃ transfer : Transfer,
        (machine (2 ^ 64)).execute (.new 1000 2)
            [.spawn ⟨0, 600⟩ (.ok ()), .spawn ⟨600, 1000⟩ (.ok ()), .vanish 1]
          = some transfer
        ∧ (transfer.resizeRunner 0 300).map (fun resized => resized.1.isOk) = .ok true
        ∧ (transfer.resizeRunner 1 300).map (fun resized => resized.1.isOk) = .ok false
        ∧ (∀ newSize, transfer.ResizesAtomically 1 newSize)
        ∧ transfer.managed.manager.chunkPlanner.FailsAtomically := by
  let events : List TransferEvent :=
    [.spawn ⟨0, 600⟩ (.ok ()), .spawn ⟨600, 1000⟩ (.ok ()), .vanish 1]
  have start : (machine (2 ^ 64)).Reachable (Transfer.new 1000 2) :=
    .initial ⟨1000, 2, by decide, rfl⟩
  have isRun : ((machine (2 ^ 64)).execute (.new 1000 2) events).isSome = true := by decide
  obtain ⟨transfer, executed⟩ := Option.isSome_iff_exists.mp isRun
  have first
      : ((machine (2 ^ 64)).execute (.new 1000 2) events).map
          (fun transfer =>
            (transfer.resizeRunner 0 300).map (fun resized => resized.1.isOk))
        = some (.ok true) := by decide
  have second
      : ((machine (2 ^ 64)).execute (.new 1000 2) events).map
          (fun transfer =>
            (transfer.resizeRunner 1 300).map (fun resized => resized.1.isOk))
        = some (.ok false) := by decide
  rw [executed] at first second
  have wf := (reachable_sound (start.execute events executed)).run.joint.planner
  obtain ⟨fails, resizes, -⟩ := errors_change_nothing wf
  exact ⟨transfer, executed, Option.some.inj first, Option.some.inj second,
    fun newSize => resizes transfer rfl 1 newSize, fails⟩

end Transfer

end BoltLoad
