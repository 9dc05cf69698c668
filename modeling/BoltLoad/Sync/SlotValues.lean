import BoltLoad.Library.LatestValue
import BoltLoad.Sync.Slot

/-! The values that pass through the slot, over every run: the receiver reads a subsequence
of those sent that ends with the last one, and sees the end only once that is read.
-/

namespace BoltLoad

variable {Thread Waker : Type}

/-- The call of `try_recv` under way. -/
def ReceivePhase.attempt : ReceivePhase Waker → Option (Attempt Waker)
  | .looking attempt => some attempt
  | .swapping attempt => some attempt
  | _ => none

namespace SlotRun

/-- What was read, with what is unread, is up to date; the closed flag is stored once no
thread can send any more, and the end is seen once it is stored and nothing unread.
-/
structure Kept (run : SlotRun Thread Waker) : Prop where
  upToDate : LatestValue run.sent (run.received ++ run.unread.toList)
  sendable
    : ∀ thread value,
        run.sending thread = .storing value
        → value ≠ slotEmpty ∧ run.senderAlive = true
  closing : ∀ thread, run.sending thread = .closing → run.senderAlive = false
  closed : run.closed = true → run.senderAlive = false
  sawClosed
    : ∀ passed, run.receiving.attempt = some (.last passed true) → run.closed = true
  ended : .ready none ∈ run.answers → run.closed = true ∧ run.value = slotEmpty
  ordered
    : run.answers.Pairwise (fun earlier later => earlier = .ready none → later.value = none)

theorem unread_eq_none {run : SlotRun Thread Waker}
    : run.unread = none ↔ run.value = slotEmpty := by
  unfold unread
  split <;> simp_all

theorem unread_of_ne {run : SlotRun Thread Waker} (filled : run.value ≠ slotEmpty)
    : run.unread = some run.value :=
  if_neg filled

theorem received_answer (run : SlotRun Thread Waker) (returned : Answer)
    : (run.answer returned).received = run.received ++ returned.value.toList := by
  simp only [received, answer, List.filterMap_append]
  cases value : returned.value <;> simp [value]

theorem Kept.channel : Kept (channel : SlotRun Thread Waker) where
  upToDate := .unsent
  sendable := fun _ _ never => by cases never
  closing := fun _ never => by cases never
  closed := fun never => by cases never
  sawClosed := fun _ never => by cases never
  ended := fun never => by cases never
  ordered := .nil

-----------------------------------------------------------------------------------------
-- The receiver's steps
-----------------------------------------------------------------------------------------

/-- A call returns without a value. -/
theorem Kept.returns_none {run : SlotRun Thread Waker} {returned : Answer} (kept : run.Kept)
    (valueless : returned.value = none)
    (last : returned = .ready none → run.closed = true ∧ run.value = slotEmpty)
    : (run.answer returned).Kept where
  upToDate := by
    rw [received_answer, valueless, Option.toList_none, List.append_nil]
    exact kept.upToDate
  sendable := kept.sendable
  closing := kept.closing
  closed := kept.closed
  sawClosed := fun _ never => by cases never
  ended := by
    intro member
    rcases List.mem_append.mp member with earlier | now
    · exact kept.ended earlier
    · exact last (List.mem_singleton.mp now).symm
  ordered := by
    refine List.pairwise_append.mpr ⟨kept.ordered, List.pairwise_singleton _ _, ?_⟩
    intro earlier _ later member _
    rwa [List.mem_singleton.mp member]

/-- A call returns the value it took from the slot. -/
theorem Kept.returns_value {run : SlotRun Thread Waker} {returned : Answer} (kept : run.Kept)
    (filled : run.value ≠ slotEmpty) (took : returned.value = some run.value)
    : ({ run with value := slotEmpty }.answer returned).Kept where
  upToDate := by
    have emptied : ({ run with value := slotEmpty }.answer returned).unread = none :=
      unread_eq_none.mpr rfl
    rw [received_answer, emptied, took, Option.toList_none, List.append_nil,
      ← unread_of_ne filled]
    exact kept.upToDate
  sendable := kept.sendable
  closing := kept.closing
  closed := kept.closed
  sawClosed := fun _ never => by cases never
  ended := by
    intro member
    rcases List.mem_append.mp member with earlier | now
    · exact absurd (kept.ended earlier).2 filled
    · rw [← List.mem_singleton.mp now] at took
      cases took
  ordered := by
    refine List.pairwise_append.mpr ⟨kept.ordered, List.pairwise_singleton _ _, ?_⟩
    intro earlier member later _ ending
    exact absurd (kept.ended (ending ▸ member)).2 filled

/-- The receiver goes on without a call returning. -/
theorem Kept.receives {run : SlotRun Thread Waker} (kept : run.Kept)
    {slot : AtomicWaker Waker} {receiving : ReceivePhase Waker} {wakes : List Waker}
    {waiting : Option (PassedWaker Waker)}
    (sawClosed : ∀ passed, receiving.attempt = some (.last passed true) → run.closed = true)
    : Kept { run with waker := slot, receiving, wakes, waiting } where
  upToDate := kept.upToDate
  sendable := kept.sendable
  closing := kept.closing
  closed := kept.closed
  sawClosed := sawClosed
  ended := kept.ended
  ordered := kept.ordered

/-- `try_recv` finds nothing. -/
theorem Kept.attempted_none {run : SlotRun Thread Waker} (kept : run.Kept)
    {attempt : Attempt Waker} (under : run.receiving.attempt = some attempt)
    (empty : run.value = slotEmpty)
    : (run.attempted attempt none).Kept := by
  cases attempt with
  | alone => exact kept.returns_none rfl (fun never => by cases never)
  | first passed =>
      exact kept.receives (fun _ never => by cases never)
  | last passed closed =>
      cases closed with
      | true => exact kept.returns_none rfl (fun _ => ⟨kept.sawClosed passed under, empty⟩)
      | false =>
          have pending : (run.answer .pending).Kept :=
            kept.returns_none rfl (fun never => by cases never)
          exact pending.receives (fun _ never => by cases never)

/-- `try_recv` takes a value. -/
theorem Kept.attempted_some {run : SlotRun Thread Waker} (kept : run.Kept)
    (attempt : Attempt Waker) (filled : run.value ≠ slotEmpty)
    : ({ run with value := slotEmpty }.attempted attempt (some run.value)).Kept := by
  cases attempt with
  | alone => exact kept.returns_value filled rfl
  | first passed => exact kept.returns_value filled rfl
  | last passed closed => cases closed <;> exact kept.returns_value filled rfl

/-- The receiver's steps keep what it reads up to date. -/
theorem Kept.receiveStep {before after : SlotRun Thread Waker} (kept : before.Kept)
    (done : before.receiveStep = .ok after)
    : after.Kept := by
  unfold SlotRun.receiveStep at done
  cases phase : before.receiving with
  | idle =>
      rw [phase] at done
      cases done
      exact kept
  | looking attempt =>
      rw [phase] at done
      dsimp only at done
      split at done
      · rename_i empty
        cases done
        exact kept.attempted_none (by rw [phase]; rfl) empty
      · cases done
        refine kept.receives (fun passed under => ?_)
        exact kept.sawClosed passed (by rw [phase]; exact under)
  | swapping attempt =>
      have swaps : after = { before with value := slotEmpty }.attempted attempt before.unread := by
        rw [phase] at done
        cases done
        rw [← phase]
      by_cases empty : before.value = slotEmpty
      · have same : ({ before with value := slotEmpty } : SlotRun Thread Waker) = before := by
          rw [← empty]
        rw [swaps, same, unread_eq_none.mpr empty]
        exact kept.attempted_none (by rw [phase]; rfl) empty
      · rw [swaps, unread_of_ne empty]
        exact kept.attempted_some attempt empty
  | claiming passed =>
      rw [phase] at done
      dsimp only at done
      split at done
      · cases done
        exact kept.receives (fun _ never => by cases never)
      · split at done
        · cases done
          exact kept.receives (fun _ never => by cases never)
        · cases done
  | storing passed =>
      rw [phase] at done
      cases done
      exact kept.receives (fun _ never => by cases never)
  | finishing passed =>
      rw [phase] at done
      dsimp only at done
      split at done
      · cases done
        exact kept.receives (fun _ never => by cases never)
      · split at done
        · cases done
          exact kept.receives (fun _ never => by cases never)
        · cases done
  | takingBack passed =>
      rw [phase] at done
      cases done
      exact kept.receives (fun _ never => by cases never)
  | resetting passed taken =>
      rw [phase] at done
      cases taken <;> cases done <;> exact kept.receives (fun _ never => by cases never)
  | waking passed waker =>
      rw [phase] at done
      cases done
      exact kept.receives (fun _ never => by cases never)
  | readingClosed passed =>
      rw [phase] at done
      cases done
      refine kept.receives (fun _ saw => ?_)
      simp only [ReceivePhase.attempt, Option.some.injEq, Attempt.last.injEq] at saw
      exact saw.2

-----------------------------------------------------------------------------------------
-- The sender's steps
-----------------------------------------------------------------------------------------

/-- `send` stores its value while the sender is there, so before the end is seen. -/
theorem Kept.stores {run : SlotRun Thread Waker} (kept : run.Kept) {thread : Thread}
    {value : Nat} (storing : run.sending thread = .storing value)
    : Kept { run with value, sent := run.sent ++ [value] } where
  upToDate := by
    have filled := (kept.sendable thread value storing).1
    have unread : ({ run with value, sent := run.sent ++ [value] }
        : SlotRun Thread Waker).unread = some value := unread_of_ne filled
    rw [unread]
    exact kept.upToDate.store value
  sendable := kept.sendable
  closing := kept.closing
  closed := kept.closed
  sawClosed := kept.sawClosed
  ended := by
    intro member
    have gone := kept.closed (kept.ended member).1
    have alive := (kept.sendable thread value storing).2
    cases gone.symm.trans alive
  ordered := kept.ordered

/-- `drop` stores the closed flag. -/
theorem Kept.closes {run : SlotRun Thread Waker} (kept : run.Kept) {thread : Thread}
    (closing : run.sending thread = .closing)
    : Kept { run with closed := true } where
  upToDate := kept.upToDate
  sendable := kept.sendable
  closing := kept.closing
  closed := fun _ => kept.closing thread closing
  sawClosed := fun _ _ => rfl
  ended := fun member => ⟨rfl, (kept.ended member).2⟩
  ordered := kept.ordered

variable [DecidableEq Thread]

/-- A thread goes on to a phase of `wake`, or to rest. -/
theorem Kept.sends {run : SlotRun Thread Waker} (kept : run.Kept) {thread : Thread}
    {phase : SendPhase Waker} {slot : AtomicWaker Waker} {wakes : List Waker}
    (sendable : ∀ value, phase = .storing value → value ≠ slotEmpty ∧ run.senderAlive = true)
    (closing : phase = .closing → run.senderAlive = false)
    : ({ run with waker := slot, wakes }.sendingAt thread phase).Kept where
  upToDate := kept.upToDate
  sendable := by
    intro other value storing
    by_cases same : other = thread
    · rw [same, sendingAt_self] at storing
      exact sendable value storing
    · rw [sendingAt_of_ne same] at storing
      exact kept.sendable other value storing
  closing := by
    intro other closed
    by_cases same : other = thread
    · rw [same, sendingAt_self] at closed
      exact closing closed
    · rw [sendingAt_of_ne same] at closed
      exact kept.closing other closed
  closed := kept.closed
  sawClosed := kept.sawClosed
  ended := kept.ended
  ordered := kept.ordered

/-- A sending thread's steps keep what the receiver reads up to date. -/
theorem Kept.sendStep {run : SlotRun Thread Waker} (kept : run.Kept) (thread : Thread)
    : (run.sendStep thread).Kept := by
  unfold SlotRun.sendStep
  cases phase : run.sending thread with
  | idle => exact kept
  | storing value =>
      exact (kept.stores phase).sends (fun _ never => by cases never) (fun never => by cases never)
  | closing =>
      exact (kept.closes phase).sends (fun _ never => by cases never) (fun never => by cases never)
  | fetching =>
      dsimp only
      split <;> exact kept.sends (fun _ never => by cases never) (fun never => by cases never)
  | taking => exact kept.sends (fun _ never => by cases never) (fun never => by cases never)
  | releasing taken =>
      cases taken <;>
        exact kept.sends (fun _ never => by cases never) (fun never => by cases never)
  | waking waker =>
      exact kept.sends (fun _ never => by cases never) (fun never => by cases never)

/-- Dropping the sender: no thread is sending. -/
theorem Kept.dropSender {run : SlotRun Thread Waker} (kept : run.Kept) (quiet : run.Quiet)
    (thread : Thread)
    : Kept { run.sendingAt thread .closing with senderAlive := false } where
  upToDate := kept.upToDate
  sendable := by
    intro other value storing
    by_cases same : other = thread
    · rw [same, sendingAt_self] at storing
      cases storing
    · rw [sendingAt_of_ne same, quiet other] at storing
      cases storing
  closing := fun _ _ => rfl
  closed := fun _ => rfl
  sawClosed := kept.sawClosed
  ended := kept.ended
  ordered := kept.ordered

-----------------------------------------------------------------------------------------
-- Whole runs
-----------------------------------------------------------------------------------------

/-- Every event keeps what the receiver reads up to date. -/
theorem Kept.next {before after : SlotRun Thread Waker} {event : SlotEvent Thread Waker}
    (kept : before.Kept) (step : (machine Thread Waker).Step before event after)
    : after.Kept := by
  have enabled := step.enabled
  have done := step.next
  cases event with
  | send thread value =>
      change before.send thread value = .ok after at done
      unfold SlotRun.send at done
      split at done
      · cases done
      · rename_i filled
        split at done
        · cases done
          refine kept.sends (fun other same => ?_) (fun never => by cases never)
          cases same
          exact ⟨filled, enabled.1⟩
        · cases done
          exact kept
  | dropSender thread =>
      cases done
      exact kept.dropSender enabled.2 thread
  | sendStep thread =>
      cases done
      exact kept.sendStep thread
  | tryRecv =>
      cases done
      exact kept.receives (fun _ never => by cases never)
  | poll waker =>
      cases done
      exact kept.receives (fun _ never => by cases never)
  | receiveStep => exact kept.receiveStep done
  | dropReceiver =>
      cases done
      exact ⟨kept.upToDate, kept.sendable, kept.closing, kept.closed, kept.sawClosed,
        kept.ended, kept.ordered⟩

theorem kept_reachable {run : SlotRun Thread Waker}
    (reached : (machine Thread Waker).Reachable run)
    : run.Kept :=
  reached.invariant (fun _ start => start ▸ Kept.channel)
    (fun _ _ _ _ kept step => kept.next step)

end SlotRun

end BoltLoad
