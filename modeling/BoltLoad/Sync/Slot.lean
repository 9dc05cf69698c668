import BoltLoad.Library.Machine
import BoltLoad.Rust.Checked
import BoltLoad.Sync.AtomicWaker

/-! `slot::channel` as a machine over the atomic steps of its two halves. Any number of
threads may send at once through a shared `Sender`; dropping it needs all of them done.
-/

namespace BoltLoad

/-- `EMPTY`: the slot holds no value (`u64::MAX`). -/
def slotEmpty : Nat := u64Size - 1

-----------------------------------------------------------------------------------------
-- What the two halves are about to do
-----------------------------------------------------------------------------------------

/-- The next atomic step of a thread using the `Sender`. -/
inductive SendPhase (Waker : Type)
  | idle
  /-- `send`: the receiver was there, the value is to be stored. -/
  | storing (value : Nat)
  /-- `drop`: the closed flag is to be stored. -/
  | closing
  /-- `wake`: `WAKING` is to be added to the state. -/
  | fetching
  /-- `wake` owns the waker and is to take it. -/
  | taking
  /-- `wake` took the waker and is to remove `WAKING` from the state. -/
  | releasing (taken : Option Waker)
  /-- `wake` is to call the waker it took. -/
  | waking (taken : Waker)
  deriving DecidableEq, Repr

/-- The waker passed to a poll, with how many wakes came before it. -/
structure PassedWaker (Waker : Type) where
  waker : Waker
  since : Nat
  deriving DecidableEq, Repr

/-- Where the receiver calls `try_recv`. -/
inductive Attempt (Waker : Type)
  /-- On its own, outside any poll. -/
  | alone
  /-- First in a poll. -/
  | first (passed : PassedWaker Waker)
  /-- Last in a poll, once its waker is registered and the closed flag read. -/
  | last (passed : PassedWaker Waker) (closed : Bool)
  deriving DecidableEq, Repr

/-- The next atomic step of the `Receiver`. -/
inductive ReceivePhase (Waker : Type)
  | idle
  /-- `try_recv`: the value is to be loaded. -/
  | looking (attempt : Attempt Waker)
  /-- `try_recv`: the value is to be swapped for `EMPTY`. -/
  | swapping (attempt : Attempt Waker)
  /-- `register`: the state is to be exchanged from `WAITING` to `REGISTERING`. -/
  | claiming (passed : PassedWaker Waker)
  /-- `register` owns the slot and is to store its waker. -/
  | storing (passed : PassedWaker Waker)
  /-- `register`: the state is to be exchanged from `REGISTERING` back to `WAITING`. -/
  | finishing (passed : PassedWaker Waker)
  /-- `register` was asked to wake, and is to take its waker back. -/
  | takingBack (passed : PassedWaker Waker)
  /-- `register` was asked to wake, and is to store `WAITING`. -/
  | resetting (passed : PassedWaker Waker) (taken : Option Waker)
  /-- `register` is to call a waker itself. -/
  | waking (passed : PassedWaker Waker) (waker : Waker)
  /-- `poll_recv`: the closed flag is to be loaded. -/
  | readingClosed (passed : PassedWaker Waker)
  deriving DecidableEq, Repr

/-- What a call of the receiver returned. -/
inductive Answer
  /-- `try_recv` on its own. -/
  | tried (value : Option Nat)
  /-- `poll_recv`: `Poll::Ready`. -/
  | ready (value : Option Nat)
  /-- `poll_recv`: `Poll::Pending`. -/
  | pending
  deriving DecidableEq, Repr

/-- The value a call of the receiver took from the slot. -/
def Answer.value : Answer → Option Nat
  | .tried value => value
  | .ready value => value
  | .pending => none

-----------------------------------------------------------------------------------------
-- The channel and its run
-----------------------------------------------------------------------------------------

/-- The channel, what its halves are doing, and what they did so far. -/
structure SlotRun (Thread Waker : Type) where
  value : Nat
  closed : Bool
  waker : AtomicWaker Waker
  senderAlive : Bool
  receiverAlive : Bool
  sending : Thread → SendPhase Waker
  receiving : ReceivePhase Waker
  /-- The values stored in the slot, in order. -/
  sent : List Nat
  /-- What the receiver's calls returned, in order. -/
  answers : List Answer
  /-- The wakers called, in order. -/
  wakes : List Waker
  /-- The waker of the latest poll that returned `Pending`, until a later one registers its
  own. -/
  waiting : Option (PassedWaker Waker)

/-- What can happen to the channel: a call of one of its halves, or the next atomic step of
one.
-/
inductive SlotEvent (Thread Waker : Type)
  | send (thread : Thread) (value : Nat)
  | dropSender (thread : Thread)
  | sendStep (thread : Thread)
  | tryRecv
  | poll (waker : Waker)
  | receiveStep
  | dropReceiver
  deriving DecidableEq, Repr

namespace SlotRun

variable {Thread Waker : Type}

/-- `slot::channel`. -/
def channel : SlotRun Thread Waker where
  value := slotEmpty
  closed := false
  waker := .new
  senderAlive := true
  receiverAlive := true
  sending _ := .idle
  receiving := .idle
  sent := []
  answers := []
  wakes := []
  waiting := none

/-- The values the receiver took. -/
def received (run : SlotRun Thread Waker) : List Nat := run.answers.filterMap Answer.value

/-- The value the receiver has not read yet. -/
def unread (run : SlotRun Thread Waker) : Option Nat :=
  if run.value = slotEmpty then none else some run.value

/-- No send is under way, nor the drop of the sender. -/
def Quiet (run : SlotRun Thread Waker) : Prop := ∀ thread, run.sending thread = .idle

/-- A passed waker was called since it was passed. -/
def WokenSince (run : SlotRun Thread Waker) (passed : PassedWaker Waker) : Prop :=
  passed.waker ∈ run.wakes.drop passed.since

/-- A call of the receiver returns. -/
def answer (run : SlotRun Thread Waker) (answer : Answer) : SlotRun Thread Waker :=
  { run with receiving := .idle, answers := run.answers ++ [answer] }

/-- `try_recv` returns to its caller. -/
def attempted (run : SlotRun Thread Waker) (attempt : Attempt Waker) (got : Option Nat)
    : SlotRun Thread Waker :=
  match attempt, got with
  | .alone, got => run.answer (.tried got)
  | .first _, some value => run.answer (.ready (some value))
  | .first passed, none => { run with receiving := .claiming passed }
  | .last _ _, some value => run.answer (.ready (some value))
  | .last _ true, none => run.answer (.ready none)
  | .last passed false, none => { run.answer .pending with waiting := some passed }

/-- The receiver's next atomic step. -/
def receiveStep (run : SlotRun Thread Waker) : Checked (SlotRun Thread Waker) :=
  match run.receiving with
  | .idle => .ok run
  | .looking attempt =>
      if run.value = slotEmpty then
        .ok (run.attempted attempt none)
      else
        .ok { run with receiving := .swapping attempt }
  | .swapping attempt => .ok ({ run with value := slotEmpty }.attempted attempt run.unread)
  | .claiming passed =>
      if run.waker.state = .waiting then
        .ok {
          run with
          waker := run.waker.enter .registerOwned
          receiving := .storing passed
          waiting := none }
      else if run.waker.state = .wakeOwned then
        .ok { run with receiving := .waking passed passed.waker, waiting := none }
      else
        .error (.assertion "concurrent register")
  | .storing passed =>
      .ok { run with waker := run.waker.storeWaker passed.waker, receiving := .finishing passed }
  | .finishing passed =>
      if run.waker.state = .registerOwned then
        .ok { run with waker := run.waker.enter .waiting, receiving := .readingClosed passed }
      else if run.waker.state = .wakeAsked then
        .ok { run with receiving := .takingBack passed }
      else
        .error (.assertion "state == REGISTERING | WAKING")
  | .takingBack passed =>
      .ok {
        run with
        waker := run.waker.takeWaker
        receiving := .resetting passed run.waker.waker }
  | .resetting passed (some waker) =>
      .ok { run with waker := run.waker.enter .waiting, receiving := .waking passed waker }
  | .resetting passed none =>
      .ok { run with waker := run.waker.enter .waiting, receiving := .readingClosed passed }
  | .waking passed waker =>
      .ok { run with wakes := run.wakes ++ [waker], receiving := .readingClosed passed }
  | .readingClosed passed => .ok { run with receiving := .looking (.last passed run.closed) }

variable [DecidableEq Thread]

/-- A thread goes on to its next step. -/
def sendingAt (run : SlotRun Thread Waker) (thread : Thread) (phase : SendPhase Waker)
    : SlotRun Thread Waker :=
  { run with sending := Function.update run.sending thread phase }

@[simp] theorem sendingAt_self (run : SlotRun Thread Waker) (thread : Thread)
    (phase : SendPhase Waker)
    : (run.sendingAt thread phase).sending thread = phase :=
  Function.update_self ..

theorem sendingAt_of_ne {run : SlotRun Thread Waker} {thread other : Thread}
    {phase : SendPhase Waker} (apart : other ≠ thread)
    : (run.sendingAt thread phase).sending other = run.sending other :=
  Function.update_of_ne apart ..

/-- `Sender::send` up to its first store. -/
def send (run : SlotRun Thread Waker) (thread : Thread) (value : Nat)
    : Checked (SlotRun Thread Waker) :=
  if value = slotEmpty then
    .error (.assertion "u64::MAX marks the empty slot")
  else if run.receiverAlive then
    .ok (run.sendingAt thread (.storing value))
  else
    .ok run

/-- The next atomic step of a thread using the sender. -/
def sendStep (run : SlotRun Thread Waker) (thread : Thread) : SlotRun Thread Waker :=
  match run.sending thread with
  | .idle => run
  | .storing value =>
      { run with value, sent := run.sent ++ [value] }.sendingAt thread .fetching
  | .closing => { run with closed := true }.sendingAt thread .fetching
  | .fetching =>
      { run with waker := run.waker.fetchOrWaking }.sendingAt thread
        -- A `register` or another `wake` under way sees to the waker.
        (if run.waker.state = WakerState.waiting then .taking else .idle)
  | .taking =>
      { run with waker := run.waker.takeWaker }.sendingAt thread (.releasing run.waker.waker)
  | .releasing (some waker) =>
      { run with waker := run.waker.fetchAndNotWaking }.sendingAt thread (.waking waker)
  | .releasing none =>
      { run with waker := run.waker.fetchAndNotWaking }.sendingAt thread .idle
  | .waking waker => { run with wakes := run.wakes ++ [waker] }.sendingAt thread .idle

/-- When an event can happen. -/
def Enabled (run : SlotRun Thread Waker) : SlotEvent Thread Waker → Prop
  | .send thread value => run.senderAlive = true ∧ run.sending thread = .idle ∧ value < u64Size
  | .dropSender _ => run.senderAlive = true ∧ run.Quiet
  | .sendStep _ => True
  | .tryRecv => run.receiverAlive = true ∧ run.receiving = .idle
  | .poll _ => run.receiverAlive = true ∧ run.receiving = .idle
  | .receiveStep => True
  | .dropReceiver => run.receiving = .idle

instance [Fintype Thread] [DecidableEq Waker] (run : SlotRun Thread Waker)
    : Decidable run.Quiet :=
  inferInstanceAs (Decidable (∀ thread, run.sending thread = .idle))

instance [Fintype Thread] [DecidableEq Waker] (run : SlotRun Thread Waker)
    : ∀ event, Decidable (run.Enabled event)
  | .send .. => inferInstanceAs (Decidable (_ ∧ _ ∧ _))
  | .dropSender _ => inferInstanceAs (Decidable (_ ∧ _))
  | .sendStep _ => inferInstanceAs (Decidable True)
  | .tryRecv => inferInstanceAs (Decidable (_ ∧ _))
  | .poll _ => inferInstanceAs (Decidable (_ ∧ _))
  | .receiveStep => inferInstanceAs (Decidable True)
  | .dropReceiver => inferInstanceAs (Decidable (_ = _))

/-- The state an event leads to. -/
def next (run : SlotRun Thread Waker)
    : SlotEvent Thread Waker → Checked (SlotRun Thread Waker)
  | .send thread value => run.send thread value
  | .dropSender thread => .ok { run.sendingAt thread .closing with senderAlive := false }
  | .sendStep thread => .ok (run.sendStep thread)
  | .tryRecv => .ok { run with receiving := .looking .alone }
  | .poll waker => .ok { run with receiving := .looking (.first ⟨waker, run.wakes.length⟩) }
  | .receiveStep => run.receiveStep
  | .dropReceiver => .ok { run with receiverAlive := false }

/-- The channel over every interleaving of its halves' atomic steps. -/
def machine (Thread Waker : Type) [DecidableEq Thread]
    : Machine (SlotRun Thread Waker) (SlotEvent Thread Waker) Panic where
  Initial run := run = channel
  Enabled := Enabled
  next := next

instance [Fintype Thread] [DecidableEq Waker] (run : SlotRun Thread Waker)
    (event : SlotEvent Thread Waker)
    : Decidable ((machine Thread Waker).Enabled run event) :=
  inferInstanceAs (Decidable (run.Enabled event))

end SlotRun

end BoltLoad
