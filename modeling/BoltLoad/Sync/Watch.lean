import BoltLoad.Library.Machine
import BoltLoad.Rust.Checked

/-! `watch::channel` as a machine over the atomic and locked steps of its halves. Any number
of threads may use the `Sender` at once; dropping it needs all of them done. Any number of
`Receiver`s are cloned, subscribed and dropped, each making one call at a time.
-/

namespace BoltLoad.Watch

/-- `CLOSED`: set in the state once the sender is dropped. -/
def closedBit : Nat := 1

/-- `STEP`: what a publication counts the state up by. -/
def versionStep : Nat := 2

/-- `state & !CLOSED`. -/
def versionOf (state : Nat) : Nat := state - state % 2

/-- `state & CLOSED != 0`. -/
def isClosed (state : Nat) : Bool := state % 2 == closedBit

/-- `fetch_add(STEP)`, which wraps. -/
def fetchAddStep (state : Nat) : Nat := (state + versionStep) % u64Size

/-- `fetch_or(CLOSED)`. -/
def fetchOrClosed (state : Nat) : Nat := versionOf state + closedBit

/-- The error once the sender is dropped and the last value is seen. -/
inductive Closed
  | closed
  deriving DecidableEq, Repr

/-- `poll_state`: the version marked as seen, and what `changed` can return without waiting. -/
def pollState (state seen : Nat) : Nat × Option (Except Closed Unit) :=
  if versionOf state ≠ seen then
    (versionOf state, some (.ok ()))
  else if isClosed state then
    (seen, some (.error .closed))
  else
    (seen, none)

/-- A published value, with the version its own publication counted the state up to. -/
structure Stored (Value : Type) where
  value : Value
  version : Nat
  deriving DecidableEq, Repr

-----------------------------------------------------------------------------------------
-- The sending half
-----------------------------------------------------------------------------------------

/-- What a call of the sender returned. -/
inductive SenderAnswer (Value : Type)
  /-- `send_replace`: the previous value, and the one published in its place. -/
  | replaced (previous published : Stored Value)
  /-- `borrow`. -/
  | borrowed (current : Stored Value)
  deriving DecidableEq, Repr

/-- The next step of a thread using the `Sender`. -/
inductive SendPhase (Value : Type)
  | idle
  /-- `send_replace` is to take the lock. -/
  | publishing (value : Value)
  /-- `borrow` is to take the lock. -/
  | borrowing
  /-- `send_replace` has the lock, and is to add `STEP` to the state. -/
  | bumping (value : Value)
  /-- `send_replace` is to put its value in the slot. -/
  | replacing (published : Stored Value)
  /-- `borrow` has the lock, and is to clone the pointer. -/
  | cloning
  /-- The lock is to be given back. -/
  | unlocking (answer : SenderAnswer Value)
  /-- `drop` is to set `CLOSED`. -/
  | closing
  /-- `changed` is to be notified, and then the answer returned, if there is one. -/
  | notifying (answer : Option (SenderAnswer Value))
  deriving DecidableEq, Repr

/-- The thread has a next step, and does not have to wait with it for the lock. -/
def SendPhase.goesOn {Value : Type} (unlocked : Bool) : SendPhase Value → Bool
  | .idle => false
  | .publishing _ => unlocked
  | .borrowing => unlocked
  | _ => true

-----------------------------------------------------------------------------------------
-- A receiving half
-----------------------------------------------------------------------------------------

/-- The call a receiver reads the slot in. -/
inductive Reading (Value : Type)
  | borrow
  | borrowAndUpdate
  /-- `wait_for`, whose `f` rejected these values. -/
  | waitFor (rejected : List (Stored Value))
  /-- `WatchStream::poll_next`. -/
  | pollNext
  deriving DecidableEq, Repr

/-- The call a receiver waits for a newer value in. -/
inductive Waiting (Value : Type)
  | changed
  | waitFor (rejected : List (Stored Value))
  | pollNext
  deriving DecidableEq, Repr

/-- The next step of a `Receiver`. -/
inductive ReceivePhase (Value : Type)
  | idle
  /-- The lock is to be taken. -/
  | locking (reading : Reading Value)
  /-- `borrow_and_update` has the lock, and is to mark the version as seen. -/
  | loading (reading : Reading Value)
  /-- The pointer in the slot is to be cloned. -/
  | cloning (reading : Reading Value)
  /-- The lock is to be given back. -/
  | unlocking (reading : Reading Value) (read : Stored Value)
  /-- `wait_for` is to run `f`. -/
  | testing (rejected : List (Stored Value)) (read : Stored Value)
  /-- `poll_state` is to load the state. -/
  | checking (waiting : Waiting Value)
  /-- `poll_state` returned `None`: a listener is to be registered, if there is none yet, or
  waited for. -/
  | listening (waiting : Waiting Value)
  deriving DecidableEq, Repr

/-- What a receiver did or was told, in the order it happened. -/
inductive Observation (Value : Type)
  /-- It read the slot; `borrow_and_update` marked this version as seen. -/
  | read (read : Stored Value) (marked : Option Nat)
  /-- `mark_unchanged` marked this version as seen. -/
  | marked (version : Nat)
  /-- `has_changed` returned. -/
  | hasChanged (is : Bool)
  /-- `is_closed` returned. -/
  | isClosed (is : Bool)
  /-- `changed` returned, with this version marked as seen. -/
  | changed (result : Except Closed Unit) (seen : Nat)
  /-- `wait_for` returned, after `f` rejected these values. -/
  | waited (rejected : List (Stored Value)) (result : Except Closed (Stored Value))
  deriving DecidableEq

/-- `StreamState`; the listener of `Waiting` is the receiver's. -/
inductive StreamState
  | first
  | waiting
  | done
  deriving DecidableEq, Repr

/-- A `WatchStream` around a receiver, and what its polls returned once ready. -/
structure WatchStream (Value : Type) where
  state : StreamState
  items : List (Option (Stored Value))
  deriving DecidableEq, Repr

/-- A `Receiver`, what it is doing, and what it observed. -/
structure Receiver (Value : Type) where
  seen : Nat
  phase : ReceivePhase Value
  /-- Whether the listener it registered was notified, while it has one. -/
  listener : Option Bool
  stream : Option (WatchStream Value)
  /-- The version it had seen when it was made. -/
  origin : Nat
  history : List (Observation Value)
  deriving DecidableEq

/-- What a receiver, or the stream around one, is called for. -/
inductive Call
  | borrow
  | borrowAndUpdate
  | hasChanged
  | markUnchanged
  | isClosed
  | changed
  | waitFor
  | intoStream
  | pollNext
  | intoInner
  deriving DecidableEq, Repr

/-- The calls of a `WatchStream`, and not of a `Receiver`. -/
def Call.ofStream : Call → Bool
  | .pollNext => true
  | .intoInner => true
  | _ => false

/-- The version a read marks as seen. -/
def Reading.marks {Value : Type} (seen : Nat) : Reading Value → Option Nat
  | .borrow => none
  | _ => some seen

namespace Receiver

variable {Value : Type}

/-- A receiver that has seen a version. -/
def new (seen : Nat) : Receiver Value where
  seen := seen
  phase := .idle
  listener := none
  stream := none
  origin := seen
  history := []

/-- Something happens to the receiver. -/
def observe (receiver : Receiver Value) (observation : Observation Value) : Receiver Value :=
  { receiver with history := receiver.history ++ [observation] }

/-- A poll of the stream returns `Poll::Ready`. -/
def ready (receiver : Receiver Value) (item : Option (Stored Value)) : Receiver Value :=
  { receiver with
    phase := .idle
    stream := receiver.stream.map (fun stream => { stream with items := stream.items ++ [item] }) }

/-- The stream goes on to a state. -/
def streamAt (receiver : Receiver Value) (state : StreamState) : Receiver Value :=
  { receiver with stream := receiver.stream.map (fun stream => { stream with state }) }

/-- `notify` reaches the receiver's listener. -/
def notify (receiver : Receiver Value) : Receiver Value :=
  { receiver with listener := receiver.listener.map (fun _ => true) }

/-- The read of the slot returns to its caller. -/
def reads (receiver : Receiver Value) (read : Stored Value) : Reading Value → Receiver Value
  | .borrow => { receiver with phase := .idle }
  | .borrowAndUpdate => { receiver with phase := .idle }
  | .waitFor rejected => { receiver with phase := .testing rejected read }
  | .pollNext => receiver.ready (some read)

/-- `poll_state` found a newer version, now marked as seen. -/
def news (receiver : Receiver Value) : Waiting Value → Receiver Value
  | .changed => { receiver with phase := .idle }.observe (.changed (.ok ()) receiver.seen)
  | .waitFor rejected =>
      { receiver with phase := .locking (.waitFor rejected) }.observe
        (.changed (.ok ()) receiver.seen)
  | .pollNext => { receiver with phase := .locking .pollNext }

/-- `poll_state` found the channel closed, with no newer version. -/
def ends (receiver : Receiver Value) : Waiting Value → Receiver Value
  | .changed =>
      { receiver with phase := .idle }.observe (.changed (.error .closed) receiver.seen)
  | .waitFor rejected =>
      ({ receiver with phase := .idle }.observe (.changed (.error .closed) receiver.seen)).observe
        (.waited rejected (.error .closed))
  | .pollNext => (receiver.streamAt .done).ready none

/-- The receiver's next step, which reads at most one of the slot and the state; `accepts` is
what `f` returns.
-/
def step (receiver : Receiver Value) (slot : Stored Value) (state : Nat) (accepts : Bool)
    : Receiver Value :=
  match receiver.phase with
  | .idle => receiver
  | .locking .borrow => { receiver with phase := .cloning .borrow }
  | .locking reading => { receiver with phase := .loading reading }
  | .loading reading =>
      { receiver with seen := versionOf state, phase := .cloning reading }
  | .cloning reading =>
      { receiver with phase := .unlocking reading slot }.observe
        (.read slot (reading.marks receiver.seen))
  | .unlocking reading read => receiver.reads read reading
  | .testing rejected read =>
      if accepts then
        { receiver with phase := .idle }.observe (.waited rejected (.ok read))
      else
        { receiver with phase := .checking (.waitFor (rejected ++ [read])) }
  | .checking waiting =>
      match pollState state receiver.seen with
      | (seen, some (.ok ())) => { receiver with seen, listener := none }.news waiting
      | (seen, some (.error .closed)) => { receiver with seen, listener := none }.ends waiting
      | (seen, none) => { receiver with seen, phase := .listening waiting }
  | .listening waiting =>
      match receiver.listener, waiting with
      | none, waiting =>
          -- The check is repeated, so that a publication in between is not missed.
          { receiver with listener := some false, phase := .checking waiting }
      | some true, waiting => { receiver with listener := none, phase := .checking waiting }
      | some false, .pollNext => { receiver with phase := .idle }
      | some false, _ => receiver

/-- A call of the receiver, up to its first step that another party can come before. -/
def call (receiver : Receiver Value) (state : Nat) : Call → Receiver Value
  | .borrow => { receiver with phase := .locking .borrow }
  | .borrowAndUpdate => { receiver with phase := .locking .borrowAndUpdate }
  | .hasChanged => receiver.observe (.hasChanged (versionOf state != receiver.seen))
  | .markUnchanged =>
      { receiver with seen := versionOf state }.observe (.marked (versionOf state))
  | .isClosed => receiver.observe (.isClosed (Watch.isClosed state))
  | .changed => { receiver with phase := .checking .changed }
  | .waitFor => { receiver with phase := .locking (.waitFor []) }
  | .intoStream => { receiver with stream := some ⟨.first, []⟩ }
  | .pollNext =>
      match receiver.stream.map WatchStream.state with
      | some .first => { receiver.streamAt .waiting with phase := .locking .pollNext }
      | some .waiting => { receiver with phase := .checking .pollNext }
      | some .done => receiver.ready none
      | none => receiver
  | .intoInner => { receiver with stream := none, listener := none }

/-- The future of `changed` or `wait_for` is dropped at its await, or unwound by a panic of
`f`.
-/
def cancel (receiver : Receiver Value) : Receiver Value :=
  { receiver with phase := .idle, listener := none }

/-- The receiver has a next step, and does not have to wait with it for the lock or for its
listener to be notified.
-/
def goesOn (receiver : Receiver Value) (unlocked : Bool) : Bool :=
  match receiver.phase with
  | .idle => false
  | .locking _ => unlocked
  | .listening .pollNext => true
  | .listening _ => receiver.listener != some false
  | _ => true

/-- The receiver's future is at its await, or running `f`. -/
def cancellable (receiver : Receiver Value) : Bool :=
  match receiver.phase with
  | .testing .. => true
  | .listening .pollNext => false
  | .listening _ => receiver.listener.isSome
  | _ => false

end Receiver

-----------------------------------------------------------------------------------------
-- The channel
-----------------------------------------------------------------------------------------

/-- Who has the lock. -/
inductive Party (Thread ReceiverId : Type)
  | thread (thread : Thread)
  | receiver (receiver : ReceiverId)
  deriving DecidableEq, Repr

/-- The channel, what its halves are doing, and what they did so far. -/
structure Channel (Thread ReceiverId Value : Type) where
  slot : Stored Value
  state : Nat
  lock : Option (Party Thread ReceiverId)
  senderAlive : Bool
  sending : Thread → SendPhase Value
  receivers : ReceiverId → Option (Receiver Value)
  /-- How often `STEP` was added to the state. -/
  sends : Nat
  /-- What the sender's calls returned, in order. -/
  returned : List (SenderAnswer Value)

/-- What can happen to the channel: a call of one of its halves, or the next step of one. -/
inductive Event (Thread ReceiverId Value : Type)
  | sendReplace (thread : Thread) (value : Value)
  | senderBorrow (thread : Thread)
  | subscribe (receiver : ReceiverId)
  | dropSender (thread : Thread)
  | sendStep (thread : Thread)
  | call (receiver : ReceiverId) (call : Call)
  | receiveStep (receiver : ReceiverId) (accepts : Bool)
  | clone (source target : ReceiverId)
  | cancel (receiver : ReceiverId)
  | dropReceiver (receiver : ReceiverId)
  /-- A notified listener is dropped, and its notification passed on to another one. -/
  | passOn (receiver : ReceiverId)
  deriving DecidableEq, Repr

namespace Channel

variable {Thread ReceiverId Value : Type}

/-- No call of the sender is under way, nor its drop. -/
def Quiet (channel : Channel Thread ReceiverId Value) : Prop :=
  ∀ thread, channel.sending thread = .idle

/-- `notify(usize::MAX)` wakes every listener registered by now. -/
def notify (channel : Channel Thread ReceiverId Value) : Channel Thread ReceiverId Value :=
  { channel with receivers := fun receiver => (channel.receivers receiver).map Receiver.notify }

section Threads

variable [DecidableEq Thread]

/-- A thread goes on to its next step. -/
def sendingAt (channel : Channel Thread ReceiverId Value) (thread : Thread)
    (phase : SendPhase Value)
    : Channel Thread ReceiverId Value :=
  { channel with sending := Function.update channel.sending thread phase }

/-- The next step of a thread using the sender. -/
def sendStep (channel : Channel Thread ReceiverId Value) (thread : Thread)
    : Channel Thread ReceiverId Value :=
  match channel.sending thread with
  | .idle => channel
  | .publishing value =>
      { channel with lock := some (.thread thread) }.sendingAt thread (.bumping value)
  | .borrowing => { channel with lock := some (.thread thread) }.sendingAt thread .cloning
  | .bumping value =>
      { channel with
        state := fetchAddStep channel.state
        sends := channel.sends + 1 }.sendingAt thread
        (.replacing ⟨value, versionOf (fetchAddStep channel.state)⟩)
  | .replacing published =>
      { channel with slot := published }.sendingAt thread
        (.unlocking (.replaced channel.slot published))
  | .cloning => channel.sendingAt thread (.unlocking (.borrowed channel.slot))
  | .unlocking (.replaced previous published) =>
      { channel with lock := none }.sendingAt thread
        (.notifying (some (.replaced previous published)))
  | .unlocking (.borrowed current) =>
      { channel with
        lock := none
        returned := channel.returned ++ [SenderAnswer.borrowed current] }.sendingAt thread .idle
  | .closing =>
      { channel with state := fetchOrClosed channel.state }.sendingAt thread (.notifying none)
  | .notifying answer =>
      { channel.notify with returned := channel.returned ++ answer.toList }.sendingAt thread .idle

end Threads

section Receivers

variable [DecidableEq ReceiverId]

/-- `watch::channel`, whose receiver is known as `receiver`. -/
def channel (initial : Value) (receiver : ReceiverId) : Channel Thread ReceiverId Value where
  slot := ⟨initial, 0⟩
  state := 0
  lock := none
  senderAlive := true
  sending _ := .idle
  receivers := Function.update (fun _ => none) receiver (some (.new 0))
  sends := 0
  returned := []

/-- A receiver is made, goes on, or is dropped. -/
def receiverAt (channel : Channel Thread ReceiverId Value) (receiver : ReceiverId)
    (now : Option (Receiver Value))
    : Channel Thread ReceiverId Value :=
  { channel with receivers := Function.update channel.receivers receiver now }

/-- The lock after a receiver's next step. -/
def lockAfter (channel : Channel Thread ReceiverId Value) (receiver : ReceiverId)
    : ReceivePhase Value → Option (Party Thread ReceiverId)
  | .locking _ => some (.receiver receiver)
  | .unlocking .. => none
  | _ => channel.lock

/-- The next step of a receiver. -/
def receiveStep (channel : Channel Thread ReceiverId Value) (receiver : ReceiverId)
    (accepts : Bool)
    : Channel Thread ReceiverId Value :=
  match channel.receivers receiver with
  | none => channel
  | some known =>
      { channel with lock := channel.lockAfter receiver known.phase }.receiverAt receiver
        (some (known.step channel.slot channel.state accepts))

end Receivers

variable [DecidableEq Thread] [DecidableEq ReceiverId]

/-- When an event can happen. -/
def Enabled (channel : Channel Thread ReceiverId Value) : Event Thread ReceiverId Value → Prop
  | .sendReplace thread _ => channel.senderAlive = true ∧ channel.sending thread = .idle
  | .senderBorrow thread => channel.senderAlive = true ∧ channel.sending thread = .idle
  | .subscribe receiver => channel.senderAlive = true ∧ channel.receivers receiver = none
  | .dropSender _ => channel.senderAlive = true ∧ channel.Quiet
  | .sendStep thread => (channel.sending thread).goesOn channel.lock.isNone = true
  | .call receiver call =>
      ∃ known ∈ channel.receivers receiver,
        known.phase = .idle ∧ known.stream.isSome = call.ofStream
  | .receiveStep receiver _ =>
      ∃ known ∈ channel.receivers receiver, known.goesOn channel.lock.isNone = true
  | .clone source target =>
      (∃ known ∈ channel.receivers source, known.phase = .idle ∧ known.stream = none)
      ∧ channel.receivers target = none
  | .cancel receiver => ∃ known ∈ channel.receivers receiver, known.cancellable = true
  | .dropReceiver receiver => ∃ known ∈ channel.receivers receiver, known.phase = .idle
  | .passOn receiver => (channel.receivers receiver).isSome = true

instance [Fintype Thread] [DecidableEq Value] (channel : Channel Thread ReceiverId Value)
    : Decidable channel.Quiet :=
  inferInstanceAs (Decidable (∀ thread, channel.sending thread = .idle))

instance [Fintype Thread] [DecidableEq Value] (channel : Channel Thread ReceiverId Value)
    : ∀ event, Decidable (channel.Enabled event)
  | .sendReplace .. => inferInstanceAs (Decidable (_ ∧ _))
  | .senderBorrow _ => inferInstanceAs (Decidable (_ ∧ _))
  | .subscribe _ => inferInstanceAs (Decidable (_ ∧ _))
  | .dropSender _ => inferInstanceAs (Decidable (_ ∧ _))
  | .sendStep _ => inferInstanceAs (Decidable (_ = true))
  | .call .. => inferInstanceAs (Decidable (∃ _ ∈ _, _))
  | .receiveStep .. => inferInstanceAs (Decidable (∃ _ ∈ _, _))
  | .clone .. => inferInstanceAs (Decidable ((∃ _ ∈ _, _) ∧ _))
  | .cancel _ => inferInstanceAs (Decidable (∃ _ ∈ _, _))
  | .dropReceiver _ => inferInstanceAs (Decidable (∃ _ ∈ _, _))
  | .passOn _ => inferInstanceAs (Decidable (_ = true))

/-- The state an event leads to. -/
def next (channel : Channel Thread ReceiverId Value)
    : Event Thread ReceiverId Value → Channel Thread ReceiverId Value
  | .sendReplace thread value => channel.sendingAt thread (.publishing value)
  | .senderBorrow thread => channel.sendingAt thread .borrowing
  | .subscribe receiver => channel.receiverAt receiver (some (.new (versionOf channel.state)))
  | .dropSender thread => { channel.sendingAt thread .closing with senderAlive := false }
  | .sendStep thread => channel.sendStep thread
  | .call receiver call =>
      channel.receiverAt receiver
        ((channel.receivers receiver).map (fun known => known.call channel.state call))
  | .receiveStep receiver accepts => channel.receiveStep receiver accepts
  | .clone source target =>
      channel.receiverAt target
        ((channel.receivers source).map (fun known => .new known.seen))
  | .cancel receiver =>
      channel.receiverAt receiver ((channel.receivers receiver).map Receiver.cancel)
  | .dropReceiver receiver => channel.receiverAt receiver none
  | .passOn receiver =>
      channel.receiverAt receiver ((channel.receivers receiver).map Receiver.notify)

/-- The channel over every interleaving of its halves' steps; none of them panics. -/
def machine (Thread ReceiverId Value : Type) [DecidableEq Thread] [DecidableEq ReceiverId]
    : Machine (Channel Thread ReceiverId Value) (Event Thread ReceiverId Value) Empty where
  Initial start := ∃ initial receiver, start = channel initial receiver
  Enabled := Enabled
  next before event := .ok (before.next event)

instance [Fintype Thread] [DecidableEq Value] (channel : Channel Thread ReceiverId Value)
    (event : Event Thread ReceiverId Value)
    : Decidable ((machine Thread ReceiverId Value).Enabled channel event) :=
  inferInstanceAs (Decidable (channel.Enabled event))

end Channel

end BoltLoad.Watch
