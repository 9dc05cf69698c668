import BoltLoad.Library.Mutex
import BoltLoad.Sync.Watch

/-! Who has the lock of the watch channel: one party at a time is between taking it and giving
it back.
-/

namespace BoltLoad.Watch

variable {Thread ReceiverId Value : Type}

/-- The thread took the lock and has not given it back. -/
def SendPhase.holdsLock : SendPhase Value → Bool
  | .bumping _ => true
  | .replacing _ => true
  | .cloning => true
  | .unlocking _ => true
  | _ => false

/-- The receiver took the lock and has not given it back. -/
def ReceivePhase.holdsLock : ReceivePhase Value → Bool
  | .loading _ => true
  | .cloning _ => true
  | .unlocking .. => true
  | _ => false

/-- The receiver's next step takes the lock or keeps it. -/
def ReceivePhase.entersLock : ReceivePhase Value → Bool
  | .locking _ => true
  | .loading _ => true
  | .cloning _ => true
  | _ => false

namespace Receiver

variable {receiver : Receiver Value}

theorem reads_outside (receiver : Receiver Value) (read : Stored Value) (reading : Reading Value)
    : (receiver.reads read reading).phase.holdsLock = false := by
  cases reading <;> rfl

theorem news_outside (receiver : Receiver Value) (waiting : Waiting Value)
    : (receiver.news waiting).phase.holdsLock = false := by
  cases waiting <;> rfl

theorem ends_outside (receiver : Receiver Value) (waiting : Waiting Value)
    : (receiver.ends waiting).phase.holdsLock = false := by
  cases waiting <;> rfl

/-- What `poll_state` found: a newer version, the close with none, or neither. -/
theorem pollState_cases (state seen : Nat)
    : (versionOf state ≠ seen ∧ pollState state seen = (versionOf state, some (.ok ())))
      ∨ (versionOf state = seen
          ∧ isClosed state = true
          ∧ pollState state seen = (seen, some (.error .closed)))
      ∨ (versionOf state = seen
          ∧ isClosed state = false
          ∧ pollState state seen = (seen, none)) := by
  unfold pollState
  by_cases newer : versionOf state ≠ seen
  · exact .inl ⟨newer, if_pos newer⟩
  · have same : versionOf state = seen := not_not.mp newer
    rw [if_neg newer]
    by_cases closed : isClosed state = true
    · exact .inr (.inl ⟨same, closed, if_pos closed⟩)
    · exact .inr (.inr ⟨same, Bool.not_eq_true _ ▸ closed, if_neg closed⟩)

/-- What a check of the state does. -/
theorem step_checking {waiting : Waiting Value} (checking : receiver.phase = .checking waiting)
    (slot : Stored Value) (state : Nat) (accepts : Bool)
    : (versionOf state ≠ receiver.seen
        ∧ receiver.step slot state accepts
          = { receiver with seen := versionOf state, listener := none }.news waiting)
      ∨ (versionOf state = receiver.seen
          ∧ isClosed state = true
          ∧ receiver.step slot state accepts = { receiver with listener := none }.ends waiting)
      ∨ (versionOf state = receiver.seen
          ∧ isClosed state = false
          ∧ receiver.step slot state accepts
            = { receiver with phase := .listening waiting }) := by
  unfold step
  rw [checking]
  rcases pollState_cases state receiver.seen with
      ⟨newer, found⟩ | ⟨same, closed, found⟩ | ⟨same, opened, found⟩
  · exact .inl ⟨newer, by simp only [found]⟩
  · exact .inr (.inl ⟨same, closed, by simp only [found]⟩)
  · exact .inr (.inr ⟨same, opened, by simp only [found]⟩)

/-- A step enters what the lock guards by taking it, and leaves it by giving it back. -/
theorem step_holdsLock (receiver : Receiver Value) (slot : Stored Value) (state : Nat)
    (accepts : Bool)
    : (receiver.step slot state accepts).phase.holdsLock = receiver.phase.entersLock := by
  cases phase : receiver.phase with
  | idle => simp only [step, phase]; rfl
  | locking reading => cases reading <;> (simp only [step, phase]; rfl)
  | loading reading => simp only [step, phase]; rfl
  | cloning reading => simp only [step, phase]; rfl
  | unlocking reading read => simp only [step, phase]; exact receiver.reads_outside read reading
  | testing rejected read =>
      simp only [step, phase]
      split <;> rfl
  | checking waiting =>
      rcases step_checking phase slot state accepts with
          ⟨_, found⟩ | ⟨_, _, found⟩ | ⟨_, _, found⟩
      · rw [found]
        exact news_outside _ waiting
      · rw [found]
        exact ends_outside _ waiting
      · rw [found]
        rfl
  | listening waiting =>
      simp only [step, phase]
      split
      · rfl
      · rfl
      · rfl
      · rw [phase]
        rfl

theorem call_outside (idle : receiver.phase = .idle) (state : Nat) (call : Call)
    : (receiver.call state call).phase.holdsLock = false := by
  cases call with
  | borrow => rfl
  | borrowAndUpdate => rfl
  | hasChanged => simp only [Receiver.call, observe, idle]; rfl
  | markUnchanged => simp only [Receiver.call, observe, idle]; rfl
  | isClosed => simp only [Receiver.call, observe, idle]; rfl
  | changed => rfl
  | waitFor => rfl
  | intoStream => simp only [Receiver.call, idle]; rfl
  | pollNext =>
      simp only [Receiver.call]
      split
      · rfl
      · rfl
      · rfl
      · rw [idle]
        rfl
  | intoInner => simp only [Receiver.call, idle]; rfl

end Receiver

namespace Channel

variable {channel : Channel Thread ReceiverId Value}

/-- The party is between taking the lock and giving it back. -/
def Inside (channel : Channel Thread ReceiverId Value) : Party Thread ReceiverId → Prop
  | .thread thread => (channel.sending thread).holdsLock = true
  | .receiver receiver => ∃ known ∈ channel.receivers receiver, known.phase.holdsLock = true

theorem inside_receiver {receiver : ReceiverId} {known : Receiver Value}
    (present : channel.receivers receiver = some known)
    : channel.Inside (.receiver receiver) ↔ known.phase.holdsLock = true := by
  simp only [Inside, present, Option.mem_some_iff, exists_eq_left']

section Threads

variable [DecidableEq Thread] {thread : Thread} {phase : SendPhase Value}

@[simp] theorem sendingAt_self (channel : Channel Thread ReceiverId Value) (thread : Thread)
    (phase : SendPhase Value)
    : (channel.sendingAt thread phase).sending thread = phase :=
  Function.update_self ..

theorem sendingAt_of_ne {other : Thread} (apart : other ≠ thread)
    : (channel.sendingAt thread phase).sending other = channel.sending other :=
  Function.update_of_ne apart ..

theorem inside_sendingAt
    : (channel.sendingAt thread phase).Inside (.thread thread) ↔ phase.holdsLock = true := by
  simp only [Inside, sendingAt_self]

theorem inside_sendingAt_of_ne {party : Party Thread ReceiverId} (apart : party ≠ .thread thread)
    : (channel.sendingAt thread phase).Inside party ↔ channel.Inside party := by
  cases party with
  | thread other =>
      have apart : other ≠ thread := fun same => apart (by rw [same])
      simp only [Inside, sendingAt_of_ne apart]
  | receiver receiver => rfl

/-- A thread goes on inside or outside. -/
theorem guards_sendingAt (guarded : Guards channel.lock channel.Inside)
    (same : phase.holdsLock = (channel.sending thread).holdsLock)
    : Guards channel.lock (channel.sendingAt thread phase).Inside := by
  refine guarded.keeps (fun other => ?_)
  by_cases here : other = .thread thread
  · rw [here, inside_sendingAt, same]
    rfl
  · exact inside_sendingAt_of_ne here

end Threads

section Receivers

variable [DecidableEq ReceiverId] {receiver : ReceiverId} {now : Option (Receiver Value)}

@[simp] theorem receiverAt_self (channel : Channel Thread ReceiverId Value)
    (receiver : ReceiverId) (now : Option (Receiver Value))
    : (channel.receiverAt receiver now).receivers receiver = now :=
  Function.update_self ..

theorem receiverAt_of_ne {other : ReceiverId} (apart : other ≠ receiver)
    : (channel.receiverAt receiver now).receivers other = channel.receivers other :=
  Function.update_of_ne apart ..

theorem inside_receiverAt
    : (channel.receiverAt receiver now).Inside (.receiver receiver)
      ↔ ∃ known ∈ now, known.phase.holdsLock = true := by
  simp only [Inside, receiverAt_self]

theorem inside_receiverAt_of_ne {party : Party Thread ReceiverId}
    (apart : party ≠ .receiver receiver)
    : (channel.receiverAt receiver now).Inside party ↔ channel.Inside party := by
  cases party with
  | thread thread => rfl
  | receiver other =>
      have apart : other ≠ receiver := fun same => apart (by rw [same])
      simp only [Inside, receiverAt_of_ne apart]

/-- A receiver goes on inside or outside. -/
theorem guards_receiverAt (guarded : Guards channel.lock channel.Inside)
    (same
      : (∃ known ∈ now, known.phase.holdsLock = true) ↔ channel.Inside (.receiver receiver))
    : Guards channel.lock (channel.receiverAt receiver now).Inside := by
  refine guarded.keeps (fun other => ?_)
  by_cases here : other = .receiver receiver
  · rw [here, inside_receiverAt, same]
  · exact inside_receiverAt_of_ne here

end Receivers

/-- Notifying the event moves nobody. -/
theorem inside_notify (party : Party Thread ReceiverId)
    : channel.notify.Inside party ↔ channel.Inside party := by
  cases party with
  | thread thread => rfl
  | receiver receiver =>
      simp only [Inside, notify, Option.mem_def, Option.map_eq_some_iff]
      constructor
      · rintro ⟨_, ⟨known, present, rfl⟩, inside⟩
        exact ⟨known, present, inside⟩
      · rintro ⟨known, present, inside⟩
        exact ⟨_, ⟨known, present, rfl⟩, inside⟩

section Threads

variable [DecidableEq Thread] {thread : Thread}

/-- A thread's step keeps the lock with the one inside what it guards. -/
theorem guards_sendStep (guarded : Guards channel.lock channel.Inside)
    (goesOn : (channel.sending thread).goesOn channel.lock.isNone = true)
    : Guards (channel.sendStep thread).lock (channel.sendStep thread).Inside := by
  have others (after : SendPhase Value) (other : Party Thread ReceiverId)
      (apart : other ≠ .thread thread)
      : (channel.sendingAt thread after).Inside other ↔ channel.Inside other :=
    inside_sendingAt_of_ne apart
  have stays {after : SendPhase Value}
      (same : after.holdsLock = (channel.sending thread).holdsLock)
      : Guards channel.lock (channel.sendingAt thread after).Inside :=
    guards_sendingAt guarded same
  unfold sendStep
  cases phase : channel.sending thread with
  | idle => exact guarded
  | publishing value =>
      rw [phase] at goesOn
      have unlocked : channel.lock = none := Option.isNone_iff_eq_none.mp goesOn
      exact (unlocked ▸ guarded).takes (inside_sendingAt.mpr rfl) (others (.bumping value))
  | borrowing =>
      rw [phase] at goesOn
      have unlocked : channel.lock = none := Option.isNone_iff_eq_none.mp goesOn
      exact (unlocked ▸ guarded).takes (inside_sendingAt.mpr rfl) (others .cloning)
  | bumping value => exact stays (by rw [phase]; rfl)
  | replacing published => exact stays (by rw [phase]; rfl)
  | cloning => exact stays (by rw [phase]; rfl)
  | unlocking answer =>
      have was : channel.Inside (.thread thread) := by
        rw [Inside, phase]
        rfl
      have outside {after : SendPhase Value} (outside : after.holdsLock = false)
          : ¬(channel.sendingAt thread after).Inside (.thread thread) := by
        rw [inside_sendingAt, outside]
        exact Bool.false_ne_true
      cases answer with
      | replaced previous published => exact guarded.gives was (outside rfl) (others _)
      | borrowed current => exact guarded.gives was (outside rfl) (others .idle)
  | closing => exact stays (by rw [phase]; rfl)
  | notifying answer =>
      have notified : Guards channel.notify.lock channel.notify.Inside :=
        guarded.keeps inside_notify
      have idle
          : (SendPhase.idle : SendPhase Value).holdsLock
            = (channel.notify.sending thread).holdsLock := by
        change _ = (channel.sending thread).holdsLock
        rw [phase]
        rfl
      exact guards_sendingAt notified idle

end Threads

section Receivers

variable [DecidableEq ReceiverId] {receiver : ReceiverId} {known : Receiver Value}

/-- The receiver made with the channel has seen its value. -/
theorem receivers_channel {initial : Value} {receiver other : ReceiverId}
    {known : Receiver Value}
    (present
      : (Channel.channel initial receiver : Channel Thread ReceiverId Value).receivers other
        = some known)
    : known = .new 0 := by
  change Function.update (fun _ => none) receiver (some (.new 0)) other = some known at present
  by_cases here : other = receiver
  · rw [here, Function.update_self] at present
    exact (Option.some.inj present).symm
  · rw [Function.update_of_ne here] at present
    cases present

/-- A receiver's step keeps the lock with the one inside what it guards. -/
theorem guards_receiveStep {accepts : Bool} (guarded : Guards channel.lock channel.Inside)
    (present : channel.receivers receiver = some known)
    (goesOn : known.goesOn channel.lock.isNone = true)
    : Guards (channel.receiveStep receiver accepts).lock
        (channel.receiveStep receiver accepts).Inside := by
  unfold receiveStep
  simp only [present]
  have others (other : Party Thread ReceiverId) (apart : other ≠ .receiver receiver)
      : (channel.receiverAt receiver
          (some (known.step channel.slot channel.state accepts))).Inside other
        ↔ channel.Inside other :=
    inside_receiverAt_of_ne apart
  have after
      : (channel.receiverAt receiver
          (some (known.step channel.slot channel.state accepts))).Inside (.receiver receiver)
        ↔ known.phase.entersLock = true := by
    simp only [inside_receiverAt, Option.mem_some_iff, exists_eq_left', known.step_holdsLock]
  have stays (same : known.phase.entersLock = known.phase.holdsLock)
      : Guards channel.lock
          (channel.receiverAt receiver
            (some (known.step channel.slot channel.state accepts))).Inside := by
    refine guarded.keeps (fun other => ?_)
    by_cases here : other = .receiver receiver
    · rw [here, after, inside_receiver present, same]
    · exact others other here
  cases phase : known.phase with
  | idle => exact stays (by rw [phase]; rfl)
  | locking reading =>
      unfold Receiver.goesOn at goesOn
      rw [phase] at goesOn
      have unlocked : channel.lock = none := Option.isNone_iff_eq_none.mp goesOn
      exact (unlocked ▸ guarded).takes (after.mpr (by rw [phase]; rfl)) others
  | loading reading => exact stays (by rw [phase]; rfl)
  | cloning reading => exact stays (by rw [phase]; rfl)
  | unlocking reading read =>
      have was := (inside_receiver present).mpr (by rw [phase]; rfl)
      refine guarded.gives was (fun inside => ?_) others
      have never := after.mp inside
      rw [phase] at never
      cases never
  | testing rejected read => exact stays (by rw [phase]; rfl)
  | checking waiting => exact stays (by rw [phase]; rfl)
  | listening waiting => exact stays (by rw [phase]; rfl)

end Receivers

section Events

variable [DecidableEq Thread] [DecidableEq ReceiverId] {after : Channel Thread ReceiverId Value}

/-- Every event keeps the lock with the one inside what it guards. -/
theorem guards_next {event : Event Thread ReceiverId Value}
    (guarded : Guards channel.lock channel.Inside)
    (step : (machine Thread ReceiverId Value).Step channel event after)
    : Guards after.lock after.Inside := by
  have enabled := step.enabled
  cases step.next
  have outside {receiver : ReceiverId} {known : Receiver Value}
      {now : Option (Receiver Value)} (present : channel.receivers receiver = some known)
      (was : known.phase.holdsLock = false)
      (stays : ∀ later ∈ now, later.phase.holdsLock = false)
      : Guards channel.lock (channel.receiverAt receiver now).Inside := by
    refine guards_receiverAt guarded (iff_of_false ?_ ?_)
    · rintro ⟨later, present, inside⟩
      cases (stays later present).symm.trans inside
    · rw [inside_receiver present, was]
      exact Bool.false_ne_true
  have fresh {receiver : ReceiverId} {seen : Nat} (absent : channel.receivers receiver = none)
      : Guards channel.lock (channel.receiverAt receiver (some (.new seen))).Inside := by
    refine guards_receiverAt guarded (iff_of_false ?_ ?_)
    · rintro ⟨_, ⟨⟩, never⟩
      cases never
    · rintro ⟨known, present, _⟩
      cases absent.symm.trans present
  cases event with
  | sendReplace thread value => exact guards_sendingAt guarded (by rw [enabled.2]; rfl)
  | senderBorrow thread => exact guards_sendingAt guarded (by rw [enabled.2]; rfl)
  | subscribe receiver => exact fresh enabled.2
  | dropSender thread => exact guards_sendingAt guarded (by rw [enabled.2 thread]; rfl)
  | sendStep thread => exact guards_sendStep guarded enabled
  | call receiver call =>
      obtain ⟨known, present, idle, _⟩ := enabled
      refine outside present (by rw [idle]; rfl) ?_
      rw [Option.mem_def.mp present]
      rintro _ ⟨⟩
      exact known.call_outside idle _ call
  | receiveStep receiver accepts =>
      obtain ⟨known, present, goesOn⟩ := enabled
      exact guards_receiveStep guarded present goesOn
  | clone source target =>
      obtain ⟨⟨known, present, _⟩, absent⟩ := enabled
      change Guards channel.lock (channel.receiverAt target _).Inside
      rw [Option.mem_def.mp present]
      exact fresh absent
  | cancel receiver =>
      obtain ⟨known, present, cancellable⟩ := enabled
      refine outside present ?_ ?_
      · unfold Receiver.cancellable at cancellable
        cases phase : known.phase <;> rw [phase] at cancellable <;>
          first | rfl | cases cancellable
      · rw [Option.mem_def.mp present]
        rintro _ ⟨⟩
        rfl
  | dropReceiver receiver =>
      obtain ⟨known, present, idle⟩ := enabled
      exact outside present (by rw [idle]; rfl) (fun _ never => by cases never)
  | passOn receiver =>
      obtain ⟨known, present⟩ := Option.isSome_iff_exists.mp enabled
      refine guards_receiverAt guarded ?_
      rw [inside_receiver present, present]
      simp only [Option.map_some, Option.mem_some_iff, exists_eq_left']
      rfl

/-- In every reachable state the lock is with the one inside what it guards. -/
theorem guards_reachable (reached : (machine Thread ReceiverId Value).Reachable channel)
    : Guards channel.lock channel.Inside := by
  refine reached.invariant ?_ (fun _ _ _ _ guarded step => guards_next guarded step)
  rintro _ ⟨initial, receiver, rfl⟩ party
  refine iff_of_false (fun never => by cases never) (fun inside => ?_)
  cases party with
  | thread thread => cases inside
  | receiver other =>
      obtain ⟨known, present, inside⟩ := inside
      cases receivers_channel present
      cases inside

end Events

end Channel

end BoltLoad.Watch
