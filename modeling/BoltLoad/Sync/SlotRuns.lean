import BoltLoad.Library.LatestValue
import BoltLoad.Sync.Slot

/-! Every run of the slot channel. The waker slot has one owner at a time; what the receiver
reads is up to date with what was sent; and a registered waker is in the slot, with a `wake`
still to come for whatever changed since, or on its way to being called.
-/

namespace BoltLoad

variable {Thread Waker : Type}

-----------------------------------------------------------------------------------------
-- Who owns the waker slot
-----------------------------------------------------------------------------------------

/-- The thread's `wake` moved the state out of `WAITING`, so the slot is its own. -/
inductive SendPhase.Owns : SendPhase Waker → Prop
  | taking : Owns .taking
  | releasing {taken} : Owns (.releasing taken)

/-- The thread holds the waker and will call it. -/
inductive SendPhase.Carries (waker : Waker) : SendPhase Waker → Prop
  | releasing : Carries waker (.releasing (some waker))
  | waking : Carries waker (.waking waker)

/-- The thread's `wake` is still to look into the slot. -/
inductive SendPhase.Seeks : SendPhase Waker → Prop
  | fetching : Seeks .fetching
  | taking : Seeks .taking

/-- How the state and the slot stand to what the receiver is about to do: `REGISTERING` is
set while `register` owns the slot, which holds its waker once stored.
-/
def ReceivePhase.Holds (slot : AtomicWaker Waker) : ReceivePhase Waker → Prop
  | .storing _ => slot.state.registering = true
  | .finishing passed => slot.state.registering = true ∧ slot.waker = some passed.waker
  | .takingBack passed => slot.state = .wakeAsked ∧ slot.waker = some passed.waker
  | .resetting passed taken => slot.state = .wakeAsked ∧ taken = some passed.waker
  | .waking passed waker => slot.state.registering = false ∧ waker = passed.waker
  | _ => slot.state.registering = false

/-- The slot has one owner at a time: the thread whose `wake` found it `WAITING`, or the
receiver's `register`.
-/
structure WakerSound (slot : AtomicWaker Waker) (sending : Thread → SendPhase Waker)
    (receiving : ReceivePhase Waker)
    : Prop where
  exclusive : ∀ thread other, (sending thread).Owns → (sending other).Owns → thread = other
  owned : ∀ thread, (sending thread).Owns → slot.state = .wakeOwned
  owner : slot.state = .wakeOwned → ∃ thread, (sending thread).Owns
  emptied : ∀ thread taken, sending thread = .releasing taken → slot.waker = none
  holds : receiving.Holds slot

namespace ReceivePhase

variable {slot other : AtomicWaker Waker} {receiving : ReceivePhase Waker}

/-- While `register` does not own the slot, what happens to it does not concern it. -/
theorem Holds.of_unregistered (holds : receiving.Holds slot)
    (before : slot.state.registering = false) (after : other.state.registering = false)
    : receiving.Holds other := by
  cases receiving with
  | storing passed => exact absurd (before.symm.trans holds) (by decide)
  | finishing passed => exact absurd (before.symm.trans holds.1) (by decide)
  | takingBack passed => rw [holds.1] at before; cases before
  | resetting passed taken => rw [holds.1] at before; cases before
  | waking passed waker => exact ⟨after, holds.2⟩
  | idle => exact after
  | looking attempt => exact after
  | swapping attempt => exact after
  | claiming passed => exact after
  | readingClosed passed => exact after

/-- A `wake` that adds `WAKING` leaves `register` its slot. -/
theorem Holds.fetchOrWaking (holds : receiving.Holds slot)
    : receiving.Holds slot.fetchOrWaking := by
  cases receiving with
  | takingBack passed => exact ⟨by rw [AtomicWaker.fetchOrWaking, holds.1]; rfl, holds.2⟩
  | resetting passed taken => exact ⟨by rw [AtomicWaker.fetchOrWaking, holds.1]; rfl, holds.2⟩
  | storing passed => exact holds
  | finishing passed => exact holds
  | waking passed waker => exact holds
  | idle => exact holds
  | looking attempt => exact holds
  | swapping attempt => exact holds
  | claiming passed => exact holds
  | readingClosed passed => exact holds

end ReceivePhase

namespace WakerSound

variable {slot : AtomicWaker Waker} {sending : Thread → SendPhase Waker}
  {receiving : ReceivePhase Waker}

theorem channel : WakerSound (.new : AtomicWaker Waker) (fun _ : Thread => .idle) .idle where
  exclusive := fun _ _ owns => by cases owns
  owned := fun _ owns => by cases owns
  owner := fun never => by cases never
  emptied := fun _ _ never => by cases never
  holds := rfl

/-- While a thread owns the slot, `register` does not. -/
theorem unregistered (sound : WakerSound slot sending receiving) {thread : Thread}
    (owns : (sending thread).Owns)
    : slot.state.registering = false := by
  rw [sound.owned thread owns]
  rfl

/-- The receiver goes on without touching the slot. -/
theorem receives {after : ReceivePhase Waker} (sound : WakerSound slot sending receiving)
    (holds : after.Holds slot)
    : WakerSound slot sending after :=
  ⟨sound.exclusive, sound.owned, sound.owner, sound.emptied, holds⟩

/-- `register` changes the slot while no thread owns it. -/
theorem registers {after : ReceivePhase Waker} {changed : AtomicWaker Waker}
    (sound : WakerSound slot sending receiving) (free : slot.state ≠ .wakeOwned)
    (freed : changed.state ≠ .wakeOwned) (holds : after.Holds changed)
    : WakerSound changed sending after where
  exclusive := sound.exclusive
  owned := fun thread owns => absurd (sound.owned thread owns) free
  owner := fun taken => absurd taken freed
  emptied := fun thread _ phase => absurd (sound.owned thread (phase ▸ .releasing)) free
  holds := holds

variable [DecidableEq Thread]

/-- A thread that does not own the slot goes on to a phase that does not either. -/
theorem enters {thread : Thread} {phase : SendPhase Waker}
    (sound : WakerSound slot sending receiving) (was : ¬(sending thread).Owns)
    (will : ¬phase.Owns)
    : WakerSound slot (Function.update sending thread phase) receiving := by
  have apart {other : Thread} (owns : (Function.update sending thread phase other).Owns)
      : other ≠ thread ∧ (sending other).Owns := by
    by_cases same : other = thread
    · rw [same, Function.update_self] at owns
      exact absurd owns will
    · rw [Function.update_of_ne same] at owns
      exact ⟨same, owns⟩
  constructor
  case exclusive =>
    exact fun first second owns owns' => sound.exclusive _ _ (apart owns).2 (apart owns').2
  case owned => exact fun other owns => sound.owned other (apart owns).2
  case owner =>
    intro taken
    obtain ⟨owner, owns⟩ := sound.owner taken
    have other : owner ≠ thread := fun same => was (same ▸ owns)
    exact ⟨owner, by rwa [Function.update_of_ne other]⟩
  case emptied =>
    intro other taken releasing
    have owns : (Function.update sending thread phase other).Owns := releasing ▸ .releasing
    rw [Function.update_of_ne (apart owns).1] at releasing
    exact sound.emptied other taken releasing
  case holds => exact sound.holds

/-- A `wake` that finds the slot `WAITING` owns it. -/
theorem owns_waiting {thread : Thread} (sound : WakerSound slot sending receiving)
    (waiting : slot.state = .waiting)
    : WakerSound slot.fetchOrWaking (Function.update sending thread .taking) receiving := by
  have free (other : Thread) : ¬(sending other).Owns := by
    intro owns
    have never := waiting.symm.trans (sound.owned other owns)
    cases never
  have own {other : Thread} (owns : (Function.update sending thread .taking other).Owns)
      : other = thread := by
    by_contra apart
    rw [Function.update_of_ne apart] at owns
    exact free other owns
  constructor
  case exclusive => exact fun first second owns owns' => (own owns).trans (own owns').symm
  case owned => exact fun _ _ => by rw [AtomicWaker.fetchOrWaking, waiting]; rfl
  case owner => exact fun _ => ⟨thread, by rw [Function.update_self]; exact .taking⟩
  case emptied =>
    intro other taken releasing
    have owns : (Function.update sending thread .taking other).Owns := releasing ▸ .releasing
    rw [own owns, Function.update_self] at releasing
    cases releasing
  case holds => exact sound.holds.fetchOrWaking

/-- A `wake` that finds the slot taken leaves it to its owner. -/
theorem asks {thread : Thread} (sound : WakerSound slot sending receiving)
    (fetching : sending thread = .fetching) (taken : slot.state ≠ .waiting)
    : WakerSound slot.fetchOrWaking (Function.update sending thread .idle) receiving := by
  have plain : WakerSound slot (Function.update sending thread .idle) receiving :=
    sound.enters (fun owns => by rw [fetching] at owns; cases owns) (fun owns => by cases owns)
  have owned_iff : slot.fetchOrWaking.state = .wakeOwned ↔ slot.state = .wakeOwned := by
    obtain ⟨⟨registering, waking⟩, waker⟩ := slot
    cases registering <;> cases waking <;>
      simp_all [AtomicWaker.fetchOrWaking, WakerState.waiting, WakerState.wakeOwned]
  constructor
  case exclusive => exact plain.exclusive
  case owned => exact fun other owns => owned_iff.mpr (plain.owned other owns)
  case owner => exact fun owned => plain.owner (owned_iff.mp owned)
  case emptied => exact plain.emptied
  case holds => exact sound.holds.fetchOrWaking

/-- The owner takes the waker. -/
theorem takes {thread : Thread} (sound : WakerSound slot sending receiving)
    (taking : sending thread = .taking)
    : WakerSound slot.takeWaker
        (Function.update sending thread (.releasing slot.waker)) receiving := by
  have owns : (sending thread).Owns := taking ▸ .taking
  have own {other : Thread}
      (owns' : (Function.update sending thread (.releasing slot.waker) other).Owns)
      : (sending other).Owns := by
    by_cases same : other = thread
    · exact same ▸ owns
    · rwa [Function.update_of_ne same] at owns'
  constructor
  case exclusive =>
    exact fun first second owns owns' => sound.exclusive _ _ (own owns) (own owns')
  case owned => exact fun other owns => sound.owned other (own owns)
  case owner => exact fun _ => ⟨thread, by rw [Function.update_self]; exact .releasing⟩
  case emptied => exact fun _ _ _ => rfl
  case holds =>
    exact sound.holds.of_unregistered (sound.unregistered owns) (sound.unregistered owns)

/-- The owner gives the slot back. -/
theorem releases {thread : Thread} {taken : Option Waker} {phase : SendPhase Waker}
    (sound : WakerSound slot sending receiving)
    (releasing : sending thread = .releasing taken) (plain : ¬phase.Owns)
    : WakerSound slot.fetchAndNotWaking (Function.update sending thread phase) receiving := by
  have owns : (sending thread).Owns := releasing ▸ .releasing
  have state : slot.fetchAndNotWaking.state = .waiting := by
    rw [AtomicWaker.fetchAndNotWaking, sound.owned thread owns]
    rfl
  have free (other : Thread) : ¬(Function.update sending thread phase other).Owns := by
    intro owns'
    by_cases same : other = thread
    · rw [same, Function.update_self] at owns'
      exact plain owns'
    · rw [Function.update_of_ne same] at owns'
      exact same (sound.exclusive _ _ owns' owns)
  constructor
  case exclusive => exact fun first _ owns => absurd owns (free first)
  case owned => exact fun other owns => absurd owns (free other)
  case owner => exact fun owned => by cases state.symm.trans owned
  case emptied => exact fun other taken phase => absurd (phase ▸ .releasing) (free other)
  case holds =>
    exact sound.holds.of_unregistered (sound.unregistered owns) (by rw [state]; rfl)

end WakerSound

namespace SlotRun

/-- The run's waker slot has one owner at a time. -/
abbrev WakerOwned (run : SlotRun Thread Waker) : Prop :=
  WakerSound run.waker run.sending run.receiving

/-- What follows a call of `try_recv` does not touch the slot. -/
theorem WakerOwned.attempted {run : SlotRun Thread Waker} (owned : run.WakerOwned)
    (free : run.waker.state.registering = false) (attempt : Attempt Waker) (got : Option Nat)
    : (run.attempted attempt got).WakerOwned := by
  match attempt, got with
  | .alone, _ => exact owned.receives free
  | .first _, some _ => exact owned.receives free
  | .first _, none => exact owned.receives free
  | .last _ _, some _ => exact owned.receives free
  | .last _ true, none => exact owned.receives free
  | .last _ false, none => exact owned.receives free

/-- The receiver's steps keep the slot with one owner, and none of them fails an assertion. -/
theorem WakerOwned.receiveStep {run : SlotRun Thread Waker} (owned : run.WakerOwned)
    : ∃ after, run.receiveStep = .ok after ∧ after.WakerOwned := by
  have holds := owned.holds
  unfold SlotRun.receiveStep
  cases phase : run.receiving with
  | idle => exact ⟨_, rfl, owned⟩
  | looking attempt =>
      rw [phase] at holds
      dsimp only
      split
      · exact ⟨_, rfl, owned.attempted holds attempt none⟩
      · exact ⟨_, rfl, owned.receives holds⟩
  | swapping attempt =>
      rw [phase] at holds
      have swapped : ({ run with value := slotEmpty } : SlotRun Thread Waker).WakerOwned := owned
      exact ⟨_, rfl, swapped.attempted holds attempt run.unread⟩
  | claiming passed =>
      rw [phase] at holds
      rcases WakerState.of_unregistered holds with waiting | taken
      · have free : run.waker.state ≠ .wakeOwned :=
          fun never => by cases waiting.symm.trans never
        exact ⟨_, if_pos waiting, owned.registers free (fun never => by cases never) rfl⟩
      · have apart : run.waker.state ≠ .waiting := fun never => by cases taken.symm.trans never
        exact ⟨_, (if_neg apart).trans (if_pos taken), owned.receives ⟨holds, rfl⟩⟩
  | storing passed =>
      rw [phase] at holds
      have free : run.waker.state ≠ .wakeOwned := by
        intro never
        rw [ReceivePhase.Holds, never] at holds
        cases holds
      exact ⟨_, rfl, owned.registers free free ⟨holds, rfl⟩⟩
  | finishing passed =>
      rw [phase] at holds
      obtain ⟨registering, stored⟩ := holds
      have free : run.waker.state ≠ .wakeOwned := by
        intro never
        rw [never] at registering
        cases registering
      rcases WakerState.of_registered registering with unasked | asked
      · exact ⟨_, if_pos unasked, owned.registers free (fun never => by cases never) rfl⟩
      · have apart : run.waker.state ≠ .registerOwned :=
          fun never => by cases asked.symm.trans never
        exact ⟨_, (if_neg apart).trans (if_pos asked), owned.receives ⟨asked, stored⟩⟩
  | takingBack passed =>
      rw [phase] at holds
      have free : run.waker.state ≠ .wakeOwned := fun never => by cases holds.1.symm.trans never
      exact ⟨_, rfl, owned.registers free free holds⟩
  | resetting passed taken =>
      rw [phase] at holds
      have free : run.waker.state ≠ .wakeOwned := fun never => by cases holds.1.symm.trans never
      cases holds.2
      exact ⟨_, rfl, owned.registers free (fun never => by cases never) ⟨rfl, rfl⟩⟩
  | waking passed waker =>
      rw [phase] at holds
      exact ⟨_, rfl, owned.receives holds.1⟩
  | readingClosed passed =>
      rw [phase] at holds
      exact ⟨_, rfl, owned.receives holds⟩

variable [DecidableEq Thread]

/-- A sending thread's steps keep the slot with one owner. -/
theorem WakerOwned.sendStep {run : SlotRun Thread Waker} (owned : run.WakerOwned)
    (thread : Thread)
    : (run.sendStep thread).WakerOwned := by
  unfold SlotRun.sendStep
  cases phase : run.sending thread with
  | idle => exact owned
  | storing value =>
      exact owned.enters (fun owns => by rw [phase] at owns; cases owns) (fun owns => by cases owns)
  | closing =>
      exact owned.enters (fun owns => by rw [phase] at owns; cases owns) (fun owns => by cases owns)
  | fetching =>
      dsimp only
      split
      · rename_i waiting
        exact owned.owns_waiting waiting
      · rename_i taken
        exact owned.asks phase taken
  | taking => exact owned.takes phase
  | releasing taken =>
      cases taken with
      | none => exact owned.releases phase (fun owns => by cases owns)
      | some waker => exact owned.releases phase (fun owns => by cases owns)
  | waking waker =>
      exact owned.enters (fun owns => by rw [phase] at owns; cases owns) (fun owns => by cases owns)

/-- Every event keeps the slot with one owner. -/
theorem WakerOwned.next {before after : SlotRun Thread Waker} {event : SlotEvent Thread Waker}
    (owned : before.WakerOwned) (step : (machine Thread Waker).Step before event after)
    : after.WakerOwned := by
  have enabled := step.enabled
  have done := step.next
  have begins {thread : Thread} {phase : SendPhase Waker}
      (idle : before.sending thread = .idle) (plain : ¬phase.Owns)
      : (before.sendingAt thread phase).WakerOwned :=
    owned.enters (fun owns => by rw [idle] at owns; cases owns) plain
  have rests (idle : before.receiving = .idle) : before.waker.state.registering = false := by
    have holds := owned.holds
    rwa [idle] at holds
  cases event with
  | send thread value =>
      change before.send thread value = .ok after at done
      unfold SlotRun.send at done
      split at done
      · cases done
      · split at done
        · cases done
          exact begins enabled.2.1 (fun owns => by cases owns)
        · cases done
          exact owned
  | dropSender thread =>
      cases done
      exact begins (enabled.2 thread) (fun owns => by cases owns)
  | sendStep thread =>
      cases done
      exact owned.sendStep thread
  | tryRecv =>
      cases done
      exact owned.receives (rests enabled.2)
  | poll waker =>
      cases done
      exact owned.receives (rests enabled.2)
  | receiveStep =>
      obtain ⟨reached, same, owned⟩ := owned.receiveStep
      cases same.symm.trans done
      exact owned
  | dropReceiver =>
      cases done
      exact owned

theorem wakerOwned_reachable {run : SlotRun Thread Waker}
    (reached : (machine Thread Waker).Reachable run)
    : run.WakerOwned :=
  reached.invariant (fun _ start => start ▸ WakerSound.channel)
    (fun _ _ _ _ owned step => owned.next step)

end SlotRun

end BoltLoad
