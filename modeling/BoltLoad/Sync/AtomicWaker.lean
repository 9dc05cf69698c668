import Mathlib

/-! The waker slot of `atomic_waker`: its atomic state, the waker it holds, and the accesses
`register` and `wake` make to them, one definition for each atomic step.
-/

namespace BoltLoad

/-- The bits of `AtomicWaker::state`. -/
structure WakerState where
  registering : Bool
  waking : Bool
  deriving DecidableEq, Repr

namespace WakerState

/-- `WAITING`: nobody touches the waker. -/
def waiting : WakerState := ⟨false, false⟩

/-- `REGISTERING`: `register` owns the waker. -/
def registerOwned : WakerState := ⟨true, false⟩

/-- `WAKING`: `wake` owns the waker. -/
def wakeOwned : WakerState := ⟨false, true⟩

/-- `REGISTERING | WAKING`: `wake` asked a concurrent `register` to wake the waker. -/
def wakeAsked : WakerState := ⟨true, true⟩

theorem of_unregistered {state : WakerState} (unregistered : state.registering = false)
    : state = waiting ∨ state = wakeOwned := by
  obtain ⟨registering, waking⟩ := state
  cases unregistered
  cases waking
  · exact .inl rfl
  · exact .inr rfl

theorem of_registered {state : WakerState} (registered : state.registering = true)
    : state = registerOwned ∨ state = wakeAsked := by
  obtain ⟨registering, waking⟩ := state
  cases registered
  cases waking
  · exact .inl rfl
  · exact .inr rfl

end WakerState

/-- `AtomicWaker`. A `Waker` stands for the task its `wake` wakes: `will_wake` spares the
clone of a waker of the same task, and leaves one of that task in the slot either way.
-/
structure AtomicWaker (Waker : Type) where
  state : WakerState
  waker : Option Waker

namespace AtomicWaker

variable {Waker : Type}

/-- `AtomicWaker::new`. -/
def new : AtomicWaker Waker := ⟨.waiting, none⟩

/-- `state.fetch_or(WAKING)`. -/
def fetchOrWaking (slot : AtomicWaker Waker) : AtomicWaker Waker :=
  { slot with state := { slot.state with waking := true } }

/-- `state.fetch_and(!WAKING)`. -/
def fetchAndNotWaking (slot : AtomicWaker Waker) : AtomicWaker Waker :=
  { slot with state := { slot.state with waking := false } }

/-- The waker slot's `take`. -/
def takeWaker (slot : AtomicWaker Waker) : AtomicWaker Waker :=
  { slot with waker := none }

/-- `register` storing its waker in the slot. -/
def storeWaker (slot : AtomicWaker Waker) (waker : Waker) : AtomicWaker Waker :=
  { slot with waker := some waker }

/-- Storing a state, by a successful `compare_exchange` or by `swap`. -/
def enter (slot : AtomicWaker Waker) (state : WakerState) : AtomicWaker Waker :=
  { slot with state }

end AtomicWaker

end BoltLoad
