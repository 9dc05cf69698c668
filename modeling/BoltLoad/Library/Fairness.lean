import BoltLoad.Library.Machine

/-! Endless runs of a machine and weak fairness: an action that can always be taken is taken
in the end. What a fair action is bound to bring about comes about, by itself or through a
rank its occurrences lower.
-/

universe u v w

namespace Machine

variable {State : Type u} {Event : Type v} {Fault : Type w}

/-- Events that each lower a rank are no more than the rank, by induction on them. -/
theorem execute_length_le (machine : Machine State Event Fault)
    [∀ state event, Decidable (machine.Enabled state event)] (rank : State → Nat)
    {events : List Event}
    (lowers
      : ∀ event ∈ events,
          ∀ before after, machine.Step before event after → rank after < rank before)
    {before after : State} (executed : machine.execute before events = some after)
    : events.length + rank after ≤ rank before := by
  induction events generalizing before with
  | nil =>
      cases executed
      exact (Nat.zero_add _).le
  | cons event rest ih =>
      simp only [Machine.execute] at executed
      split at executed
      · rename_i enabled
        split at executed
        · rename_i middle next
          have lower := lowers event List.mem_cons_self before middle ⟨enabled, next⟩
          have later := ih (fun other inside => lowers other (List.mem_cons_of_mem _ inside))
            executed
          rw [List.length_cons]
          omega
        · cases executed
      · cases executed

/-- A run that goes on for ever: its states, and the event that leads from each to the next. -/
structure Endless (machine : Machine State Event Fault) where
  states : Nat → State
  events : Nat → Event
  steps : ∀ time, machine.Step (states time) (events time) (states (time + 1))

namespace Endless

variable {machine : Machine State Event Fault}

/-- Some event of an action can happen in a state. -/
def Admits (machine : Machine State Event Fault) (action : State → Event → Prop)
    (state : State)
    : Prop :=
  ∃ event after, action state event ∧ machine.Step state event after

/-- Weak fairness: an action the run admits from some time on is taken after that time. -/
def Fair (run : machine.Endless) (action : State → Event → Prop) : Prop :=
  ∀ start,
    (∀ time, start ≤ time → Admits machine action (run.states time))
    → ∃ time, start ≤ time ∧ action (run.states time) (run.events time)

/-- A run from a reachable state stays among them, by induction on the time. -/
theorem reachable (run : machine.Endless) (reached : machine.Reachable (run.states 0))
    (time : Nat)
    : machine.Reachable (run.states time) := by
  induction time with
  | zero => exact reached
  | succ time ih => exact ih.step (run.steps time)

/-- What every step of the run keeps until `done` holds as long as `done` does not, by
induction on the time since.
-/
theorem kept_until {run : machine.Endless} {holds done : State → Prop}
    (kept
      : ∀ time,
          holds (run.states time)
          → holds (run.states (time + 1)) ∨ done (run.states (time + 1)))
    {start : Nat} (begins : holds (run.states start))
    (never : ∀ time, start ≤ time → ¬done (run.states time)) (time : Nat) (later : start ≤ time)
    : holds (run.states time) := by
  induction time, later using Nat.le_induction with
  | base => exact begins
  | succ time later ih =>
      exact (kept time ih).resolve_right (never (time + 1) (Nat.le_succ_of_le later))

/-- A state an action can always be taken from leads to what the action brings about, if
nothing else ends it.
-/
theorem Fair.leads {run : machine.Endless} {action : State → Event → Prop}
    (fair : run.Fair action) (holds done : State → Prop)
    (kept
      : ∀ time,
          holds (run.states time)
          → holds (run.states (time + 1)) ∨ done (run.states (time + 1)))
    (admits : ∀ time, holds (run.states time) → Admits machine action (run.states time))
    (brings
      : ∀ time,
          holds (run.states time)
          → action (run.states time) (run.events time)
          → done (run.states (time + 1)))
    {start : Nat} (begins : holds (run.states start))
    : ∃ time, start ≤ time ∧ done (run.states time) := by
  by_contra! never
  have always := kept_until kept begins never
  obtain ⟨time, later, taken⟩ := fair start (fun time later => admits time (always time later))
  exact never (time + 1) (Nat.le_succ_of_le later) (brings time (always time later) taken)

/-- A state in which an action lowers a rank that nothing else raises leads to where the
action has nothing left to lower, by induction on the rank.
-/
theorem Fair.leads_ranked {run : machine.Endless} {action : State → Event → Prop}
    (fair : run.Fair action) (holds done : State → Prop) (rank : State → Nat)
    (kept
      : ∀ time,
          holds (run.states time)
          → (holds (run.states (time + 1))
              ∧ rank (run.states (time + 1)) ≤ rank (run.states time))
            ∨ done (run.states (time + 1)))
    (admits : ∀ time, holds (run.states time) → Admits machine action (run.states time))
    (lowers
      : ∀ time,
          holds (run.states time)
          → action (run.states time) (run.events time)
          → rank (run.states (time + 1)) < rank (run.states time)
            ∨ done (run.states (time + 1)))
    {start : Nat} (begins : holds (run.states start))
    : ∃ time, start ≤ time ∧ done (run.states time) := by
  induction same : rank (run.states start) using Nat.strong_induction_on generalizing start with
  | _ bound ih =>
      have middle := fair.leads (fun state => holds state ∧ rank state = bound)
        (fun state => (holds state ∧ rank state < bound) ∨ done state)
        ?_ (fun time held => admits time held.1) ?_ ⟨begins, same⟩
      · obtain ⟨time, later, ⟨held, lower⟩ | finished⟩ := middle
        · obtain ⟨final, after, finished⟩ := ih (rank (run.states time)) lower held rfl
          exact ⟨final, later.trans after, finished⟩
        · exact ⟨time, later, finished⟩
      · rintro time ⟨held, level⟩
        rcases kept time held with ⟨still, lower⟩ | finished
        · rcases (level ▸ lower).lt_or_eq with less | equal
          · exact .inr (.inl ⟨still, less⟩)
          · exact .inl ⟨still, equal⟩
        · exact .inr (.inr finished)
      · rintro time ⟨held, level⟩ taken
        rcases lowers time held taken with less | finished
        · rcases kept time held with ⟨still, _⟩ | finished
          · exact .inl ⟨still, level ▸ less⟩
          · exact .inr finished
        · exact .inr finished

end Endless

end Machine
