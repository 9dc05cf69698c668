import Mathlib

/-! Machines whose events may be refused in a state and whose steps may fault.
Invariants are stated of every reachable state and proved one step at a time; a machine is
restricted to the events meeting a condition, executed on a list of events, and simulated
by a more abstract one.
-/

universe u v w

/-- A machine over `State`: where it starts, which events a state admits, and the state
an event leads to, or the fault it ends the run with.
-/
structure Machine (State : Type u) (Event : Type v) (Fault : Type w) where
  Initial : State → Prop
  Enabled : State → Event → Prop
  next : State → Event → Except Fault State

namespace Machine

variable {State : Type u} {Event : Type v} {Fault : Type w}

/-- An admitted event whose step does not fault. -/
structure Step (machine : Machine State Event Fault) (before : State) (event : Event)
    (after : State)
    : Prop where
  enabled : machine.Enabled before event
  next : machine.next before event = .ok after

/-- The states a machine reaches from an initial one by steps that do not fault. -/
inductive Reachable (machine : Machine State Event Fault) : State → Prop
  | initial {state} (start : machine.Initial state) : Reachable machine state
  | step {before event after} (reached : Reachable machine before)
    (step : machine.Step before event after)
    : Reachable machine after

/-- What holds initially and is preserved by the steps of reachable states holds of every
reachable state, by induction on the run.
-/
theorem Reachable.invariant {machine : Machine State Event Fault} {holds : State → Prop}
    (initial : ∀ state, machine.Initial state → holds state)
    (preserved
      : ∀ before event after,
          machine.Reachable before
          → holds before
          → machine.Step before event after
          → holds after)
    {state : State} (reached : machine.Reachable state)
    : holds state := by
  induction reached with
  | initial start => exact initial _ start
  | step reached step ih => exact preserved _ _ _ reached ih step

/-- The same machine, admitting only the events that also meet `condition`. -/
def restrict (machine : Machine State Event Fault) (condition : State → Event → Prop)
    : Machine State Event Fault where
  Initial := machine.Initial
  Enabled before event := machine.Enabled before event ∧ condition before event
  next := machine.next

instance {machine : Machine State Event Fault} {condition : State → Event → Prop}
    [∀ state event, Decidable (machine.Enabled state event)]
    [∀ state event, Decidable (condition state event)] (state : State) (event : Event)
    : Decidable ((machine.restrict condition).Enabled state event) :=
  inferInstanceAs (Decidable (_ ∧ _))

/-- A step of a restricted machine is a step of the machine itself. -/
theorem Step.of_restrict {machine : Machine State Event Fault}
    {condition : State → Event → Prop} {before : State} {event : Event} {after : State}
    (step : (machine.restrict condition).Step before event after)
    : machine.Step before event after :=
  ⟨step.enabled.1, step.next⟩

/-- A restricted machine reaches no new state, by induction on its run. -/
theorem Reachable.of_restrict {machine : Machine State Event Fault}
    {condition : State → Event → Prop} {state : State}
    (reached : (machine.restrict condition).Reachable state)
    : machine.Reachable state :=
  reached.invariant (fun _ start => .initial start)
    (fun _ _ _ _ ih step => .step ih step.of_restrict)

/-- What a stronger condition admits, a weaker one admits too, by induction on the run. -/
theorem Reachable.restrict_mono {machine : Machine State Event Fault}
    {strong weak : State → Event → Prop}
    (weaker : ∀ state event, strong state event → weak state event)
    {state : State} (reached : (machine.restrict strong).Reachable state)
    : (machine.restrict weak).Reachable state :=
  reached.invariant (fun _ start => .initial start)
    (fun before event _ _ ih step =>
      .step ih ⟨⟨step.enabled.1, weaker before event step.enabled.2⟩, step.next⟩)

/-- The same machine, started in one state. -/
def startingAt (machine : Machine State Event Fault) (start : State)
    : Machine State Event Fault :=
  { machine with Initial := (· = start) }

instance {machine : Machine State Event Fault} {start : State}
    [∀ state event, Decidable (machine.Enabled state event)] (state : State) (event : Event)
    : Decidable ((machine.startingAt start).Enabled state event) :=
  inferInstanceAs (Decidable (machine.Enabled state event))

/-- What is reached from a reachable state is reachable, by induction on the run. -/
theorem Reachable.of_startingAt {machine : Machine State Event Fault} {start state : State}
    (started : machine.Reachable start) (reached : (machine.startingAt start).Reachable state)
    : machine.Reachable state :=
  reached.invariant (fun _ same => same ▸ started)
    (fun _ _ _ _ ih step => .step ih ⟨step.enabled, step.next⟩)

/-- Where every reachable state is done or has a step to a lower rank, a run from each of them
can go on until it is done, by induction on the rank.
-/
theorem Reachable.leads {machine : Machine State Event Fault} {done : State → Prop}
    (rank : State → Nat)
    (progress
      : ∀ state,
          machine.Reachable state
          → done state ∨ ∃ event after, machine.Step state event after ∧ rank after < rank state)
    {state : State} (reached : machine.Reachable state)
    : ∃ later, (machine.startingAt state).Reachable later ∧ done later := by
  induction same : rank state using Nat.strong_induction_on generalizing state with
  | _ count ih =>
      rcases progress state reached with finished | ⟨event, after, step, lower⟩
      · exact ⟨state, .initial rfl, finished⟩
      · obtain ⟨later, goesOn, finished⟩ := ih (rank after) (same ▸ lower) (reached.step step) rfl
        refine ⟨later, ?_, finished⟩
        have begins : (machine.startingAt state).Reachable after :=
          .step (.initial rfl) ⟨step.enabled, step.next⟩
        exact goesOn.invariant (fun _ same => same ▸ begins)
          (fun _ _ _ _ earlier step => .step earlier ⟨step.enabled, step.next⟩)

/-- Run a list of events, stopping with `none` at one that is refused or faults. -/
def execute (machine : Machine State Event Fault)
    [∀ state event, Decidable (machine.Enabled state event)]
    : State → List Event → Option State
  | state, [] => some state
  | state, event :: rest =>
      if machine.Enabled state event then
        match machine.next state event with
        | .ok after => execute machine after rest
        | .error _ => none
      else
        none

/-- Executing events from a reachable state only reaches reachable states, by induction on
the events.
-/
theorem Reachable.execute {machine : Machine State Event Fault}
    [∀ state event, Decidable (machine.Enabled state event)]
    {before after : State} (reached : machine.Reachable before) (events : List Event)
    (done : machine.execute before events = some after)
    : machine.Reachable after := by
  induction events generalizing before with
  | nil => exact Option.some.inj done ▸ reached
  | cons event rest ih =>
      simp only [Machine.execute] at done
      split at done
      · rename_i enabled
        split at done
        · rename_i middle next
          exact ih (reached.step ⟨enabled, next⟩) done
        · cases done
      · cases done

/-- Executing two event lists in turn is executing their concatenation. -/
theorem execute_append (machine : Machine State Event Fault)
    [∀ state event, Decidable (machine.Enabled state event)]
    (before : State) (first second : List Event)
    : machine.execute before (first ++ second)
      = (machine.execute before first).bind (fun middle => machine.execute middle second) := by
  induction first generalizing before with
  | nil => rfl
  | cons event rest ih =>
      simp only [List.cons_append, Machine.execute]
      split
      · split
        · exact ih _
        · rfl
      · rfl

/-- Executing one more event is a step of the machine. -/
theorem execute_concat (machine : Machine State Event Fault)
    [∀ state event, Decidable (machine.Enabled state event)]
    {before after : State} {events : List Event} {event : Event}
    : machine.execute before (events ++ [event]) = some after
      ↔ ∃ middle, machine.execute before events = some middle ∧ machine.Step middle event after
    := by
  rw [machine.execute_append, Option.bind_eq_some_iff]
  refine exists_congr (fun middle => and_congr_right (fun _ => ?_))
  simp only [Machine.execute]
  constructor
  · intro executed
    split at executed
    · rename_i enabled
      split at executed
      · rename_i last next
        cases executed
        exact ⟨enabled, next⟩
      · cases executed
    · cases executed
  · intro step
    rw [if_pos step.enabled, step.next]

section Simulation

variable {Abstract : Type u} {AbstractEvent : Type v} {AbstractFault : Type w}

/-- `image` maps every concrete run to an abstract one: initial states to initial states,
and each step of a reachable state to an abstract step or to no change at all.
-/
structure Simulation (concrete : Machine State Event Fault)
    (abstract : Machine Abstract AbstractEvent AbstractFault) (image : State → Abstract)
    : Prop where
  initial : ∀ state, concrete.Initial state → abstract.Initial (image state)
  step
    : ∀ before event after,
        concrete.Reachable before
        → concrete.Step before event after
        → image after = image before
          ∨ ∃ abstractEvent, abstract.Step (image before) abstractEvent (image after)

/-- Every reachable concrete state maps to a reachable abstract one, by induction on the
concrete run.
-/
theorem Simulation.reachable {concrete : Machine State Event Fault}
    {abstract : Machine Abstract AbstractEvent AbstractFault} {image : State → Abstract}
    (simulation : Simulation concrete abstract image)
    {state : State} (reached : concrete.Reachable state)
    : abstract.Reachable (image state) := by
  induction reached with
  | initial start => exact .initial (simulation.initial _ start)
  | @step before event after reached step ih =>
      rcases simulation.step before event after reached step with same | ⟨event, step⟩
      · exact same ▸ ih
      · exact ih.step step

end Simulation

end Machine
