import BoltLoad.Runner.Lifecycle

/-! What a turn does to the rest of a run, by its effect: which source each effect comes
from, and what it adds to the rings, the bytes read and the limits refused.
-/

namespace BoltLoad

namespace RunnerLoop

/-- What an effect says about the sources it was polled from. -/
def EffectFrom (sources : Sources) : Effect → Prop
  | .takeControl signal => sources.control = some (some signal)
  | .readStream item => sources.item = some (some (.ok item))
  | .pushData _ => sources.dataReady = some true
  | .pushLifecycle _ => sources.lifecycleReady = some true
  | .none => True

theorem controlEffect_from {sources : Sources} {event : Except TaskRunError ControlEvent}
    (polls : pollControl sources = some event)
    : EffectFrom sources (controlEffect event) := by
  unfold pollControl at polls
  obtain ⟨signal, found, same⟩ := Option.map_eq_some_iff.mp polls
  subst same
  cases signal with
  | none => trivial
  | some signal => exact found

theorem readEffect_from {sources : Sources} {item : Option (Except AdapterError Bytes)}
    (polls : sources.item = some item)
    : EffectFrom sources (readEffect item) := by
  unfold readEffect
  split
  · exact polls
  · trivial

theorem pollPush_from {loop : RunnerLoop} {state : StreamingState} {emission : Emission}
    {continuation : Continuation} {sources : Sources} {polled : Polled}
    (polls : loop.pollPush state emission continuation sources = .ok polled)
    : EffectFrom sources polled.effect := by
  unfold pollPush at polls
  split at polls
  · cases polls
    trivial
  · cases polls
    trivial
  · rename_i ready
    obtain ⟨frame, -, pushed⟩ := Checked.bind_eq_ok.mp polls
    cases pushed
    exact ready

theorem pollEmit_from {loop : RunnerLoop} {state : StreamingState} {emission : Emission}
    {continuation : Continuation} {sources : Sources} {polled : Polled}
    (polls : loop.pollEmit state emission continuation sources = .ok polled)
    : EffectFrom sources polled.effect := by
  unfold pollEmit at polls
  split at polls
  · cases polls
    trivial
  split at polls
  · cases polls
    trivial
  split at polls
  · rename_i event control
    split at control
    · cases polls
      exact controlEffect_from control
    · cases control
  · exact pollPush_from polls

/-- Every effect of a poll comes from a source that held it. -/
theorem pollStep_from {loop : RunnerLoop} {sources : Sources} {polled : Polled}
    (polls : loop.pollStep sources = .ok polled)
    : EffectFrom sources polled.effect := by
  unfold pollStep at polls
  split at polls
  · split at polls
    · cases polls
      trivial
    split at polls
    · rename_i control
      cases polls
      exact controlEffect_from control
    split at polls
    · cases polls
      trivial
    split at polls
    · cases polls
      trivial
    · cases polls
  · split at polls
    · cases polls
      trivial
    · rename_i ready
      cases polls
      exact ready
    · cases polls
      trivial
  · split at polls
    · exact pollEmit_from polls
    split at polls
    · cases polls
      trivial
    split at polls
    · rename_i control
      cases polls
      exact controlEffect_from control
    split at polls
    · cases polls
      trivial
    split at polls
    · split at polls
      · rename_i item found
        cases polls
        exact readEffect_from found
      · cases polls
        trivial
    · cases polls
  · cases polls
    trivial
  · split at polls
    · cases polls
      trivial
    · rename_i isOpen ready
      obtain ⟨event, -, published⟩ := Checked.bind_eq_ok.mp polls
      cases published
      cases isOpen with
      | true => exact ready
      | false => trivial
  · cases polls

end RunnerLoop

namespace RunnerRun

/-- What an effect pushes. -/
def pushedBy : Effect → List Pushed
  | .pushLifecycle event => [.lifecycle event]
  | .pushData frame => [.data frame]
  | _ => []

/-- What an effect reads. -/
def readBy : Effect → Bytes
  | .readStream item => item
  | _ => []

/-- Whether an effect takes a limit that fails to apply. -/
def refusedBy (total : Option Nat) : Effect → Bool
  | .takeControl signal => refuses total signal
  | _ => false

/-- What a turn with this effect leaves of everything outside the loop. -/
structure Applied (run after : RunnerRun) (effect : Effect) : Prop where
  history : after.history = run.history ++ pushedBy effect
  lifecycle : after.lifecycle = run.lifecycle ++ eventsOf (pushedBy effect)
  data : after.data = run.data ++ framesOf (pushedBy effect)
  lifecycleGone : after.lifecycleGone = run.lifecycleGone
  dataGone : after.dataGone = run.dataGone
  read : after.read = run.read ++ readBy effect
  refused : after.refused = (run.refused || refusedBy run.loop.runner.total effect)

variable {usizeSize : Nat} {run after : RunnerRun}

theorem apply_applied {effect : Effect} (applies : run.apply effect = .ok after)
    : run.Applied after effect ∧ after.driver = run.driver := by
  unfold apply at applies
  split at applies
  · cases applies
    refine ⟨⟨?_, ?_, ?_, rfl, rfl, ?_, ?_⟩, rfl⟩ <;>
      simp [pushedBy, readBy, refusedBy, eventsOf, framesOf]
  · cases applies
    refine ⟨⟨?_, ?_, ?_, rfl, rfl, ?_, rfl⟩, rfl⟩ <;>
      simp [pushedBy, readBy, eventsOf, framesOf]
  · cases applies
    refine ⟨⟨?_, ?_, ?_, rfl, rfl, rfl, ?_⟩, rfl⟩ <;>
      simp [pushedBy, refusedBy, eventsOf, framesOf]
  · split at applies
    · cases applies
      refine ⟨⟨rfl, rfl, ?_, rfl, rfl, ?_, ?_⟩, rfl⟩ <;>
        simp [pushedBy, readBy, refusedBy]
    · cases applies
  · split at applies
    · cases applies
      refine ⟨⟨rfl, ?_, rfl, rfl, rfl, ?_, ?_⟩, rfl⟩ <;>
        simp [pushedBy, readBy, refusedBy]
    · cases applies

/-- Handling the step a poll selected changes the loop only. -/
theorem turn_applied {sources : Sources} {polled : Polled}
    (polls : run.loop.pollStep sources = .ok polled)
    (turned : run.turn usizeSize sources = .ok after)
    : run.Applied after polled.effect ∧ (run.driver = .run → after.driver = .run) := by
  unfold turn at turned
  rw [polls, Checked.ok_bind] at turned
  obtain ⟨applied, applies, stepped⟩ := Checked.bind_eq_ok.mp turned
  obtain ⟨⟨history, lifecycle, data, lifecycleGone, dataGone, read, refused⟩, driver⟩ :=
    apply_applied applies
  split at stepped
  · cases stepped
    exact ⟨⟨history, lifecycle, data, lifecycleGone, dataGone, read, refused⟩,
      fun running => driver.trans running⟩
  split at stepped
  · rename_i step _ returns
    cases stepped
    refine ⟨⟨history, lifecycle, data, lifecycleGone, dataGone, read, refused⟩, fun running => ?_⟩
    rw [driver, running] at returns
    unfold returnsOn at returns
    split at returns
    · simp at returns
    · cases returns
  · obtain ⟨loop, -, handled⟩ := Checked.bind_eq_ok.mp stepped
    cases handled
    exact ⟨⟨history, lifecycle, data, lifecycleGone, dataGone, read, refused⟩,
      fun running => driver.trans running⟩

-----------------------------------------------------------------------------------------
-- What the consumer has taken
-----------------------------------------------------------------------------------------

/-- The number of bytes the consumer has taken from the data ring. -/
def taken (run : RunnerRun) : Nat := run.pushed.length - (bytesOf run.data).length

/-- What was pushed is what was taken, then what the ring holds. -/
theorem Sound.pushed_split (sound : run.Sound)
    : ∃ front, run.pushed = front ++ bytesOf run.data ∧ front.length = run.taken := by
  obtain ⟨earlier, frames⟩ := sound.data
  have split : run.pushed = bytesOf earlier ++ bytesOf run.data := by
    rw [pushed, ← frames, bytesOf_append]
  refine ⟨bytesOf earlier, split, ?_⟩
  rw [taken, split, List.length_append, Nat.add_sub_cancel]

theorem Sound.taken_add (sound : run.Sound)
    : run.taken + (bytesOf run.data).length = run.pushed.length := by
  obtain ⟨front, split, length⟩ := sound.pushed_split
  rw [split, List.length_append, length]

/-- A turn pushes to the ring's end, so nothing is taken by it. -/
theorem Applied.taken_eq {effect : Effect} (applied : run.Applied after effect)
    : after.taken = run.taken := by
  simp only [taken, pushed, applied.history, applied.data, framesOf_append, bytesOf_append,
    List.length_append]
  omega

/-- Before its stop, a runner has reported nothing or that it started. -/
theorem Begun.events {history : List Pushed} (begun : run.Begun history)
    : eventsOf history = [] ∨ eventsOf history = [.started] := by
  rcases begun with rfl | ⟨-, frames, rfl⟩
  · exact Or.inl rfl
  · refine Or.inr ?_
    have quiet : eventsOf (frames.map .data) = [] := by
      induction frames with
      | nil => rfl
      | cons frame rest ih => exact ih
    exact congrArg (LifecycleEvent.started :: ·) quiet

/-- What a runner reported: perhaps that it started, then perhaps that it stopped. -/
theorem Sound.events (sound : run.Sound)
    : (eventsOf run.history = [] ∨ eventsOf run.history = [.started])
      ∨ ∃ before reason, (before = [] ∨ before = [LifecycleEvent.started])
          ∧ eventsOf run.history = before ++ [.stopped reason]
          ∧ run.Outcome reason
          ∧ run.loop.isStopped = true := by
  rcases sound.begun_or_stopped with begun | ⟨before, reason, same, begun, outcome, stopped⟩
  · exact Or.inl begun.events
  · refine Or.inr ⟨eventsOf before, reason, begun.events, ?_, outcome, stopped⟩
    rw [same, eventsOf_append, eventsOf_lifecycle]

/-- A runner reports its start only once. -/
theorem Sound.started_once (sound : run.Sound) {rest : List LifecycleEvent}
    (events : eventsOf run.history = .started :: rest)
    : LifecycleEvent.started ∉ rest := by
  rcases sound.events with (none | one) | ⟨before, reason, first, stops, -, -⟩
  · rw [none] at events
    cases events
  · rw [one] at events
    cases events
    exact List.not_mem_nil
  · rw [stops] at events
    rcases first with rfl | rfl
    · cases events
    · cases events
      simp

/-- The stop a runner reported is its last event, and its outcome holds. -/
theorem Sound.stopped_last (sound : run.Sound) {before after : List LifecycleEvent}
    {reason : StoppedReason}
    (events : eventsOf run.history = before ++ .stopped reason :: after)
    : run.Outcome reason ∧ run.loop.isStopped = true ∧ after = [] := by
  have member : LifecycleEvent.stopped reason ∈ eventsOf run.history := by simp [events]
  rcases sound.events with (none | one) | ⟨first, last, begun, stops, outcome, stopped⟩
  · simp [none] at member
  · simp [one] at member
  · have shape : first ++ [LifecycleEvent.stopped last] = before ++ .stopped reason :: after :=
      stops.symm.trans events
    rcases begun with rfl | rfl
    · cases before with
      | nil =>
          cases shape
          exact ⟨outcome, stopped, rfl⟩
      | cons head tail =>
          have lengths := congrArg List.length shape
          simp at lengths
    · cases before with
      | nil => cases shape
      | cons head tail =>
          cases tail with
          | nil =>
              cases shape
              exact ⟨outcome, stopped, rfl⟩
          | cons second rest =>
              have lengths := congrArg List.length shape
              simp at lengths

end RunnerRun

end BoltLoad
