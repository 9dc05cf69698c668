import BoltLoad.Runner.Turns

/-! Whole runs of a runner: every reachable state is sound, and the lifecycle protocol its
consumer relies on follows.
-/

namespace BoltLoad

namespace RunnerRun

variable {usizeSize : Nat} {run : RunnerRun}

/-- The consumer's steps only shorten the rings or give them up. -/
theorem Sound.consume (sound : run.Sound) {lifecycle : List LifecycleEvent}
    {data : List DataFrame} {lifecycleGone dataGone : Bool}
    (events : lifecycle <:+ run.lifecycle) (frames : data <:+ run.data)
    (lifecycleLost : run.lifecycleGone = true → lifecycleGone = true)
    (dataLost : run.dataGone = true → dataGone = true)
    : ({ run with lifecycle, data, lifecycleGone, dataGone } : RunnerRun).Sound := by
  obtain ⟨counted, opened, delivers, eventsBefore, framesBefore, awaiting, phase⟩ := sound
  have outcome {reason : StoppedReason} (before : run.Outcome reason)
      : Outcome { run with lifecycle, data, lifecycleGone, dataGone } reason := by
    refine ⟨before.justified, fun drains => ?_⟩
    rcases before.drained drains with empty | gone
    · exact Or.inl (List.suffix_nil.mp (empty ▸ frames))
    · exact Or.inr (dataLost gone)
  refine ⟨counted, opened, delivers, events.trans eventsBefore, frames.trans framesBefore,
    awaiting, ?_⟩
  unfold PhaseSound at phase ⊢
  split at phase <;> rename_i same <;> simp only [same]
  · exact phase
  · exact phase
  · exact phase
  · exact phase
  · obtain ⟨begun, reason, rfl, before⟩ := phase
    exact ⟨begun, reason, rfl, outcome before⟩
  · rcases phase with ⟨begun, gone⟩ | ⟨before, reason, history, begun, result⟩
    · exact Or.inl ⟨begun, lifecycleLost gone⟩
    · exact Or.inr ⟨before, reason, history, begun, outcome result⟩

/-- Going on after `ready` starts the stream. -/
theorem Sound.resume (sound : run.Sound) (usizeSize : Nat) (waits : run.driver = .awaitingReady)
    : ∃ after, run.resume usizeSize = .ok after ∧ after.Sound
      ∧ after = { run with
          driver := .run, loop := { run.loop with phase := .streaming .new } } := by
  obtain ⟨driver, ⟨runner, phase⟩, lifecycle, data, lifecycleGone, dataGone, history, read,
    refused⟩ := run
  obtain ⟨counted, opened, delivers, events, frames, awaiting, publishing⟩ := sound
  simp only at waits awaiting
  subst waits
  cases awaiting rfl
  obtain ⟨input, announced, nothing⟩ := publishing
  simp only [if_true] at announced input nothing
  subst announced nothing
  refine ⟨_, rfl, ⟨counted, fun _ => opened rfl, delivers, events, frames,
    fun never => (by cases never), input, ⟨[], rfl⟩, ?_⟩, rfl⟩
  simp [StreamingState.Flow, StreamingState.new, pushed]

/-- A freshly built runner is sound. -/
theorem Sound.new {driver : Driver} {total : Option Nat} {input : RunnerInput}
    (driven : driver ≠ .awaitingReady) (usable : input ≠ .abandoned)
    : (RunnerRun.new driver total input).Sound := by
  refine ⟨rfl, fun _ => rfl, List.nil_prefix, List.nil_suffix, List.nil_suffix,
    fun waits => absurd waits driven, ?_⟩
  cases input with
  | connected => exact ⟨rfl, by simp only [driven, if_false, RunnerRun.new], rfl⟩
  | connecting => exact ⟨rfl, rfl, rfl⟩
  | abandoned => exact absurd rfl usable

/-- Every event of a sound run succeeds and keeps it sound. -/
theorem Sound.next {event : RunnerEvent} (sound : run.Sound) (usizeSize : Nat)
    (enabled : run.Enabled event)
    : ∃ after, RunnerRun.next usizeSize run event = .ok after ∧ after.Sound := by
  cases event with
  | turn sources =>
      obtain ⟨polled, after, polls, turned, afterSound, total⟩
        := sound.turn usizeSize enabled.1 enabled.2.1 enabled.2.2
      exact ⟨after, turned, afterSound⟩
  | ready =>
      obtain ⟨after, resumed, afterSound, -⟩ := sound.resume usizeSize enabled
      exact ⟨after, resumed, afterSound⟩
  | takeLifecycle =>
      exact ⟨_, rfl, sound.consume (List.tail_suffix _) (List.suffix_refl _) id id⟩
  | takeData => exact ⟨_, rfl, sound.consume (List.suffix_refl _) (List.tail_suffix _) id id⟩
  | dropLifecycle =>
      exact ⟨_, rfl, sound.consume (List.suffix_refl _) (List.suffix_refl _) (fun _ => rfl) id⟩
  | dropData =>
      exact ⟨_, rfl, sound.consume (List.suffix_refl _) (List.suffix_refl _) id (fun _ => rfl)⟩

/-- Every state a run reaches is sound, by induction on the run. -/
theorem reachable_sound (reached : (machine usizeSize).Reachable run) : run.Sound := by
  refine reached.invariant ?_ ?_
  · rintro start ⟨driver, total, input, driven, usable, same⟩
    exact same ▸ Sound.new driven usable
  · intro before event after _ sound step
    obtain ⟨reachedAfter, next, afterSound⟩ := sound.next usizeSize step.enabled
    have same : after = reachedAfter := Except.ok.inj (step.next.symm.trans next)
    exact same ▸ afterSound

-----------------------------------------------------------------------------------------
-- The lifecycle protocol
-----------------------------------------------------------------------------------------

/-- The orders a consumer may see: at most one `Started`, frames only after it, and `Stopped`
only as the very last.
-/
inductive Ordered : List Pushed → Prop
  | nothing : Ordered []
  | started (frames : List DataFrame)
    : Ordered (.lifecycle .started :: frames.map .data)
  | unstarted (reason : StoppedReason) : Ordered [.lifecycle (.stopped reason)]
  | stopped (frames : List DataFrame) (reason : StoppedReason)
    : Ordered (.lifecycle .started :: frames.map .data ++ [.lifecycle (.stopped reason)])

theorem Begun.ordered {history : List Pushed} (begun : run.Begun history) : Ordered history := by
  rcases begun with rfl | ⟨-, frames, rfl⟩
  · exact .nothing
  · exact .started frames

theorem Begun.ordered_stopped {history : List Pushed} (begun : run.Begun history)
    (reason : StoppedReason)
    : Ordered (history ++ [.lifecycle (.stopped reason)]) := by
  rcases begun with rfl | ⟨-, frames, rfl⟩
  · exact .unstarted reason
  · exact .stopped frames reason

/-- Nothing that began without its stop ends with one. -/
theorem Begun.not_stopped {history before : List Pushed} {reason : StoppedReason}
    (begun : run.Begun history)
    : history ≠ before ++ [.lifecycle (.stopped reason)] := by
  intro same
  have last : history.getLast? = some (.lifecycle (.stopped reason)) := by
    rw [same, List.getLast?_concat]
  rcases begun with rfl | ⟨-, frames, rfl⟩
  · cases last
  · have member := List.mem_of_getLast? last
    simp at member

/-- Until it stops, a sound run has only begun; then its outcome holds for the reason it
reported.
-/
theorem Sound.begun_or_stopped (sound : run.Sound)
    : run.Begun run.history
      ∨ ∃ before reason, run.history = before ++ [.lifecycle (.stopped reason)]
          ∧ run.Begun before
          ∧ run.Outcome reason
          ∧ run.loop.isStopped = true := by
  have phase := sound.phase
  unfold PhaseSound at phase
  split at phase <;> rename_i same
  · exact Or.inl (Or.inl phase.2.1)
  · obtain ⟨input, announced, -⟩ := phase
    rw [announced]
    split
    · exact Or.inl (Or.inr ⟨input, [], rfl⟩)
    · exact Or.inl (Or.inl rfl)
  · exact Or.inl (Or.inr ⟨phase.1, phase.2.1⟩)
  · exact Or.inl phase.1
  · exact Or.inl phase.1
  · rcases phase with ⟨begun, -⟩ | ⟨before, reason, history, begun, outcome⟩
    · exact Or.inl begun
    · exact Or.inr ⟨before, reason, history, begun, outcome, by simp [RunnerLoop.isStopped, same]⟩

/-- The lifecycle protocol of every run of a freshly built runner: the order of what it
pushes, the stop it owes a consumer that stays, what a runner that never connected pushes,
what `Finished` promises, and that no event ends in a panic.
-/
theorem lifecycle_protocol (reached : (machine usizeSize).Reachable run)
    : Ordered run.history
      ∧ (run.loop.isStopped = true
        → run.lifecycleGone = false
        → ∃ before reason, run.history = before ++ [.lifecycle (.stopped reason)])
      ∧ (run.loop.runner.input ≠ .connected
        → run.history = [] ∨ ∃ reason, run.history = [.lifecycle (.stopped reason)])
      ∧ (∀ before, run.history = before ++ [.lifecycle (.stopped .finished)]
        → run.loop.runner.Delivered ∧ (run.data = [] ∨ run.dataGone = true))
      ∧ ∀ event, run.Enabled event → ∃ after, next usizeSize run event = .ok after := by
  have sound := reachable_sound reached
  refine ⟨?_, ?_, ?_, ?_, ?_⟩
  · rcases sound.begun_or_stopped with begun | ⟨before, reason, same, begun, -, -⟩
    · exact begun.ordered
    · rw [same]
      exact begun.ordered_stopped reason
  · intro stopped present
    have phase := sound.phase
    simp only [PhaseSound, RunnerLoop.phase_of_isStopped stopped] at phase
    rcases phase with ⟨-, gone⟩ | ⟨before, reason, history, -, -⟩
    · rw [present] at gone
      cases gone
    · exact ⟨before, reason, history⟩
  · intro unconnected
    rcases sound.begun_or_stopped with begun | ⟨before, reason, same, begun, -, -⟩
    · exact Or.inl (begun.resolve_right (fun opened => unconnected opened.1))
    · have nothing := begun.resolve_right (fun opened => unconnected opened.1)
      rw [nothing] at same
      exact Or.inr ⟨reason, same⟩
  · intro before finished
    rcases sound.begun_or_stopped with begun | ⟨_, reason, same, -, outcome, -⟩
    · exact absurd finished begun.not_stopped
    · rw [finished] at same
      have reported := (List.append_inj_right' same rfl)
      simp only [List.cons.injEq, Pushed.lifecycle.injEq, LifecycleEvent.stopped.injEq, and_true]
        at reported
      subst reported
      exact ⟨outcome.justified, outcome.drained rfl⟩
  · intro event enabled
    obtain ⟨after, stepped, -⟩ := sound.next usizeSize enabled
    exact ⟨after, stepped⟩

/-- A run that connects, delivers three bytes of three, and finishes. -/
def deliveredRun : RunnerRun where
  driver := .run
  loop :=
    { runner := { total := some 3, downloaded := 3, input := .connected, dataOpen := false },
      phase := .stopped }
  lifecycle := [.stopped .finished]
  data := []
  lifecycleGone := false
  dataGone := false
  history := [.lifecycle .started, .data ⟨[1, 2, 3]⟩, .lifecycle (.stopped .finished)]
  read := [1, 2, 3]
  refused := false

theorem deliveredRun_reachable : (machine u64Size).Reachable deliveredRun := by
  have start : (machine u64Size).Reachable (.new .run (some 3) .connecting) :=
    .initial ⟨_, _, _, by decide, by decide, rfl⟩
  exact start.execute
    [.turn { connection := some (.ok ()) },
      .turn { lifecycleReady := some true },
      .takeLifecycle,
      .turn { item := some (some (.ok [1, 2, 3])) },
      .turn { dataReady := some true },
      .takeData,
      .turn { drained := true },
      .turn { lifecycleReady := some true }]
    rfl

/-- The protocol on a run that finishes. -/
theorem lifecycle_protocol_delivered
    : Ordered deliveredRun.history
      ∧ deliveredRun.loop.runner.Delivered
      ∧ (deliveredRun.data = [] ∨ deliveredRun.dataGone = true) :=
  have protocol := lifecycle_protocol deliveredRun_reachable
  ⟨protocol.1, protocol.2.2.2.1 [.lifecycle .started, .data ⟨[1, 2, 3]⟩] rfl⟩

end RunnerRun

end BoltLoad
