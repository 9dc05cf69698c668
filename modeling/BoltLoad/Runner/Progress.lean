import BoltLoad.Runner.Reported

/-! An undisturbed runner can always go on until it has reported its stop: a rank of its phase,
of the bytes missing and of the frames not taken falls with one event from every state.
-/

namespace BoltLoad

namespace RunnerLoop

variable {usizeSize total data : Nat} {runner : TaskRunner} {state : StreamingState}
  {loop after : RunnerLoop}

/-- The bytes still to push and the `data` frames still to take, each push adding a frame. -/
def backlog (total data : Nat) (runner : TaskRunner) : Nat :=
  data + 3 * (total - runner.downloaded)

/-- How far a loop is from its end, with `data` frames still to take. -/
def rank (total data : Nat) (loop : RunnerLoop) : Nat :=
  match loop.phase with
  | .connecting => 8 + backlog total data loop.runner
  | .publishingStarted => 6 + backlog total data loop.runner
  | .streaming state => (if state.staged = none then 4 else 3) + backlog total data loop.runner
  | .draining _ => 2 + data
  | .publishingStopped _ => 1
  | .stopped => 0

theorem stopping_rank (result : RunResult)
    : (stopping runner result).rank total data ≤ 2 + data := by
  unfold stopping rank
  cases TaskRunner.shouldWaitDataDrain result with
  | true => exact Nat.le_refl _
  | false =>
      simp only [Bool.false_eq_true, if_false]
      omega

/-- What a flush leaves is staged, or stops. -/
theorem Flushed.rank {continuation : Continuation}
    (flushed : Flushed runner state continuation after)
    : after.rank total data ≤ 3 + backlog total data runner := by
  cases flushed with
  | stopped empty ends result =>
      refine (stopping_rank result).trans ?_
      rw [backlog]
      omega
  | staged filled => exact Nat.le_refl _

/-- What is left of an item never brings a runner back further than before its reading. -/
theorem Buffered.rank (buffered : Buffered usizeSize runner state after)
    : after.rank total data ≤ 4 + backlog total data runner := by
  have unstaged (next : StreamingState)
      : RunnerLoop.rank total data ⟨runner, .streaming next⟩ ≤ 4 + backlog total data runner := by
    unfold RunnerLoop.rank
    dsimp only
    split <;> omega
  cases buffered with
  | full reached flushed => exact flushed.rank.trans (by omega)
  | exhausted room current nothing => exact unstaged _
  | whole current started room fits => exact unstaged _
  | cut current room fits flushed => exact flushed.rank.trans (by omega)
  | straddles current started filled overflows flushed => exact flushed.rank.trans (by omega)

/-- An item that overfills the buffer is cut at the total, or staged with a full buffer. -/
theorem Buffered.overfills {item : Bytes} (buffered : Buffered usizeSize runner state after)
    (read : state.item = some ⟨item, 0⟩) (large : bufferSize < item.length)
    : after.rank total data ≤ 3 + backlog total data runner := by
  cases buffered with
  | full reached flushed => exact flushed.rank
  | exhausted room current nothing =>
      cases read.symm.trans current
      dsimp only at nothing
      omega
  | whole current started room fits =>
      cases read.symm.trans current
      dsimp only at fits
      omega
  | cut current room fits flushed => exact flushed.rank
  | straddles current started filled overflows flushed => exact flushed.rank

end RunnerLoop

namespace RunnerRun

variable {usizeSize total : Nat} {run after : RunnerRun} {sources : Sources}

/-- How far a run is from its end; `run_after_started` stops on its way once more. -/
def rank (total : Nat) (run : RunnerRun) : Nat :=
  run.loop.rank total run.data.length + if run.driver = .awaitingReady then 0 else 1

/-- A run can take a step that leads it closer to its end, undisturbed. -/
def Progresses (usizeSize total : Nat) (run : RunnerRun) : Prop :=
  ∃ event after,
    (machine usizeSize).Step run event after
    ∧ run.Undisturbed event
    ∧ after.rank total < run.rank total

/-- A turn whose poll is known progresses if its handling does. -/
theorem Progresses.turn {polled : Polled} (sound : run.Sound)
    (driven : run.driver ≠ .awaitingReady) (running : run.loop.isStopped = false)
    (allowed : run.Allows sources) (undisturbed : ∀ result, ¬Interrupted sources result)
    (polls : run.loop.pollStep sources = .ok polled)
    (continues : polled.step ≠ some (.download none))
    (lowers
      : ∀ after,
          run.turn usizeSize sources = .ok after →
          run.Applied after polled.effect →
          after.rank total < run.rank total)
    : run.Progresses usizeSize total := by
  obtain ⟨_, after, _, turned, _⟩ := sound.turn usizeSize driven running allowed
  refine ⟨.turn sources, after, ⟨⟨driven, running, allowed⟩, turned⟩, ⟨fun early => ?_, undisturbed⟩,
    lowers after turned (turn_applied polls turned).1⟩
  obtain ⟨⟨other, polls', ends⟩, _⟩ := early
  cases polls'.symm.trans polls
  exact continues ends

/-- A runner that waits for its consumer progresses with the frame the consumer takes. -/
theorem Progresses.takeData (gone : run.dataGone = false) (waiting : run.data ≠ [])
    (counts
      : ∀ shorter < run.data.length,
          run.loop.rank total shorter < run.loop.rank total run.data.length)
    : run.Progresses usizeSize total := by
  refine ⟨.takeData, { run with data := run.data.tail }, ⟨⟨gone, waiting⟩, rfl⟩, trivial, ?_⟩
  have shorter : run.data.tail.length < run.data.length := by
    have filled := List.length_pos_of_ne_nil waiting
    rw [List.length_tail]
    omega
  exact Nat.add_lt_add_right (counts _ shorter) _

/-- Before its stop is published, at most `Started` waits for the consumer. -/
theorem Begun.vacant (sound : run.Sound) (begun : run.Begun run.history)
    : run.lifecycle.length < lifecycleChannelCapacity := by
  have few : (eventsOf run.history).length ≤ 1 := by
    rcases begun.events with none | one
    · simp only [none, List.length_nil, Nat.zero_le]
    · simp only [one, List.length_singleton, Nat.le_refl]
  have suffix := sound.lifecycle.length_le
  unfold lifecycleChannelCapacity
  omega

/-- A driven run falls in rank with its loop. -/
theorem rank_lt (driven : run.driver ≠ .awaitingReady)
    (lowers : after.loop.rank total after.data.length < run.loop.rank total run.data.length)
    : after.rank total < run.rank total := by
  unfold rank
  rw [if_neg driven]
  split <;> omega

/-- What a turn that selects a step leaves of the loop. -/
theorem handled_of_turn {polled : Polled} {step : Step}
    (polls : run.loop.pollStep sources = .ok polled) (selected : polled.step = some step)
    (starts : step ≠ .started (.ok ())) (turned : run.turn usizeSize sources = .ok after)
    : polled.loop.handleStep usizeSize step = .ok after.loop := by
  obtain ⟨polled', polls', _, handled⟩ := turn_cases turned
  cases polls'.symm.trans polls
  rcases handled with ⟨none | started, _⟩ | ⟨_, same, handled⟩
  · cases none.symm.trans selected
  · exact absurd (Option.some.inj (selected.symm.trans started)) starts
  · cases same.symm.trans selected
    exact handled

/-- A connection that is made leads on to `Started`. -/
theorem Sound.progress_connecting (sound : run.Sound)
    (connecting : run.loop.phase = .connecting)
    : run.Progresses usizeSize total := by
  have phase := sound.phase
  rw [PhaseSound, connecting] at phase
  obtain ⟨input, _, _⟩ := phase
  have driven : run.driver ≠ .awaitingReady := fun waits => by
    cases connecting.symm.trans (sound.awaiting waits)
  have polls
      : run.loop.pollStep { connection := some (.ok ()) }
        = .ok ⟨run.loop, some (.connected (.ok ())), .none⟩ := by
    simp only [RunnerLoop.pollStep, connecting, RunnerLoop.pollControl, input]
    rfl
  refine .turn sound driven (by rw [RunnerLoop.isStopped, connecting]) (by simp [Allows])
    (fun result interrupted => by cases interrupted <;> cases ‹_›) polls
    (fun never => by cases never) (fun after turned applied => rank_lt driven ?_)
  have handled := Except.ok.inj
    (handled_of_turn polls rfl (fun never => by cases never) turned)
  rw [← handled, applied.data, RunnerLoop.rank, RunnerLoop.rank, connecting]
  simp only [RunnerLoop.backlog, pushedBy, framesOf, List.filterMap_nil, List.append_nil]
  omega

/-- `Started` is published into its vacant ring, and its runner streams or awaits `ready`. -/
theorem Sound.progress_publishingStarted (sound : run.Sound) (clear : run.Clear total)
    (publishing : run.loop.phase = .publishingStarted)
    : run.Progresses usizeSize total := by
  have phase := sound.phase
  rw [PhaseSound, publishing] at phase
  obtain ⟨input, announced, _⟩ := phase
  by_cases awaiting : run.driver = .awaitingReady
  · obtain ⟨resumed, resumes, _, same⟩ := sound.resume usizeSize awaiting
    refine ⟨.ready, resumed, ⟨awaiting, resumes⟩, trivial, ?_⟩
    subst same
    rw [rank, rank, if_pos awaiting, RunnerLoop.rank, RunnerLoop.rank, publishing]
    simp only [StreamingState.new, if_true]
    split <;> omega
  · rw [if_neg awaiting] at announced
    have vacant : run.lifecycle.length < lifecycleChannelCapacity :=
      Begun.vacant sound (announced ▸ .inl rfl)
    have polls
        : run.loop.pollStep { lifecycleReady := some true }
          = .ok ⟨run.loop, some (.started (.ok ())), .pushLifecycle .started⟩ := by
      simp only [RunnerLoop.pollStep, publishing]
    refine .turn sound awaiting (by rw [RunnerLoop.isStopped, publishing])
      (by simp [Allows, vacant, clear.lifecycleGone])
      (fun result interrupted => by cases interrupted <;> cases ‹_›) polls
      (fun never => by cases never) (fun after turned applied => ?_)
    unfold RunnerRun.turn at turned
    rw [polls, Checked.ok_bind] at turned
    obtain ⟨published, applies, turned⟩ := Checked.bind_eq_ok.mp turned
    simp only [apply, vacant, if_true] at applies
    cases applies
    dsimp only at turned
    split at turned
    · cases turned
      simp only [rank, awaiting, if_false, if_true, Nat.add_zero]
      exact Nat.lt_succ_self _
    · cases turned
      refine rank_lt awaiting ?_
      rw [RunnerLoop.rank, RunnerLoop.rank, publishing]
      simp only [StreamingState.new, if_true]
      omega

/-- A streaming runner with nothing staged reads an item that overfills its buffer. -/
theorem Sound.progress_reading {state : StreamingState} (sound : run.Sound)
    (streams : run.loop.phase = .streaming state) (idle : state.staged = none)
    : run.Progresses usizeSize total := by
  have phase := sound.phase
  rw [PhaseSound, streams] at phase
  obtain ⟨input, _, _⟩ := phase
  have loop : run.loop = ⟨run.loop.runner, .streaming state⟩ := by rw [← streams]
  have driven : run.driver ≠ .awaitingReady := fun waits => by
    cases streams.symm.trans (sound.awaiting waits)
  let item : Bytes := List.replicate (bufferSize + 1) 0
  have polls
      : run.loop.pollStep { item := some (some (.ok item)) }
        = .ok ⟨run.loop, some (.download (some (.ok item))), .readStream item⟩ := by
    simp only [RunnerLoop.pollStep, streams, idle, RunnerLoop.pollControl, input]
    rfl
  refine .turn sound driven (by rw [RunnerLoop.isStopped, streams]) (by simp [Allows])
    (fun result interrupted => by cases interrupted <;> cases ‹_›) polls
    (fun never => by cases never) (fun after turned applied => rank_lt driven ?_)
  have handled := handled_of_turn polls rfl (fun never => by cases never) turned
  change run.loop.onItem usizeSize item = .ok after.loop at handled
  rw [loop] at handled
  simp only [RunnerLoop.onItem, RunnerLoop.streaming, Checked.ok_bind] at handled
  have large : bufferSize < item.length := by
    rw [List.length_replicate]
    exact Nat.lt_succ_self _
  have lowers
      : after.loop.rank total run.data.length
        ≤ 3 + RunnerLoop.backlog total run.data.length run.loop.runner :=
    (RunnerLoop.bufferItem_cases handled).overfills rfl large
  have same : after.data = run.data := by
    rw [applied.data]
    exact List.append_nil _
  rw [same]
  refine lowers.trans_lt ?_
  rw [RunnerLoop.rank, streams]
  simp only [idle, if_true]
  omega

/-- A staged frame is pushed once the consumer has made room for it. -/
theorem Sound.progress_emitting {state : StreamingState} {emission : Emission}
    {continuation : Continuation} (sound : run.Sound) (clear : run.Clear total)
    (within : run.loop.runner.downloaded + run.loop.held ≤ total)
    (streams : run.loop.phase = .streaming state)
    (staged : state.staged = some (emission, continuation))
    : run.Progresses usizeSize total := by
  by_cases vacant : run.data.length < dataFrameChannelCapacity
  · have phase := sound.phase
    rw [PhaseSound, streams] at phase
    obtain ⟨_, _, flow⟩ := phase
    rw [StreamingState.Flow, staged] at flow
    obtain ⟨_, _, frame, framed, filled, _⟩ := flow
    have loop : run.loop = ⟨run.loop.runner, .streaming state⟩ := by rw [← streams]
    have driven : run.driver ≠ .awaitingReady := fun waits => by
      cases streams.symm.trans (sound.awaiting waits)
    have running : run.loop.isStopped = false := by rw [RunnerLoop.isStopped, streams]
    let pushed : TaskRunner :=
      { run.loop.runner with downloaded := run.loop.runner.downloaded + frame.data.length }
    have polls
        : run.loop.pollStep { dataReady := some true }
          = .ok ⟨⟨pushed, .streaming {
                state with
                staged := some ({ emission with frame := none, deferred := none }, continuation) }⟩,
              some (.emitted (.ok emission.deferred)), .pushData frame⟩ := by
      have polls
          : run.loop.pollStep { dataReady := some true }
            = run.loop.pollPush state emission continuation { dataReady := some true } := by
        simp only [RunnerLoop.pollStep, streams, staged, RunnerLoop.pollEmit,
          sound.opened running, RunnerLoop.pollControl, Option.map_none, ite_self]
        rfl
      rw [polls, RunnerLoop.pollPush, framed]
      rfl
    refine .turn sound driven running (by simp [Allows, vacant, clear.dataGone])
      (fun result interrupted => by cases interrupted <;> cases ‹_›) polls
      (fun never => by cases never) (fun after turned applied => rank_lt driven ?_)
    have handled := handled_of_turn polls rfl (fun never => by cases never) turned
    have lowers
        : after.loop.rank total after.data.length
          ≤ 4 + RunnerLoop.backlog total after.data.length pushed := by
      rcases RunnerLoop.onEmitted_cases rfl handled with ⟨result, stopped⟩ | ⟨_, _, buffered⟩
      · rw [stopped]
        refine (RunnerLoop.stopping_rank result).trans ?_
        rw [RunnerLoop.backlog]
        omega
      · exact buffered.rank
    have one : after.data.length = run.data.length + 1 := by
      rw [applied.data, List.length_append]
      rfl
    have count : 1 ≤ frame.data.length := List.length_pos_of_ne_nil filled
    have fits : run.loop.runner.downloaded + frame.data.length ≤ total := by
      have held : run.loop.held = state.buffer.length + frame.data.length := by
        obtain ⟨_, deferred, controlOpen⟩ := emission
        cases framed
        simp only [RunnerLoop.held, streams, StreamingState.held, StreamingState.stagedBytes,
          staged]
      omega
    refine lowers.trans_lt ?_
    rw [RunnerLoop.rank, streams, one]
    simp only [RunnerLoop.backlog, pushed, staged]
    rw [if_neg (fun never => by cases never)]
    omega
  · refine .takeData clear.dataGone (fun none => vacant ?_) (fun shorter less => ?_)
    · rw [none]
      decide
    · rw [RunnerLoop.rank, RunnerLoop.rank, streams]
      simp only [RunnerLoop.backlog]
      omega

/-- A drain is over once the consumer has taken every frame. -/
theorem Sound.progress_draining {result : RunResult} (sound : run.Sound) (clear : run.Clear total)
    (draining : run.loop.phase = .draining result)
    : run.Progresses usizeSize total := by
  by_cases empty : run.data = []
  · have driven : run.driver ≠ .awaitingReady := fun waits => by
      cases draining.symm.trans (sound.awaiting waits)
    have running : run.loop.isStopped = false := by rw [RunnerLoop.isStopped, draining]
    have polls
        : run.loop.pollStep { drained := true }
          = .ok ⟨run.loop, some (.drained .drained), .none⟩ := by
      simp only [RunnerLoop.pollStep, draining, RunnerLoop.pollDrain, sound.opened running]
      rfl
    refine .turn sound driven running (by simp [Allows, empty])
      (fun result interrupted => by cases interrupted <;> cases ‹_›) polls
      (fun never => by cases never) (fun after turned applied => rank_lt driven ?_)
    have handled := handled_of_turn polls rfl (fun never => by cases never) turned
    change run.loop.finishDrain .drained = .ok after.loop at handled
    rw [RunnerLoop.finishDrain, draining] at handled
    rw [← Except.ok.inj handled, RunnerLoop.rank, RunnerLoop.rank, draining]
    simp only [RunnerLoop.publishStopped]
    omega
  · refine .takeData clear.dataGone empty (fun shorter less => ?_)
    rw [RunnerLoop.rank, RunnerLoop.rank, draining]
    exact Nat.add_lt_add_left less 2

/-- The stop is published into a ring that has room for it. -/
theorem Sound.progress_publishingStopped {event : Option LifecycleEvent} (sound : run.Sound)
    (clear : run.Clear total) (publishing : run.loop.phase = .publishingStopped event)
    : run.Progresses usizeSize total := by
  have phase := sound.phase
  rw [PhaseSound, publishing] at phase
  obtain ⟨begun, reason, rfl, _⟩ := phase
  have driven : run.driver ≠ .awaitingReady := fun waits => by
    cases publishing.symm.trans (sound.awaiting waits)
  have polls
      : run.loop.pollStep { lifecycleReady := some true }
        = .ok ⟨{ run.loop with phase := .publishingStopped none }, some .stoppedPublished,
            .pushLifecycle (.stopped reason)⟩ := by
    simp only [RunnerLoop.pollStep, publishing]
    rfl
  refine .turn sound driven (by rw [RunnerLoop.isStopped, publishing])
    (by simp [Allows, begun.vacant sound, clear.lifecycleGone])
    (fun result interrupted => by cases interrupted <;> cases ‹_›) polls
    (fun never => by cases never) (fun after turned applied => rank_lt driven ?_)
  have handled := handled_of_turn polls rfl (fun never => by cases never) turned
  rw [← Except.ok.inj handled, RunnerLoop.rank, RunnerLoop.rank, publishing]
  exact Nat.zero_lt_one

/-- Until it has returned, an undisturbed run within its total can go on. -/
theorem Sound.progress (sound : run.Sound) (clear : run.Clear total)
    (within : run.loop.runner.downloaded + run.loop.held ≤ total)
    : run.loop.isStopped = true ∨ run.Progresses usizeSize total := by
  cases phase : run.loop.phase with
  | connecting => exact .inr (sound.progress_connecting phase)
  | publishingStarted => exact .inr (sound.progress_publishingStarted clear phase)
  | streaming state =>
      cases staged : state.staged with
      | none => exact .inr (sound.progress_reading phase staged)
      | some emitting => exact .inr (sound.progress_emitting clear within phase staged)
  | draining result => exact .inr (sound.progress_draining clear phase)
  | publishingStopped event => exact .inr (sound.progress_publishingStopped clear phase)
  | stopped =>
      left
      rw [RunnerLoop.isStopped, phase]

/-- An undisturbed run can go on until it has reported that it finished. -/
theorem undisturbed_finishes {start : RunnerRun} (started : (machine usizeSize).Initial start)
    (known : start.loop.runner.total = some total) (wide : bufferSize < usizeSize - 1)
    (fits : total < usizeSize)
    (reached : (runsUnder usizeSize start Undisturbed).Reachable run)
    : ∃ later,
        ((runsUnder usizeSize start Undisturbed).startingAt run).Reachable later
          ∧ .lifecycle (.stopped .finished) ∈ later.history := by
  have sound {later : RunnerRun}
      (reached : (runsUnder usizeSize start Undisturbed).Reachable later)
      : later.Sound :=
    reachable_sound (.of_startingAt (.initial started) reached.of_restrict)
  obtain ⟨later, goesOn, stopped⟩ :
      ∃ later,
        ((runsUnder usizeSize start Undisturbed).startingAt run).Reachable later
          ∧ later.loop.isStopped = true := by
    refine reached.leads (rank total) (fun state reached => ?_)
    have narrow : ∀ limit, start.loop.runner.total = some limit → limit < usizeSize := by
      intro limit same
      cases same.symm.trans known
      exact fits
    have within := (metered_reachable started wide narrow reached.of_restrict).loop.budget.within
    have clear := clear_reachable started known reached
    rcases (sound reached).progress clear (within total known) with stopped | goesOn
    · exact .inl stopped
    · obtain ⟨event, after, step, undisturbed, lower⟩ : state.Progresses usizeSize total := goesOn
      exact .inr ⟨event, after, ⟨⟨step.enabled, undisturbed⟩, step.next⟩, lower⟩
  refine ⟨later, goesOn, ?_⟩
  have reachedLater := Machine.Reachable.of_startingAt reached goesOn
  have phase := (sound reachedLater).phase
  rw [PhaseSound, RunnerLoop.phase_of_isStopped stopped] at phase
  rcases phase with ⟨_, gone⟩ | ⟨before, reason, history, _⟩
  · cases gone.symm.trans (clear_reachable started known reachedLater).lifecycleGone
  · have member : .lifecycle (.stopped reason) ∈ later.history :=
      history ▸ List.mem_append_right _ (List.mem_singleton_self _)
    obtain ⟨rfl, _⟩ := undisturbed_finished started known wide fits reachedLater member
    exact member

end RunnerRun

end BoltLoad
