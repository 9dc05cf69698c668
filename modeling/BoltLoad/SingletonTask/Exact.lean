import BoltLoad.Runner.Delivery
import BoltLoad.SingletonTask.Model

/-! The transfer over one connection is exact: it returns `Ok` only with every frame the runner
pushed written in order, after the runner reported that it finished, and then the file holds
these frames and nothing else.
-/

namespace BoltLoad

-----------------------------------------------------------------------------------------
-- The runner
-----------------------------------------------------------------------------------------

namespace RunnerRun

variable {usizeSize : Nat} {run after : RunnerRun}

@[simp] theorem eventsOf_frames (frames : List DataFrame)
    : eventsOf (frames.map Pushed.data) = [] := by
  rw [eventsOf, List.filterMap_eq_nil_iff]
  intro entry member
  obtain ⟨frame, _, rfl⟩ := List.mem_map.mp member
  rfl

@[simp] theorem framesOf_frames (frames : List DataFrame)
    : framesOf (frames.map Pushed.data) = frames := by
  induction frames with
  | nil => rfl
  | cons frame rest ih =>
      rw [List.map_cons, framesOf, List.filterMap_cons]
      exact congrArg (frame :: ·) ih

/-- What a runner does by itself: it pushes to its rings, and takes nothing from them. -/
structure Advances (run after : RunnerRun) : Prop where
  sound : after.Sound
  pushes
    : ∃ pushed,
        after.history = run.history ++ pushed
        ∧ after.lifecycle = run.lifecycle ++ eventsOf pushed
        ∧ after.data = run.data ++ framesOf pushed
  lifecycleGone : after.lifecycleGone = run.lifecycleGone
  dataGone : after.dataGone = run.dataGone
  total : after.loop.runner.total = run.loop.runner.total

/-- Without a control signal, a turn keeps the total. -/
theorem Sound.turn_advances {sources : Sources} (sound : run.Sound)
    (unsignalled : sources.control = none) (enabled : run.Enabled (.turn sources))
    (turned : run.turn usizeSize sources = .ok after)
    : run.Advances after := by
  obtain ⟨polled, reached, polls, turnedAgain, afterSound, total⟩ :=
    sound.turn usizeSize enabled.1 enabled.2.1 enabled.2.2
  cases turned.symm.trans turnedAgain
  obtain ⟨applied, -⟩ := turn_applied polls turned
  refine ⟨afterSound, ⟨_, applied.history, applied.lifecycle, applied.data⟩,
    applied.lifecycleGone, applied.dataGone, total.trans ?_⟩
  have source := RunnerLoop.pollStep_from polls
  cases effect : polled.effect with
  | takeControl signal =>
      rw [effect] at source
      cases unsignalled.symm.trans source
  | none => rfl
  | readStream item => rfl
  | pushLifecycle event => rfl
  | pushData frame => rfl

/-- Going on after `ready` pushes nothing. -/
theorem Sound.resume_advances (sound : run.Sound) (waits : run.driver = .awaitingReady)
    (resumed : run.resume usizeSize = .ok after)
    : run.Advances after := by
  obtain ⟨reached, resumedAgain, afterSound, same⟩ := sound.resume usizeSize waits
  cases resumed.symm.trans resumedAgain
  subst same
  have nothing : run.history = run.history ++ [] := (List.append_nil _).symm
  exact ⟨afterSound, ⟨[], nothing, (List.append_nil _).symm, (List.append_nil _).symm⟩,
    rfl, rfl, rfl⟩

/-- `Started` is reported at most once. -/
theorem Ordered.started_once {history : List Pushed} (ordered : Ordered history)
    : (eventsOf history).count .started ≤ 1 := by
  cases ordered with
  | nothing => exact Nat.zero_le _
  | started frames =>
      have events : eventsOf (.lifecycle .started :: frames.map .data) = [.started] :=
        congrArg (LifecycleEvent.started :: ·) (eventsOf_frames frames)
      rw [events]
      exact Nat.le_refl _
  | unstarted reason => exact Nat.zero_le _
  | stopped frames reason =>
      have events
          : eventsOf (.lifecycle .started :: frames.map .data ++ [.lifecycle (.stopped reason)])
            = [.started, .stopped reason] := by
        rw [List.cons_append, eventsOf, List.filterMap_cons]
        exact congrArg (LifecycleEvent.started :: ·)
          ((eventsOf_append _ _).trans
            (by rw [eventsOf_frames, eventsOf_lifecycle, List.nil_append]))
      rw [events]
      exact Nat.le_of_eq rfl

/-- What a sound runner has pushed is in one of the orders a consumer may see. -/
theorem Sound.ordered (sound : run.Sound) : Ordered run.history := by
  rcases sound.begun_or_stopped with begun | ⟨before, reason, same, begun, -, -⟩
  · exact begun.ordered
  · rw [same]
    exact begun.ordered_stopped reason

/-- The whole history of a runner that started and reported that it finished. -/
theorem Sound.finished (sound : run.Sound) (present : run.dataGone = false)
    (started : LifecycleEvent.started ∈ eventsOf run.history)
    (finished : LifecycleEvent.stopped .finished ∈ eventsOf run.history)
    : run.history
        = .lifecycle .started :: (framesOf run.history).map .data
          ++ [.lifecycle (.stopped .finished)]
      ∧ run.loop.runner.Delivered
      ∧ run.data = [] := by
  have beginning {history : List Pushed} (begun : run.Begun history)
      : eventsOf history = [] ∨ ∃ frames : List DataFrame,
              history = .lifecycle .started :: frames.map .data := by
    rcases begun with rfl | ⟨-, frames, rfl⟩
    · exact .inl rfl
    · exact .inr ⟨frames, rfl⟩
  have startEvents (frames : List DataFrame)
      : eventsOf (.lifecycle .started :: frames.map .data) = [.started] :=
    congrArg (LifecycleEvent.started :: ·) (eventsOf_frames frames)
  rcases sound.begun_or_stopped with begun | ⟨before, reason, same, begun, outcome, -⟩
  · rcases beginning begun with none | ⟨frames, same⟩
    · rw [none] at started
      cases started
    · rw [same, startEvents, List.mem_singleton] at finished
      cases finished
  · rw [same, eventsOf_append, eventsOf_lifecycle] at started finished
    rcases beginning begun with none | ⟨frames, opened⟩
    · rw [none, List.nil_append, List.mem_singleton] at started
      cases started
    · rw [opened, startEvents] at finished
      have isFinished : reason = .finished := by
        simpa only [List.cons_append, List.nil_append, List.mem_cons, reduceCtorEq, false_or,
          LifecycleEvent.stopped.injEq, List.not_mem_nil, or_false, eq_comm] using finished
      subst isFinished
      refine ⟨?_, outcome.justified, ?_⟩
      · have pushed : framesOf run.history = frames := by
          rw [same, opened, framesOf_append]
          exact (congrArg (· ++ _) (framesOf_frames frames)).trans (List.append_nil _)
        rw [pushed, same, opened]
      · rcases outcome.drained rfl with empty | gone
        · exact empty
        · rw [present] at gone
          cases gone

end RunnerRun

-----------------------------------------------------------------------------------------
-- The transfer
-----------------------------------------------------------------------------------------

namespace SingletonRun

variable {usizeSize : Nat} {run : SingletonRun}

/-- The frame being written. -/
def inHand (run : SingletonRun) : List DataFrame :=
  match run.stage with
  | .writing frame => [frame]
  | _ => []

/-- The transfer has failed; only its teardown is left. -/
def Failing (run : SingletonRun) : Prop :=
  ∃ error, run.stage = .flushing (.error error) ∨ run.stage = .returned (.error error)

/-- The frames written are stored in order from the start, but for what is buffered; the rest
of a sized file is zero.
-/
def Stored (run : SingletonRun) (file : AsyncFile) : Prop :=
  ∃ stored,
    stored ++ file.buffered = bytesOf run.written
    ∧ file.position = stored.length
    ∧ run.disk = some (stored ++ List.replicate (run.task.total.getD 0 - stored.length) 0)

/-- What a transfer that has not failed keeps to. -/
structure Exact (run : SingletonRun) : Prop where
  sound : run.runner.Sound
  lifecycleHere : run.runner.lifecycleGone = false
  dataHere : run.runner.dataGone = false
  total : run.runner.loop.runner.total = run.task.total
  frames : run.written ++ run.inHand ++ run.runner.data = framesOf run.runner.history
  events : run.seen ++ run.runner.lifecycle = eventsOf run.runner.history
  opened : run.file.isSome = true ∨ run.stage = .creatingFile → .started ∈ run.seen
  creating : run.stage = .creatingFile → run.file = none
  unopened : run.file = none → run.written = [] ∧ run.inHand = []
  finished
    : run.isFinished = true ∨ run.runnerStopped = true
      → .stopped .finished ∈ run.seen ∧ run.file.isSome = true
  ended : run.stage = .flushing (.ok ()) ∨ run.stage = .returned (.ok ()) → run.runnerStopped = true
  stored : ∀ file ∈ run.file, file.failed = false → run.Stored file
  flushed
    : run.stage = .returned (.ok ())
      → ∀ file ∈ run.file, file.buffered = [] ∧ file.failed = false

theorem Exact.new (total : Option Nat) (output : OutputFile) (disk : Option Bytes)
    : (SingletonRun.new total output disk).Exact where
  sound := .new (fun never => by cases never) (fun never => by cases never)
  lifecycleHere := rfl
  dataHere := rfl
  total := rfl
  frames := rfl
  events := rfl
  opened := by
    rintro (never | never) <;> cases never
  creating := fun never => by cases never
  unopened := fun _ => ⟨rfl, rfl⟩
  finished := by
    rintro (never | never) <;> cases never
  ended := by
    rintro (never | never) <;> cases never
  stored := fun _ never => by cases never
  flushed := fun never => by cases never

/-- While it selects, the runner may go on by itself. -/
theorem Exact.advance (exact : run.Exact) (selecting : run.stage = .selecting)
    {after : RunnerRun} (advances : run.runner.Advances after)
    : Exact { run with runner := after } := by
  obtain ⟨pushed, history, lifecycle, data⟩ := advances.pushes
  have hand : run.inHand = [] := by rw [inHand, selecting]
  have handAfter : inHand { run with runner := after } = [] := by rw [inHand, selecting]
  refine { exact with
    sound := advances.sound
    lifecycleHere := advances.lifecycleGone.trans exact.lifecycleHere
    dataHere := advances.dataGone.trans exact.dataHere
    total := advances.total.trans exact.total
    frames := ?_
    events := ?_ }
  · have frames := exact.frames
    rw [hand, List.append_nil] at frames
    dsimp only
    rw [handAfter, List.append_nil, data, history, framesOf_append, ← frames,
      List.append_assoc]
  · dsimp only
    rw [lifecycle, history, eventsOf_append, ← exact.events, List.append_assoc]

/-- The next frame is taken to be written. -/
theorem Exact.takeFrame (exact : run.Exact) (selecting : run.stage = .selecting)
    (opened : run.file.isSome = true) {frame : DataFrame}
    (first : run.runner.data.head? = some frame)
    : (run.takeFrame frame).Exact := by
  have data : run.runner.data = frame :: run.runner.data.tail := by
    obtain ⟨rest, same⟩ := List.head?_eq_some_iff.mp first
    rw [same]
    rfl
  have hand : run.inHand = [] := by rw [inHand, selecting]
  refine { exact with
    sound := exact.sound.consume (List.suffix_refl _) (List.tail_suffix _) id id
    frames := ?_
    opened := ?_
    creating := fun never => by cases never
    unopened := ?_
    ended := by rintro (never | never) <;> cases never
    stored := exact.stored
    flushed := fun never => by cases never }
  · have frames := exact.frames
    rw [hand, List.append_nil, data] at frames
    have handAfter : (run.takeFrame frame).inHand = [frame] := rfl
    rw [handAfter]
    exact (List.append_assoc _ _ _).trans frames
  · intro _
    exact exact.opened (.inl opened)
  · intro none
    have unopened : run.file = Option.none := none
    rw [unopened] at opened
    cases opened

/-- The whole frame is accepted. -/
theorem Exact.writeFrame (exact : run.Exact) {frame : DataFrame}
    (writing : run.stage = .writing frame)
    : (run.writeFrame frame (.ok ())).Exact := by
  have hand : run.inHand = [frame] := by rw [inHand, writing]
  have opened : run.file.isSome = true := by
    cases file : run.file with
    | some file => rfl
    | none =>
        have never := (exact.unopened file).2
        rw [hand] at never
        cases never
  refine { exact with
    frames := ?_
    opened := fun _ => exact.opened (.inl opened)
    creating := fun never => by cases never
    unopened := ?_
    finished := ?_
    ended := by rintro (never | never) <;> cases never
    stored := ?_
    flushed := fun never => by cases never }
  · have frames := exact.frames
    rw [hand] at frames
    have handAfter : (run.writeFrame frame (.ok ())).inHand = [] := rfl
    rw [handAfter, List.append_nil]
    exact frames
  · intro none
    rw [Option.map_eq_none_iff.mp none] at opened
    cases opened
  · intro finished
    obtain ⟨reported, _⟩ := exact.finished finished
    exact ⟨reported, Option.isSome_map.trans opened⟩
  · intro file isFile unfailed
    obtain ⟨before, isBefore, rfl⟩ := Option.map_eq_some_iff.mp isFile
    obtain ⟨stored, bytes, position, disk⟩ := exact.stored before isBefore unfailed
    refine ⟨stored, ?_, position, disk⟩
    have written : (run.writeFrame frame (.ok ())).written = run.written ++ [frame] := rfl
    rw [written, ← List.append_assoc, bytes, bytesOf_append, bytesOf_singleton]

/-- The file is created once, with nothing of it written yet. -/
theorem Exact.created (exact : run.Exact) (creating : run.stage = .creatingFile)
    : (run.createFile .created).Exact := by
  have unopened := exact.unopened (exact.creating creating)
  have hand : run.inHand = [] := by rw [inHand, creating]
  refine { exact with
    frames := ?_
    opened := fun _ => exact.opened (.inr creating)
    creating := fun never => by cases never
    unopened := fun never => by cases never
    finished := fun reported => ⟨(exact.finished reported).1, rfl⟩
    ended := by rintro (never | never) <;> cases never
    stored := ?_
    flushed := fun never => by cases never }
  · have frames := exact.frames
    rw [hand] at frames
    exact frames
  · intro file isFile _
    cases isFile
    refine ⟨[], ?_, rfl, ?_⟩
    · dsimp only [createFile, AsyncFile.opened]
      rw [unopened.1]
      rfl
    · dsimp only [createFile]
      rw [Segment.resize, List.take_nil]

/-- The background writer stores bytes where they belong. -/
theorem Exact.store (exact : run.Exact) {count : Nat} {file : AsyncFile}
    (isFile : run.file = some file) (unfailed : file.failed = false)
    (unreturned : ∀ result, run.stage ≠ .returned result)
    : (run.store count).Exact := by
  obtain ⟨stored, bytes, position, disk⟩ := exact.stored file isFile unfailed
  simp only [SingletonRun.store, isFile, disk]
  refine { exact with
    frames := exact.frames
    opened := fun _ => exact.opened (.inl (by rw [isFile]; rfl))
    creating := ?_
    unopened := fun never => by cases never
    finished := fun reported => ⟨(exact.finished reported).1, rfl⟩
    ended := exact.ended
    stored := ?_
    flushed := fun never => absurd never (unreturned _) }
  · intro creating
    have none := exact.creating creating
    rw [isFile] at none
    cases none
  · intro after isAfter _
    cases isAfter
    refine ⟨stored ++ file.buffered.take count, ?_, ?_, ?_⟩
    · rw [List.append_assoc, List.take_append_drop, bytes]
    · rw [position, List.length_append]
    · dsimp only
      rw [position, Segment.writeAt_filled, List.length_append, Nat.sub_add_eq]

/-- The loop is left with an error. -/
theorem failing_leave (run : SingletonRun) (error : DownloadError)
    : (run.leave (.error error)).Failing :=
  ⟨error, .inl rfl⟩

/-- The loop is left well once the runner has reported that it finished. -/
theorem Exact.leave (exact : run.Exact) (selecting : run.stage = .selecting)
    (stopped : run.runnerStopped = true)
    : (run.leave (.ok ())).Exact := by
  obtain ⟨_, opened⟩ := exact.finished (.inr stopped)
  have hand : run.inHand = [] := by rw [inHand, selecting]
  refine { exact with
    frames := ?_
    opened := fun _ => exact.opened (.inl opened)
    creating := fun never => by cases never
    unopened := ?_
    ended := fun _ => stopped
    flushed := fun never => by cases never }
  · have frames := exact.frames
    rw [hand] at frames
    exact frames
  · intro none
    exact ⟨(exact.unopened none).1, rfl⟩

/-- A lifecycle event is taken and handled. -/
theorem Exact.onLifecycle (exact : run.Exact) (selecting : run.stage = .selecting)
    {event : LifecycleEvent} (first : run.runner.lifecycle.head? = some event)
    {taken : SingletonRun}
    (takes
      : taken
        = { run with
            runner := { run.runner with lifecycle := run.runner.lifecycle.tail }
            seen := run.seen ++ [event] })
    : (taken.onLifecycle event).Exact ∨ (taken.onLifecycle event).Failing := by
  have lifecycle : run.runner.lifecycle = event :: run.runner.lifecycle.tail := by
    obtain ⟨rest, same⟩ := List.head?_eq_some_iff.mp first
    rw [same]
    rfl
  have events : run.seen ++ [event] ++ run.runner.lifecycle.tail = eventsOf run.runner.history := by
    rw [List.append_assoc, List.singleton_append, ← lifecycle]
    exact exact.events
  have takenExact : taken.Exact := by
    subst takes
    refine { exact with
      sound := exact.sound.consume (List.tail_suffix _) (List.suffix_refl _) id id
      events := events
      opened := fun opened => List.mem_append_left _ (exact.opened opened)
      finished := ?_
      stored := exact.stored }
    intro finished
    obtain ⟨reported, opened⟩ := exact.finished finished
    exact ⟨List.mem_append_left _ reported, opened⟩
  have stage : taken.stage = .selecting := takes ▸ selecting
  have seen : event ∈ taken.seen := by
    subst takes
    exact List.mem_append_right _ (List.mem_singleton_self event)
  cases event with
  | started =>
      left
      -- A second `Started` would be one too many.
      have unopened : run.file = none := by
        cases file : run.file with
        | none => rfl
        | some file =>
            have once := exact.sound.ordered.started_once
            have earlier := List.count_pos_iff.mpr (exact.opened (.inl (by rw [file]; rfl)))
            rw [← events, List.count_append, List.count_append, List.count_singleton_self] at once
            omega
      have unopened : taken.file = none := takes ▸ unopened
      refine { takenExact with
        frames := ?_
        opened := fun _ => seen
        creating := fun _ => unopened
        unopened := ?_
        ended := by rintro (never | never) <;> cases never
        flushed := fun never => by cases never }
      · have frames := takenExact.frames
        rw [inHand, stage] at frames
        exact frames
      · intro none
        exact ⟨(takenExact.unopened none).1, rfl⟩
  | stopped reason =>
      cases file : taken.file with
      | none =>
          right
          simp only [SingletonRun.onLifecycle, file]
          exact failing_leave _ _
      | some file =>
          cases reason with
          | failed error =>
              right
              simp only [SingletonRun.onLifecycle, file, handleLifecycleEvent]
              exact failing_leave _ _
          | finished =>
              left
              have opened : taken.file.isSome = true := by rw [file]; rfl
              have stopped : Exact { taken with isFinished := true, runnerStopped := true } :=
                { takenExact with
                  finished := fun _ => ⟨seen, opened⟩
                  ended := fun _ => rfl }
              simp only [SingletonRun.onLifecycle, file, handleLifecycleEvent, if_true]
              rw [← file]
              split
              · exact stopped.leave stage rfl
              · exact stopped

/-- The data has ended. -/
theorem Exact.endData (exact : run.Exact) (selecting : run.stage = .selecting)
    : run.endData.Exact := by
  have ended : Exact { run with dataDone := true } := { exact with stored := exact.stored }
  unfold SingletonRun.endData
  split
  · rename_i stopped
    exact ended.leave selecting stopped
  · exact ended

/-- The lifecycle events have ended. -/
theorem Exact.endLifecycle (exact : run.Exact) (selecting : run.stage = .selecting)
    : run.endLifecycle.Exact ∨ run.endLifecycle.Failing := by
  have ended : Exact { run with lifecycleDone := true } := { exact with stored := exact.stored }
  unfold SingletonRun.endLifecycle
  dsimp only
  split
  · exact .inr (failing_leave _ _)
  · rename_i running
    have stopped : run.runnerStopped = true := by
      rwa [Bool.not_eq_true', Bool.not_eq_false] at running
    left
    split
    · exact ended.leave selecting stopped
    · exact ended

/-- The flush decides how the transfer returns. -/
theorem Exact.finish (exact : run.Exact) {flush : Except String Unit}
    (flushing : run.stage = .flushing (.ok ()))
    (stored
      : flush = .ok () → ∀ file ∈ run.file, file.buffered = [] ∧ file.failed = false)
    : (run.finish (.ok ()) flush).Exact ∨ (run.finish (.ok ()) flush).Failing := by
  cases flush with
  | error source => exact .inr ⟨_, .inr rfl⟩
  | ok done =>
      left
      have hand : run.inHand = [] := by rw [inHand, flushing]
      have stopped := exact.ended (.inl flushing)
      refine { exact with
        frames := ?_
        opened := fun _ => exact.opened (.inl (exact.finished (.inr stopped)).2)
        creating := fun never => by cases never
        unopened := ?_
        ended := fun _ => stopped
        flushed := fun _ => stored rfl }
      · have frames := exact.frames
        rw [hand] at frames
        exact frames
      · intro none
        exact ⟨(exact.unopened none).1, rfl⟩

/-- Storing leaves the stage as it is. -/
theorem store_stage (run : SingletonRun) (count : Nat) : (run.store count).stage = run.stage := by
  unfold SingletonRun.store
  split <;> rfl

variable {event : SingletonEvent} {after : SingletonRun}

/-- Every step of a transfer that has not failed keeps it exact, or fails it. -/
theorem Exact.next (exact : run.Exact) (step : (machine usizeSize).Step run event after)
    : after.Exact ∨ after.Failing := by
  have enabled := step.enabled
  have done := step.next
  cases event with
  | timer =>
      cases done
      left
      split
      · exact { exact with stored := exact.stored }
      · exact exact
  | turn sources =>
      obtain ⟨selecting, unsignalled, enabled⟩ := enabled
      obtain ⟨runner, turned, same⟩ := Checked.bind_eq_ok.mp done
      cases same
      exact .inl (exact.advance selecting (exact.sound.turn_advances unsignalled enabled turned))
  | ready =>
      obtain ⟨selecting, _, waits⟩ := enabled
      obtain ⟨runner, resumed, same⟩ := Checked.bind_eq_ok.mp done
      cases same
      exact .inl (exact.advance selecting (exact.sound.resume_advances waits resumed))
  | fut =>
      cases done
      exact .inl { exact with stored := exact.stored }
  | frame =>
      obtain ⟨⟨selecting, _⟩, _, opened, _⟩ := enabled
      obtain ⟨frame, expected, same⟩ := Checked.bind_eq_ok.mp done
      cases same
      exact .inl (exact.takeFrame selecting opened (Checked.expect_eq_ok.mp expected))
  | dataEnd =>
      cases done
      exact .inl (exact.endData enabled.1.1)
  | lifecycle =>
      obtain ⟨event, expected, same⟩ := Checked.bind_eq_ok.mp done
      cases same
      exact exact.onLifecycle enabled.1.1 (Checked.expect_eq_ok.mp expected) rfl
  | lifecycleEnd =>
      cases done
      exact exact.endLifecycle enabled.1.1
  | fileCreated outcome =>
      cases done
      cases outcome with
      | created => exact .inl (exact.created enabled.1)
      | createFailed source => exact .inr (failing_leave _ _)
      | allocateFailed source => exact .inr (failing_leave _ _)
  | frameWritten result =>
      obtain ⟨frame, writing⟩ := SingletonStage.isWriting_iff.mp enabled
      simp only [machine, SingletonRun.next, writing] at done
      cases done
      cases result with
      | ok done => exact .inl (exact.writeFrame writing)
      | error error => exact .inr (failing_leave _ _)
  | store count =>
      cases done
      obtain ⟨unreturned, file, isFile, unfailed, _, _⟩ := enabled
      exact .inl
        (exact.store isFile unfailed (SingletonStage.isReturned_eq_false_iff.mp unreturned))
  | fault =>
      cases done
      obtain ⟨unreturned, opened⟩ := enabled
      refine .inl { exact with
        opened := fun _ => exact.opened (.inl opened)
        creating := ?_
        unopened := ?_
        finished := ?_
        stored := ?_
        flushed := ?_ }
      · intro creating
        rw [exact.creating creating] at opened
        cases opened
      · intro none
        exact exact.unopened (Option.map_eq_none_iff.mp none)
      · intro reported
        exact ⟨(exact.finished reported).1, Option.isSome_map.trans opened⟩
      · intro file isFile unfailed
        obtain ⟨_, _, rfl⟩ := Option.map_eq_some_iff.mp isFile
        cases unfailed
      · intro returned
        exact absurd returned (SingletonStage.isReturned_eq_false_iff.mp unreturned _)
  | flushed flush =>
      have isFlushing : run.stage.isFlushing = true := by
        cases flush <;> exact enabled.1
      obtain ⟨transfer, flushing⟩ := SingletonStage.isFlushing_iff.mp isFlushing
      simp only [machine, SingletonRun.next, flushing] at done
      cases done
      cases transfer with
      | error error => exact .inr ⟨error, .inr rfl⟩
      | ok done =>
          refine exact.finish flushing ?_
          rintro rfl
          exact enabled.2

/-- A transfer that has failed stays failed. -/
theorem Failing.next (failing : run.Failing) (step : (machine usizeSize).Step run event after)
    : after.Failing := by
  obtain ⟨error, failing⟩ := failing
  have unselected : run.stage ≠ .selecting := by
    rintro selecting
    rcases failing with same | same <;> cases selecting.symm.trans same
  have enabled := step.enabled
  have done := step.next
  cases event with
  | timer => exact absurd enabled unselected
  | turn sources => exact absurd enabled.1 unselected
  | ready => exact absurd enabled.1 unselected
  | fut => exact absurd enabled.1 unselected
  | frame => exact absurd enabled.1.1 unselected
  | dataEnd => exact absurd enabled.1.1 unselected
  | lifecycle => exact absurd enabled.1.1 unselected
  | lifecycleEnd => exact absurd enabled.1.1 unselected
  | fileCreated outcome =>
      rcases failing with same | same <;> cases enabled.1.symm.trans same
  | frameWritten result =>
      obtain ⟨frame, writing⟩ := SingletonStage.isWriting_iff.mp enabled
      rcases failing with same | same <;> cases writing.symm.trans same
  | store count =>
      cases done
      exact ⟨error, by rw [store_stage]; exact failing⟩
  | fault =>
      cases done
      exact ⟨error, failing⟩
  | flushed flush =>
      have isFlushing : run.stage.isFlushing = true := by
        cases flush <;> exact enabled.1
      obtain ⟨transfer, flushing⟩ := SingletonStage.isFlushing_iff.mp isFlushing
      simp only [machine, SingletonRun.next, flushing] at done
      cases done
      rcases failing with same | same
      · cases flushing.symm.trans same
        exact ⟨error, .inr rfl⟩
      · cases flushing.symm.trans same

/-- Every reachable transfer is exact or has failed, by induction on the run. -/
theorem reachable_exact (reached : (machine usizeSize).Reachable run)
    : run.Exact ∨ run.Failing := by
  induction reached with
  | initial start =>
      obtain ⟨total, output, disk, rfl⟩ := start
      exact .inl (Exact.new total output disk)
  | step _ step kept =>
      rcases kept with exact | failing
      · exact exact.next step
      · exact .inr (failing.next step)

/-- A transfer over one connection that returns `Ok`: the runner reported that it finished,
every frame it pushed was written in order, none is left, and the file holds exactly these
frames, as many bytes as the total when it is known.
-/
theorem transfer_exact (reached : (machine usizeSize).Reachable run)
    (returned : run.stage = .returned (.ok ()))
    : run.seen = [.started, .stopped .finished]
      ∧ run.runner.history
        = .lifecycle .started :: run.written.map .data ++ [.lifecycle (.stopped .finished)]
      ∧ run.runner.data = []
      ∧ run.disk = some (bytesOf run.written)
      ∧ ∀ total, run.task.total = some total → (bytesOf run.written).length = total := by
  have exact : run.Exact := by
    rcases reachable_exact reached with exact | ⟨error, same | same⟩
    · exact exact
    · cases returned.symm.trans same
    · cases returned.symm.trans same
  obtain ⟨reported, opened⟩ := exact.finished (.inr (exact.ended (.inr returned)))
  have started := exact.opened (.inl opened)
  have inHistory {event : LifecycleEvent} (seen : event ∈ run.seen)
      : event ∈ eventsOf run.runner.history := by
    rw [← exact.events]
    exact List.mem_append_left _ seen
  obtain ⟨history, delivered, empty⟩ :=
    exact.sound.finished exact.dataHere (inHistory started) (inHistory reported)
  have hand : run.inHand = [] := by rw [inHand, returned]
  have written : run.written = framesOf run.runner.history := by
    have frames := exact.frames
    rwa [hand, empty, List.append_nil, List.append_nil] at frames
  have sized (total : Nat) (known : run.task.total = some total)
      : (bytesOf run.written).length = total := by
    have all := delivered
    rw [TaskRunner.Delivered, exact.total, known] at all
    rw [written]
    exact exact.sound.counted.symm.trans all
  have seen : run.seen = [.started, .stopped .finished] := by
    have events := exact.events
    rw [history, List.cons_append, eventsOf, List.filterMap_cons] at events
    have all : run.seen ++ run.runner.lifecycle = [.started, .stopped .finished] := by
      refine events.trans (congrArg (LifecycleEvent.started :: ·) ?_)
      refine (eventsOf_append _ _).trans ?_
      rw [RunnerRun.eventsOf_frames, eventsOf_lifecycle, List.nil_append]
    revert all started reported
    generalize run.seen = seen
    intro reported started all
    rcases seen with _ | ⟨first, _ | ⟨second, rest⟩⟩
    · cases started
    · obtain ⟨rfl, -⟩ := List.cons.inj all
      cases List.mem_singleton.mp reported
    · obtain ⟨isStarted, all⟩ := List.cons.inj all
      obtain ⟨isStopped, none⟩ := List.cons.inj all
      rw [isStarted, isStopped, (List.append_eq_nil_iff.mp none).1]
  refine ⟨seen, ?_, empty, ?_, sized⟩
  · rw [written]
    exact history
  · obtain ⟨file, isFile⟩ := Option.isSome_iff_exists.mp opened
    obtain ⟨flushed, unfailed⟩ := exact.flushed returned file isFile
    obtain ⟨stored, bytes, _, disk⟩ := exact.stored file isFile unfailed
    rw [flushed, List.append_nil] at bytes
    have filled : run.task.total.getD 0 - stored.length = 0 := by
      cases known : run.task.total with
      | none => exact Nat.zero_sub _
      | some total =>
          have length := sized total known
          rw [← bytes] at length
          rw [Option.getD_some, length, Nat.sub_self]
    rw [disk, filled, bytes, List.replicate_zero, List.append_nil]

/-- Three bytes in two frames, over an older file, stored in parts. -/
def twoFramesEvents : List SingletonEvent :=
  [.turn { connection := some (.ok ()) }, .turn { lifecycleReady := some true }, .lifecycle,
    .fileCreated .created, .ready, .turn { item := some (some (.ok [1, 2])) }, .timer,
    .turn { item := some none }, .turn { dataReady := some true }, .frame,
    .frameWritten (.ok ()), .store 1, .turn { drained := true },
    .turn { lifecycleReady := some true }, .fut, .dataEnd, .lifecycle, .store 1,
    .flushed (.ok ())]

/-- The whole of an older file is replaced. -/
theorem transfer_exact_replaces
    : ∃ run,
        (machine u64Size).execute (.new none (.new "file") (some [9, 9, 9])) twoFramesEvents
        = some run
        ∧ run.disk = some [1, 2] := by
  have ran
      : ((machine u64Size).execute (.new none (.new "file") (some [9, 9, 9])) twoFramesEvents).map
          (fun run => (run.stage, run.written))
        = some (.returned (.ok ()), [⟨[1, 2]⟩]) := rfl
  obtain ⟨run, executed, same⟩ := Option.map_eq_some_iff.mp ran
  obtain ⟨returned, written⟩ := Prod.mk.inj same
  have start : (machine u64Size).Reachable (.new none (.new "file") (some [9, 9, 9])) :=
    .initial ⟨_, _, _, rfl⟩
  obtain ⟨_, _, _, disk, _⟩ := transfer_exact (start.execute twoFramesEvents executed) returned
  refine ⟨run, executed, ?_⟩
  rw [disk, written]
  rfl

end SingletonRun

end BoltLoad
