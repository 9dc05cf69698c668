import BoltLoad.DownloadLoop.Completion
import BoltLoad.FileWriter.Accounting
import BoltLoad.RunnerManager.Writes

/-! A successful loop has written everything. The writer accepts every chunk the loop hands it;
when `finish` returns nothing is in flight; and then `Ok` means that every accepted chunk was
dispatched once and completed, and that these cover the file.
-/

namespace BoltLoad

/-- What is handed to the writer for an accepted chunk. -/
def DownloadedChunk.toWrite (chunk : DownloadedChunk) : Chunk := ⟨chunk.range, chunk.bytes⟩

namespace DownloadLoop

-----------------------------------------------------------------------------------------
-- Completions
-----------------------------------------------------------------------------------------

/-- A failed completion is an error, by induction on the completions. -/
theorem checkFrom_ok {completions : List WriteCompletion} {start written : Nat}
    (checked : checkFrom start completions = .ok (.ok written))
    : PendingWriter.completionsHaveError completions = false := by
  induction completions generalizing start with
  | nil => rfl
  | cons completion rest ih =>
      simp only [checkFrom] at checked
      cases succeeded : completion.result with
      | ok done =>
          rw [succeeded] at checked
          obtain ⟨length, -, later⟩ := Checked.bind_eq_ok.mp checked
          have unfailed : completion.failed = false := by
            simp [WriteCompletion.failed, succeeded]
          have restUnfailed := ih later
          simp only [PendingWriter.completionsHaveError] at restUnfailed ⊢
          rw [List.any_cons, unfailed, restUnfailed, Bool.or_false]
      | error error =>
          rw [succeeded] at checked
          cases checked

theorem checkCompletions_ok {completions : List WriteCompletion} {written : Nat}
    (checked : checkCompletions completions = .ok (.ok written))
    : PendingWriter.completionsHaveError completions = false :=
  checkFrom_ok checked

-----------------------------------------------------------------------------------------
-- Chunks
-----------------------------------------------------------------------------------------

variable {loop next : DownloadLoop} {accepted : List Chunk} {reported : List WriteCompletion}

/-- Looking at a failure leaves the writer as it is. -/
theorem afterChunk_writer (loop : DownloadLoop) (tick : RunnerTick)
    : (loop.afterChunk tick).2.writer = loop.writer := by
  obtain ⟨policy, same⟩ := afterChunk_frame loop tick
  rw [same]

/-- The loop only goes on or ends well as the tick says. -/
theorem afterChunk_breaks {tick : RunnerTick}
    (breaks : (loop.afterChunk tick).1 = .ok .breaks)
    : tick.state = .finished := by
  have flows (same : (Except.ok (flow tick) : Except DownloadError ControlFlow) = .ok .breaks)
      : tick.state = .finished := by
    by_contra unfinished
    have never := Except.ok.inj same
    rw [flow, if_neg unfinished] at never
    cases never
  unfold afterChunk at breaks
  split at breaks
  · exact flows breaks
  · split at breaks
    · cases breaks
    · exact flows breaks

/-- Handling a tick writes its chunk, if the writer has room for it; and breaks only on a
finished task.
-/
theorem onRunner_writes {tick : RunnerTick} {now : Instant} {immediate : Immediate}
    {result : Except DownloadError ControlFlow}
    (sound : loop.writer.Sound accepted reported)
    (room : tick.downloaded.isSome = true → loop.writer.canWrite = true)
    (handled : loop.onRunner tick now immediate = .ok (result, next))
    : next.writer.Sound (accepted ++ (tick.downloaded.map DownloadedChunk.toWrite).toList) reported
      ∧ (result = .ok .breaks → tick.state = .finished) := by
  unfold onRunner at handled
  cases downloaded : tick.downloaded with
  | none =>
      rw [downloaded] at handled
      have same : loop.afterChunk tick = (result, next) := Except.ok.inj handled
      have kept : next.writer = loop.writer := by
        have unchanged := afterChunk_writer loop tick
        rw [same] at unchanged
        exact unchanged
      have breaks : result = .ok .breaks → tick.state = .finished := by
        intro ends
        have breaks : (loop.afterChunk tick).1 = .ok .breaks := by rw [same, ends]
        exact afterChunk_breaks breaks
      refine ⟨?_, breaks⟩
      simpa [kept] using sound
  | some chunk =>
      rw [downloaded] at handled room
      obtain ⟨⟨accepts, written⟩, acceptance, rest⟩ := Checked.bind_eq_ok.mp handled
      obtain ⟨⟨status, writer⟩, writes, same⟩ := Checked.bind_eq_ok.mp acceptance
      obtain ⟨answer, after, wrote, fits, kept, -⟩ :=
        sound.writeRange chunk.range chunk.bytes immediate
      cases writes.symm.trans wrote
      obtain ⟨status, rfl⟩ := fits.mpr (room rfl)
      cases same
      have same : afterChunk _ tick = (result, next) := Except.ok.inj rest
      have unchanged := congrArg (fun pair => pair.2.writer) same
      rw [afterChunk_writer] at unchanged
      refine ⟨?_, ?_⟩
      · rw [← show writer = next.writer from unchanged]
        exact kept (room rfl)
      · intro ends
        subst ends
        exact afterChunk_breaks (congrArg Prod.fst same)

end DownloadLoop

-----------------------------------------------------------------------------------------
-- The accounts of an attempt
-----------------------------------------------------------------------------------------

namespace LoopStage

/-- The progress of an attempt that goes well once `run` returned. -/
def succeeded : LoopStage → Option Progress
  | joining (.ok ()) progress => some progress
  | flushing (.ok ()) progress _ => some progress
  | finished (.ok ()) progress => some progress
  | _ => none

/-- What the flush took so far, and has not checked yet. -/
def unchecked : LoopStage → List WriteCompletion
  | flushing _ _ completions => completions
  | _ => []

end LoopStage

/-- A poll that finds data was allowed to. -/
theorem RunnerManager.selected_data {manager : RunnerManager} {dataEnabled : Bool}
    {lifecycle : Option LifecycleStreamEvent} {data : Option DataStreamEvent}
    {event : DataStreamEvent}
    (selects : manager.selected dataEnabled lifecycle data = some (.data event))
    : dataEnabled = true := by
  unfold selected at selects
  split at selects
  · cases selects
  · cases selects
  · split at selects
    · assumption
    · cases selects

/-- Only a poll that was allowed to find data carries any. -/
theorem RunnerManager.Handled.room {manager after : RunnerManager} {cause : Cause}
    {tick : RunnerTick} (handled : manager.Handled cause tick after) {dataEnabled : Bool}
    {lifecycle : Option LifecycleStreamEvent} {data : Option DataStreamEvent}
    (selects : manager.selected dataEnabled lifecycle data = some cause)
    (downloaded : tick.downloaded.isSome = true)
    : dataEnabled = true := by
  cases handled with
  | data owned running => exact RunnerManager.selected_data selects
  | rejected | unconnected | failed =>
      simp only [RunnerManager.attemptTick_downloaded] at downloaded
      cases downloaded
  | completed | lost =>
      rw [RunnerManager.report_downloaded _ rfl] at downloaded
      cases downloaded
  | started | dataClosed => cases downloaded

namespace LoopRun

open DownloadLoop

variable {usizeSize : Nat} {run after : LoopRun}

/-- What the planner accepted, as it is handed to the writer. -/
def accepted (run : LoopRun) : List Chunk :=
  run.transfer.managed.written.map DownloadedChunk.toWrite

/-- The accounts of an attempt. -/
structure Accounted (run : LoopRun) : Prop where
  writer : run.loop.writer.Sound run.accepted run.reported
  /-- An error ends the loop, or is still to be found by the flush's check. -/
  unfailed
    : run.stage = .running ∨ run.stage.succeeded.isSome = true
      → PendingWriter.completionsHaveError run.reported = true
      → PendingWriter.completionsHaveError run.stage.unchecked = true
  completed
    : ∀ progress,
        run.stage.succeeded = some progress
        → run.loop.manager.chunkPlanner.isComplete = true ∧ progress = run.loop.progress
  ended : ∀ result progress, run.stage = .finished result progress → run.loop.writer.inFlight = 0

/-- A turn that took no completion, and handed its chunk to the writer, keeps the accounts. -/
theorem Accounted.stepped {loop : DownloadLoop} {result : Except DownloadError ControlFlow}
    (accounted : run.Accounted) (running : run.stage = .running)
    (writer
      : loop.writer.Sound
          (loop.transfer.managed.written.map DownloadedChunk.toWrite) run.reported)
    (breaks : result = .ok .breaks → loop.manager.chunkPlanner.isComplete = true)
    : Accounted { run with loop, stage := stageAfter loop result } := by
  have clean := accounted.unfailed (Or.inl running)
  rw [running] at clean
  cases result with
  | error error =>
      refine ⟨writer, (fun goes => ?_), (fun progress never => ?_), (fun _ _ never => ?_)⟩
      · rcases goes with never | never <;> cases never
      · cases never
      · cases never
  | ok flow =>
      cases flow with
      | continues =>
          refine ⟨writer, fun _ => clean, (fun progress never => ?_), (fun _ _ never => ?_)⟩
          · cases never
          · cases never
      | breaks =>
          refine ⟨writer, fun _ => clean, (fun progress succeeds => ?_), (fun _ _ never => ?_)⟩
          · cases succeeds
            exact ⟨breaks rfl, rfl⟩
          · cases never

/-- The loop's own calls hand out nothing to write. -/
theorem kept_written (written : List DownloadedChunk)
    : Transfer.Kept (fun transfer => transfer.managed.written = written) where
  spawn := by
    intro transfer after range outcome before spawns
    obtain ⟨⟨result, managed⟩, spawned, same⟩ := Checked.bind_eq_ok.mp spawns
    cases same
    obtain ⟨manager, -, same⟩ := Checked.bind_eq_ok.mp spawned
    cases same
    exact before
  resize := by
    intro transfer after runnerId newSize before resizes
    obtain ⟨⟨result, sent, managed⟩, resized, same⟩ := Checked.bind_eq_ok.mp resizes
    cases same
    obtain ⟨manager, -, same⟩ := Checked.bind_eq_ok.mp resized
    cases same
    exact before
  observeOutcomes sampler before := before
  takeMetersSnapshot before := before

/-- The strategies leave the writer as it is. -/
theorem onStrategyTick_writer {loop next : DownloadLoop} {clock : StepClock}
    {outcome : Range → Except SpawnFailed Unit}
    (ticks : loop.onStrategyTick clock outcome = .ok next)
    : next.writer = loop.writer := by
  obtain ⟨transfer, strategy, maxConcurrency, same⟩ := onStrategyTick_frame ticks
  rw [same]

/-- Every turn keeps the accounts. -/
theorem Accounted.turned {sources : LoopSources} (accounted : run.Accounted)
    (reached : (Transfer.machine usizeSize).Reachable run.transfer)
    (enabled : run.Enabled (.poll sources)) (turned : run.Turned sources after)
    : after.Accounted := by
  obtain ⟨running, -, offers⟩ := enabled
  have transferSound := Transfer.reachable_sound reached
  cases turned with
  | cancelled => exact accounted.stepped running accounted.writer (fun never => by cases never)
  | deadline =>
      refine accounted.stepped running ?_ ?_
      · unfold onDeadline
        split <;> exact accounted.writer
      · unfold onDeadline
        split <;> (intro never; cases never)
  | @written completions writer result loop polled recorded =>
      obtain ⟨checked, checks, same⟩ := Checked.bind_eq_ok.mp recorded
      obtain ⟨found, next, polls, sound, -⟩ :=
        accounted.writer.pollCompletions sources.immediate
      cases polled.symm.trans polls
      have before := accounted.unfailed (Or.inl running)
      rw [running] at before
      cases checked with
      | error error =>
          cases same
          refine ⟨sound, (fun goes => ?_), (fun progress never => ?_), (fun _ _ never => ?_)⟩
          · rcases goes with never | never <;> cases never
          · cases never
          · cases never
      | ok written =>
          cases same
          refine ⟨sound, fun _ failed => ?_, (fun progress never => ?_), (fun _ _ never => ?_)⟩
          · rw [PendingWriter.completionsHaveError_append, checkCompletions_ok checks,
              Bool.or_false] at failed
            exact before failed
          · cases never
          · cases never
  | @strategy loop ticked =>
      have written := kept_onStrategyTick (kept_written run.transfer.managed.written) rfl ticked
      have sound
          : loop.writer.Sound (loop.transfer.managed.written.map DownloadedChunk.toWrite)
              run.reported := by
        rw [onStrategyTick_writer ticked, written]
        exact accounted.writer
      have goes (never : (.ok .continues : Except DownloadError ControlFlow) = .ok .breaks)
          : loop.manager.chunkPlanner.isComplete = true := by
        cases never
      exact accounted.stepped running sound goes
  | sampled =>
      have goes (never : (.ok .continues : Except DownloadError ControlFlow) = .ok .breaks)
          : (run.loop.onThroughputTick sources.speed).manager.chunkPlanner.isComplete = true := by
        cases never
      have sound
          : (run.loop.onThroughputTick sources.speed).writer.Sound
              ((run.loop.onThroughputTick sources.speed).transfer.managed.written.map
                DownloadedChunk.toWrite)
              run.reported :=
        accounted.writer
      exact accounted.stepped running sound goes
  | @idle transfer reaches ticked =>
      rcases transferSound.afterTick sources.now offers with ⟨tick, after, ticks, -, outcome⟩ | early
      · cases ticks.symm.trans ticked
        have written : transfer.managed.written = run.transfer.managed.written := by
          generalize transfer.managed = managed at outcome
          cases outcome with
          | idle nothing => rfl
        refine ⟨?_, accounted.unfailed, ?_, accounted.ended⟩
        · simp only [accepted, LoopRun.transfer, written]
          exact accounted.writer
        · intro progress never
          rw [running] at never
          cases never
      · cases early.symm.trans ticked
  | @runner tick transfer result loop reaches ticked handled =>
      rcases transferSound.afterTick sources.now offers with ⟨tick, after, ticks, -, outcome⟩ | early
      · cases ticks.symm.trans ticked
        have kept := onRunner_transfer handled
        have facts
            : transfer.managed.written = run.transfer.managed.written ++ tick.downloaded.toList
              ∧ (tick.downloaded.isSome = true → run.loop.writer.canWrite = true)
              ∧ (tick.state = .finished
                → transfer.managed.manager.chunkPlanner.isComplete = true) := by
          generalize transfer.managed = managed at outcome
          cases outcome with
          | handled selects offered handled =>
              exact ⟨rfl, handled.room selects,
                fun finished => (RunnerManager.handled_finished handled finished).2⟩
        obtain ⟨written, room, completes⟩ := facts
        have before
            : ({ run.loop with transfer } : DownloadLoop).writer.Sound run.accepted run.reported :=
          accounted.writer
        obtain ⟨sound, breaks⟩ := onRunner_writes before room handled
        refine accounted.stepped running ?_ ?_
        · have listed
              : (tick.downloaded.map DownloadedChunk.toWrite).toList
                = tick.downloaded.toList.map DownloadedChunk.toWrite := by
            cases tick.downloaded <;> rfl
          rw [kept, written, List.map_append, ← listed]
          exact sound
        · intro ends
          simp only [manager, kept]
          exact completes (breaks ends)
      · cases early.symm.trans ticked

/-- Beginning the flush takes the completions already there. -/
theorem Accounted.joined {result : Except DownloadError Unit} {progress : Progress}
    {immediate : Immediate} (accounted : run.Accounted)
    (joining : run.stage = .joining result progress)
    (joins : run.join result progress immediate = .ok after)
    : after.Accounted := by
  obtain ⟨⟨completions, writer⟩, ticks, same⟩ := Checked.bind_eq_ok.mp joins
  obtain ⟨next, ticked, sound, -⟩ := accounted.writer.tryTick immediate
  cases ticks.symm.trans ticked
  cases same
  have clean := accounted.unfailed
  have completed := accounted.completed
  rw [joining] at clean completed
  refine ⟨sound, (fun goes failed => ?_), (fun other succeeds => ?_), (fun _ _ never => ?_)⟩
  · rcases goes with never | goes
    · cases never
    · rw [PendingWriter.completionsHaveError_append, Bool.or_eq_true] at failed
      rcases failed with before | failed
      · refine absurd (clean (Or.inr ?_) before) (by simp [LoopStage.unchecked,
          PendingWriter.completionsHaveError])
        cases result with
        | ok done => rfl
        | error error => cases goes
      · exact failed
  · refine completed other ?_
    cases result with
    | ok done => exact succeeds
    | error error => cases succeeds
  · cases never

/-- A turn of the flush takes more of them, or checks them all. -/
theorem Accounted.flushed {result : Except DownloadError Unit} {progress : Progress}
    {completions : List WriteCompletion} {immediate : Immediate} (accounted : run.Accounted)
    (flushing : run.stage = .flushing result progress completions)
    (flushes : run.flushStep result progress completions immediate = .ok after)
    : after.Accounted := by
  obtain ⟨⟨polled, writer⟩, steps, rest⟩ := Checked.bind_eq_ok.mp flushes
  have clean := accounted.unfailed
  have completed := accounted.completed
  rw [flushing] at clean completed
  unfold PendingWriter.flushStep at steps
  split at steps
  · rename_i busy
    obtain ⟨⟨taken, next⟩, polls, same⟩ := Checked.bind_eq_ok.mp steps
    obtain ⟨found, other, polled, sound, -⟩ := accounted.writer.pollCompletions immediate
    cases polls.symm.trans polled
    cases same
    cases rest
    refine ⟨sound, (fun goes failed => ?_), (fun other succeeds => ?_), (fun _ _ never => ?_)⟩
    · rcases goes with never | goes
      · cases never
      · rw [PendingWriter.completionsHaveError_append, Bool.or_eq_true] at failed
        simp only [LoopStage.unchecked, PendingWriter.completionsHaveError_append, Bool.or_eq_true]
        refine failed.imp_left (clean (Or.inr ?_))
        cases result with
        | ok done => rfl
        | error error => cases goes
    · refine completed other ?_
      cases result with
      | ok done => exact succeeds
      | error error => cases succeeds
    · cases never
  · rename_i idle
    cases steps
    obtain ⟨checked, checks, same⟩ := Checked.bind_eq_ok.mp rest
    cases same
    refine ⟨accounted.writer, (fun goes failed => ?_), (fun other succeeds => ?_),
      (fun _ _ _ => ?_)⟩
    · rcases goes with never | goes
      · cases never
      · cases result with
        | error error => cases goes
        | ok done =>
            cases checked with
            | error error => cases goes
            | ok written =>
                have never := clean (Or.inr rfl) failed
                simp only [LoopStage.unchecked, checkCompletions_ok checks] at never
                cases never
    · cases result with
      | error error => cases succeeds
      | ok done =>
          cases checked with
          | error error => cases succeeds
          | ok written =>
              obtain ⟨complete, same⟩ := completed progress rfl
              cases succeeds
              exact ⟨complete, same⟩
    · exact Nat.eq_zero_of_not_pos idle

/-- Every state of an attempt accounts for its writes, by induction on the run. -/
theorem reachable_accounted (reached : (machine usizeSize).Reachable run) : run.Accounted := by
  induction reached with
  | initial start =>
      obtain ⟨total, maxConcurrency, options, now, -, -, same⟩ := start
      subst same
      refine ⟨.new maxConcurrency, (fun _ failed => failed), (fun _ never => ?_),
        (fun _ _ never => ?_)⟩
      · cases never
      · cases never
  | @step before event after earlier step ih =>
      have next := step.next
      have enabled := step.enabled
      have reached := reachable_transfer earlier
      cases event with
      | poll sources => exact ih.turned reached enabled (poll_turned next)
      | turn port sources =>
          obtain ⟨transfer, turned, same⟩ := Checked.bind_eq_ok.mp next
          cases same
          obtain ⟨inst, effect, run, -, turns, -⟩ :=
            (Transfer.reachable_sound reached).turns usizeSize enabled.2
          cases turns.symm.trans turned
          exact ⟨ih.writer, ih.unfailed, ih.completed, ih.ended⟩
      | vanish port =>
          obtain ⟨transfer, vanished, same⟩ := Checked.bind_eq_ok.mp next
          cases same
          cases vanished
          exact ⟨ih.writer, ih.unfailed, ih.completed, ih.ended⟩
      | complete index result =>
          obtain ⟨writer, completes, same⟩ := Checked.bind_eq_ok.mp next
          obtain ⟨other, completed, sound, inFlight, -⟩ := ih.writer.complete enabled result
          cases completes.symm.trans completed
          cases same
          refine ⟨sound, ih.unfailed, ih.completed, ?_⟩
          intro ended progress finished
          exact inFlight.trans (ih.ended ended progress finished)
      | join immediate =>
          obtain ⟨result, progress, joining⟩ := LoopStage.isJoining_iff.mp enabled
          simp only [machine, LoopRun.next, joining] at next
          exact ih.joined joining next
      | flushStep immediate =>
          obtain ⟨result, progress, completions, flushing⟩ :=
            LoopStage.isFlushing_iff.mp enabled
          simp only [machine, LoopRun.next, flushing] at next
          exact ih.flushed flushing next

/-- A turn that comes to the runners found nothing to change before them. -/
theorem pollEvent_runner {loop next : DownloadLoop} {sources : LoopSources} {tick : RunnerTick}
    (polled : loop.pollEvent sources = .ok (some (.runner tick), next))
    : ∃ transfer,
        loop.transfer.tick sources.now loop.writer.canWrite sources.lifecycle sources.data
          = .ok (some tick, transfer)
        ∧ next = { loop with transfer } := by
  unfold pollEvent at polled
  split at polled
  · cases polled
  split at polled
  · cases polled
  obtain ⟨⟨taken, writer⟩, flushed, found⟩ := Checked.bind_eq_ok.mp polled
  cases taken with
  | some completions => cases found
  | none =>
      obtain ⟨kept, -⟩ := PendingWriter.pollCompletions_none flushed
      subst kept
      dsimp only at found
      split at found
      · cases found
      split at found
      · cases found
      · obtain ⟨⟨some_tick, transfer⟩, ticked, same⟩ := Checked.bind_eq_ok.mp found
        cases some_tick with
        | none => cases same
        | some other =>
            cases same
            exact ⟨transfer, ticked, rfl⟩

/-- A tick hands out a chunk only where the loop allowed data. -/
theorem tick_room {transfer after : Transfer} {now : Instant} {dataEnabled : Bool}
    {lifecycle : Option LifecycleStreamEvent} {data : Option DataStreamEvent}
    {tick : RunnerTick} (sound : transfer.Sound)
    (enabled : transfer.Enabled (.tick now dataEnabled lifecycle data))
    (ticks : transfer.tick now dataEnabled lifecycle data = .ok (some tick, after))
    (downloaded : tick.downloaded.isSome = true)
    : dataEnabled = true := by
  rcases sound.afterTick now enabled with ⟨some_tick, other, ticked, -, outcome⟩ | early
  · cases ticks.symm.trans ticked
    generalize after.managed = managed at outcome
    cases outcome with
    | handled selects offered handled => exact handled.room selects downloaded
  · cases early.symm.trans ticks

/-- Completions that are all well are determined by their ranges. -/
theorem eq_map_ok_of_unfailed {completions : List WriteCompletion}
    (unfailed : PendingWriter.completionsHaveError completions = false)
    : completions = (completions.map WriteCompletion.range).map (fun range => ⟨range, .ok ()⟩) := by
  simp only [PendingWriter.completionsHaveError, List.any_eq_false, Bool.not_eq_true] at unfailed
  rw [List.map_map]
  refine (List.map_id completions).symm.trans (List.map_congr_left (fun completion member => ?_))
  have well := unfailed completion member
  cases completion with
  | mk range result =>
      cases result with
      | ok done => rfl
      | error error => cases well

/-- For every run of the loop and of `finish`: the writer accepts every chunk a turn hands it; once
`finish` returned, every dispatched write was reported exactly once; if it returned `Ok`, every
chunk the planner accepted was dispatched exactly once and completed, these cover the file, and
the progress is the whole file; and if any reported write failed, it returned an error.
-/
theorem success_written (reached : (machine usizeSize).Reachable run)
    : (∀ sources tick loop,
        run.Enabled (.poll sources)
        → run.loop.pollEvent sources = .ok (some (.runner tick), loop)
        → ∀ chunk ∈ tick.downloaded,
          ∃ status writer,
            loop.writer.writeRange chunk.range chunk.bytes sources.immediate
            = .ok (.ok status, writer))
      ∧ (∀ result progress,
        run.stage = .finished result progress
        → (run.loop.writer.dispatched.map Chunk.range).Perm
            (run.reported.map WriteCompletion.range))
      ∧ (∀ progress,
        run.stage = .finished (.ok ()) progress
        → run.loop.writer.dispatched.Perm run.accepted
          ∧ run.reported.Perm
            (run.accepted.map (fun chunk => ⟨chunk.range, .ok ()⟩))
          ∧ (∀ point < run.loop.manager.chunkPlanner.total,
            ∃ completion ∈ run.reported, point ∈ completion.range)
          ∧ progress
            = ⟨some run.loop.manager.chunkPlanner.total, run.loop.manager.chunkPlanner.total,
                [⟨0, run.loop.manager.chunkPlanner.total⟩]⟩)
      ∧ ∀ result progress completion,
        run.stage = .finished result progress
        → completion ∈ run.reported
        → completion.failed = true
        → ∃ error, result = .error error := by
  have accounted := reachable_accounted reached
  have transferReached := reachable_transfer reached
  have transferSound := Transfer.reachable_sound transferReached
  have idle {result : Except DownloadError Unit} {progress : Progress}
      (finished : run.stage = .finished result progress) :=
    accounted.writer.idle (accounted.ended result progress finished)
  have reports {result : Except DownloadError Unit} {progress : Progress}
      (finished : run.stage = .finished result progress)
      : (run.loop.writer.dispatched.map Chunk.range).Perm
          (run.reported.map WriteCompletion.range) := by
    obtain ⟨empty, none_left, -⟩ := idle finished
    have completes := accounted.writer.completes
    rw [empty, none_left] at completes
    simpa using completes
  have unfailed {progress : Progress} (finished : run.stage = .finished (.ok ()) progress)
      : PendingWriter.completionsHaveError run.reported = false := by
    have clean := accounted.unfailed
    rw [finished] at clean
    exact eq_false_of_ne_true (fun failed => by cases clean (Or.inr rfl) failed)
  refine ⟨?_, fun result progress finished => reports finished, ?_, ?_⟩
  · intro sources tick loop enabled polled chunk downloaded
    obtain ⟨transfer, ticked, same⟩ := pollEvent_runner polled
    have room := tick_room transferSound enabled.2.2 ticked (Option.isSome_of_mem downloaded)
    obtain ⟨answer, after, wrote, fits, -, -⟩ :=
      accounted.writer.writeRange chunk.range chunk.bytes sources.immediate
    obtain ⟨status, rfl⟩ := fits.mpr room
    subst same
    exact ⟨status, after, wrote⟩
  · intro progress finished
    have clean := unfailed finished
    obtain ⟨-, -, none_pending⟩ := idle finished
    have handed := accounted.writer.handed
    rw [none_pending (accounted.writer.errors.trans clean)] at handed
    simp only [Option.map_none, Option.toList_none, List.append_nil] at handed
    have ranges
        : (run.reported.map WriteCompletion.range).Perm (run.accepted.map Chunk.range) :=
      (reports finished).symm.trans (handed.symm.map Chunk.range)
    have completed := ranges.map (fun range => (⟨range, .ok ()⟩ : WriteCompletion))
    rw [← eq_map_ok_of_unfailed clean, List.map_map] at completed
    have joint := transferSound.run.joint
    have full := Transfer.reachable_full transferReached
    obtain ⟨complete, recorded⟩ := accounted.completed progress (by rw [finished]; rfl)
    refine ⟨handed.symm, completed, ?_, ?_⟩
    · intro point inside
      have covered := joint.planner.covered_of_complete complete full inside
      obtain ⟨chunk, written, holds⟩ :=
        ((ManagerRun.reachable_writesSound transferSound.managed).covers point).mp covered
      have member : chunk.range ∈ run.reported.map WriteCompletion.range :=
        ranges.symm.subset (List.mem_map_of_mem (List.mem_map_of_mem written))
      obtain ⟨completion, reported, same⟩ := List.mem_map.mp member
      exact ⟨completion, reported, same ▸ holds⟩
    · rw [recorded]
      simp only [DownloadLoop.progress, Progress.mk.injEq, true_and]
      exact ⟨joint.planner.getTotalDownloaded_of_complete complete full,
        joint.planner.getDownloadedRanges_of_complete complete full⟩
  · intro result progress completion finished member failed
    cases result with
    | error error => exact ⟨error, rfl⟩
    | ok done =>
        have clean := unfailed finished
        simp only [PendingWriter.completionsHaveError, List.any_eq_false] at clean
        exact absurd failed (clean completion member)

/-- The write of ten bytes ends after the loop did, and the flush takes its completion. -/
def flushesEvents : List LoopRunEvent :=
  finishesEvents ++ [.complete 0 (.ok ()), .join none, .flushStep none]

theorem success_written_flushes
    : ∃ run,
        (machine u64Size).execute tenBytes flushesEvents = some run
        ∧ run.stage = .finished (.ok ()) ⟨some 10, 10, [⟨0, 10⟩]⟩
        ∧ run.accepted = [⟨⟨0, 10⟩, [0, 1, 2, 3, 4, 5, 6, 7, 8, 9]⟩]
        ∧ run.loop.writer.dispatched.Perm run.accepted
        ∧ run.reported.Perm [⟨⟨0, 10⟩, .ok ()⟩] := by
  have seen
      : ((machine u64Size).execute tenBytes flushesEvents).map
          (fun run => (run.stage, run.accepted))
        = some
            (.finished (.ok ()) ⟨some 10, 10, [⟨0, 10⟩]⟩,
              [⟨⟨0, 10⟩, [0, 1, 2, 3, 4, 5, 6, 7, 8, 9]⟩]) := rfl
  obtain ⟨run, executed, fields⟩ := Option.map_eq_some_iff.mp seen
  obtain ⟨stage, accepted⟩ := Prod.mk.inj fields
  have start : (machine u64Size).Reachable tenBytes :=
    .initial ⟨10, 1, _, 0, by decide, by decide, rfl⟩
  obtain ⟨-, -, succeeds, -⟩ := success_written (start.execute flushesEvents executed)
  obtain ⟨dispatched, reported, -⟩ := succeeds _ stage
  rw [accepted] at reported
  exact ⟨run, executed, stage, accepted, dispatched, reported⟩

end LoopRun

end BoltLoad
