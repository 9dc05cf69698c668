import BoltLoad.FileWriter.Queue

/-! What each event does to the queue of a backend, with the branch of the code it takes. -/

namespace BoltLoad.WriterQueue

variable {Worker : Type} {queue after : WriterQueue Worker}

theorem trySend_closed
    : queue.trySend = .closed ↔ queue.closed = true := by
  unfold trySend
  split
  · rename_i closed
    exact iff_of_true rfl closed
  · rename_i opened
    refine iff_of_false ?_ opened
    split <;> exact fun never => by cases never

theorem trySend_sent
    : queue.trySend = .sent ↔ queue.closed = false ∧ queue.commands.length < queue.room := by
  unfold trySend
  cases queue.closed with
  | true => simp
  | false =>
      simp only [Bool.false_eq_true, if_false, true_and]
      split
      · rename_i room
        exact iff_of_true rfl room
      · rename_i full
        exact iff_of_false (fun never => by cases never) full

theorem executes_iff {phase : WorkerPhase}
    : phase.executes = true ↔ ∃ chunk reply, phase = .executing chunk reply := by
  cases phase <;> simp [WorkerPhase.executes]

theorem acknowledges_iff {phase : WorkerPhase}
    : phase.acknowledges = true ↔ ∃ ack, phase = .acking ack := by
  cases phase <;> simp [WorkerPhase.acknowledges]

/-- What the writer's owner does between the commands. -/
inductive OwnerMoves (queue : WriterQueue Worker)
    : QueueEvent Worker → FinalizePhase → Bool → Bool → Prop
  | unshared (was : queue.shared = true)
    : OwnerMoves queue .unshare queue.finalizer queue.closed false
  | finalizes (idle : queue.finalizer = .idle)
    : OwnerMoves queue .finalize .unwrapping queue.closed queue.shared
  | unwraps {synced} (unwrapping : queue.finalizer = .unwrapping) (owned : queue.Owned)
    : OwnerMoves queue (.finalizeStep synced) .sending queue.closed queue.shared
  | refused {synced} (sending : queue.finalizer = .sending) (closed : queue.trySend = .closed)
    : OwnerMoves queue (.finalizeStep synced) (.dropping (.error (finalizeError queue.path)))
        queue.closed queue.shared
  | answered {synced ack told result} (awaiting : queue.finalizer = .awaiting ack)
    (answer : queue.answer ack = some told) (succeeds : result = .ok () → told = .acked (.ok ()))
    : OwnerMoves queue (.finalizeStep synced) (.dropping result) queue.closed queue.shared
  | senderDropped {synced result} (dropping : queue.finalizer = .dropping result)
    : OwnerMoves queue (.finalizeStep synced) (.joining result) true queue.shared
  | joined {synced result} (joining : queue.finalizer = .joining result)
    (gone : ∀ worker, queue.workers worker = .gone)
    : OwnerMoves queue (.finalizeStep synced) (.syncing result) queue.closed queue.shared
  | joinedMapped {synced result} (joining : queue.finalizer = .joining result)
    (gone : ∀ worker, queue.workers worker = .gone)
    : OwnerMoves queue (.finalizeStep synced) (.returned result) queue.closed queue.shared
  | synced {synced result} (syncing : queue.finalizer = .syncing result)
    : OwnerMoves queue (.finalizeStep synced) (.returned (syncedResult result synced queue.path))
        queue.closed queue.shared
  | abandons (droppable : queue.finalizer.droppable = true)
    : OwnerMoves queue .abandon .abandoned queue.closed queue.shared
  | released {synced} (abandoned : queue.finalizer = .abandoned) (owned : queue.Owned)
    : OwnerMoves queue (.finalizeStep synced) .dropped true queue.shared

/-- What an event does, in each branch of the code. -/
inductive Moves [DecidableEq Worker] (queue : WriterQueue Worker)
    : QueueEvent Worker → WriterQueue Worker → Prop
  | submitted {chunk spawns} (shared : queue.shared = true) (sent : queue.trySend = .sent)
    : Moves queue (.submit chunk spawns)
        ((queue.reply (some chunk)).push
          (.write chunk (.completion (.new queue.nextAck chunk))))
  | spawned {chunk} (shared : queue.shared = true) (full : queue.trySend = .full)
    : Moves queue (.submit chunk true)
        { queue.reply (some chunk) with
          tasks := queue.tasks ++ [(chunk, .new queue.nextAck chunk)] }
  | rejected {chunk} (shared : queue.shared = true) (full : queue.trySend = .full)
    : Moves queue (.submit chunk false)
        ((queue.reply (some chunk)).report (CompletionGuard.new queue.nextAck chunk).drop)
  | refused {chunk spawns reports} (shared : queue.shared = true)
    (closed : queue.trySend = .closed)
    (completes
      : (CompletionGuard.new queue.nextAck chunk).complete (.error queueClosed) queue.path
        = .ok reports)
    : Moves queue (.submit chunk spawns) ((queue.reply (some chunk)).report reports)
  | taskSent {index chunk done} (is : queue.tasks[index]? = some (chunk, done))
    (sent : queue.trySend = .sent)
    : Moves queue (.pollTask index)
        ({ queue with tasks := queue.tasks.eraseIdx index }.push
          (.write chunk (.completion done)))
  | taskRefused {index chunk done reports} (is : queue.tasks[index]? = some (chunk, done))
    (closed : queue.trySend = .closed)
    (completes : done.complete (.error queueClosed) queue.path = .ok reports)
    : Moves queue (.pollTask index)
        ({ queue with tasks := queue.tasks.eraseIdx index }.report reports)
  | taskDropped {index chunk done} (is : queue.tasks[index]? = some (chunk, done))
    : Moves queue (.dropTask index)
        ({ queue with tasks := queue.tasks.eraseIdx index }.report done.drop)
  | called {chunk} (shared : queue.shared = true)
    : Moves queue (.writeRange chunk)
        { queue.reply (some chunk) with
          calls := queue.calls ++ [⟨queue.nextAck, chunk, false⟩] }
  | callSent {index call} (is : queue.calls[index]? = some call) (unsent : call.sent = false)
    (sent : queue.trySend = .sent)
    : Moves queue (.pollCall index)
        ({ queue with calls := queue.calls.set index { call with sent := true } }.push
          (.write call.chunk (.awaited call.ack)))
  | callRefused {index call} (is : queue.calls[index]? = some call) (unsent : call.sent = false)
    (closed : queue.trySend = .closed)
    : Moves queue (.pollCall index)
        ((queue.report (WriteReply.awaited call.ack).drop).returns index call
          (.error (writeRangeError call.chunk queue.path)))
  | callReturned {index call told result} (is : queue.calls[index]? = some call)
    (sent : call.sent = true) (answer : queue.answer call.ack = some told)
    (succeeds : result = .ok () → told = .acked (.ok ()))
    : Moves queue (.pollCall index) (queue.returns index call result)
  | callDropped {index call} (is : queue.calls[index]? = some call) (sent : call.sent = true)
    : Moves queue (.dropCall index)
        ({ queue with calls := queue.calls.eraseIdx index }.report [])
  | unsentDropped {index call} (is : queue.calls[index]? = some call)
    (unsent : call.sent = false)
    : Moves queue (.dropCall index)
        ({ queue with calls := queue.calls.eraseIdx index }.report
          (WriteReply.awaited call.ack).drop)
  | took {worker chunk reply commands} (receiving : queue.workers worker = .receiving)
    (first : queue.commands = .write chunk reply :: commands)
    : Moves queue (.work worker)
        ({ queue with commands }.workerAt worker (.executing chunk reply))
  | tookFinalize {worker ack commands} (receiving : queue.workers worker = .receiving)
    (first : queue.commands = .finalize ack :: commands)
    : Moves queue (.work worker) ({ queue with commands }.workerAt worker (.acking ack))
  | ended {worker} (receiving : queue.workers worker = .receiving)
    (empty : queue.commands = []) (closed : queue.closed = true)
    : Moves queue (.work worker) (queue.workerAt worker .closing)
  | executed {worker chunk reply result}
    (executing : queue.workers worker = .executing chunk reply)
    : Moves queue (.execute worker (some result))
        ({ queue with executed := queue.executed ++ [(reply, chunk, result)] }.workerAt worker
          (.replying chunk reply result))
  | panicked {worker chunk reply} (executing : queue.workers worker = .executing chunk reply)
    : Moves queue (.execute worker none) (queue.workerAt worker (.unwinding reply))
  | replied {worker chunk reply result reports}
    (replying : queue.workers worker = .replying chunk reply result)
    (completes : reply.complete result queue.path = .ok reports)
    : Moves queue (.work worker) ((queue.report reports).workerAt worker .receiving)
  | unwound {worker reply} (unwinding : queue.workers worker = .unwinding reply)
    : Moves queue (.work worker) ((queue.report reply.drop).workerAt worker .closing)
  | acknowledged {worker ack flushed} (acking : queue.workers worker = .acking ack)
    : Moves queue (.acknowledge worker flushed)
        ((queue.report [(ack, .acked flushed)]).workerAt worker .closing)
  | closes {worker} (closing : queue.workers worker = .closing)
    : Moves queue (.work worker) ({ queue with closed := true }.workerAt worker .draining)
  | drained {worker command commands} (draining : queue.workers worker = .draining)
    (first : queue.commands = command :: commands)
    : Moves queue (.work worker) ({ queue with commands }.workerAt worker (.dropping command))
  | emptied {worker} (draining : queue.workers worker = .draining)
    (empty : queue.commands = [])
    : Moves queue (.work worker) (queue.workerAt worker .leaving)
  | commandDropped {worker command} (dropping : queue.workers worker = .dropping command)
    : Moves queue (.work worker) ((queue.report command.drop).workerAt worker .draining)
  | left {worker} (leaving : queue.workers worker = .leaving)
    : Moves queue (.work worker) (queue.workerAt worker .gone)
  | finalizeSent {synced} (sending : queue.finalizer = .sending) (sent : queue.trySend = .sent)
    : Moves queue (.finalizeStep synced)
        ({ queue.reply none with finalizer := .awaiting queue.nextAck }.push
          (.finalize queue.nextAck))
  | owner {event finalizer closed shared} (moves : queue.OwnerMoves event finalizer closed shared)
    : Moves queue event { queue with finalizer, closed, shared }

variable [DecidableEq Worker]

/-- The steps of the finalization. -/
theorem moves_finalizeStep {synced : Except IoError Unit} (goesOn : queue.FinalizeGoesOn queue.finalizer)
    : queue.Moves (.finalizeStep synced) (queue.finalizeStep synced) := by
  unfold finalizeStep
  cases phase : queue.finalizer with
  | idle => rw [phase] at goesOn; exact goesOn.elim
  | unwrapping =>
      rw [phase] at goesOn
      exact .owner (.unwraps phase goesOn)
  | sending =>
      rw [phase] at goesOn
      cases sent : queue.trySend with
      | sent => exact .finalizeSent phase sent
      | full => exact absurd sent goesOn
      | closed => exact .owner (.refused phase sent)
  | awaiting ack =>
      rw [phase] at goesOn
      obtain ⟨told, answer⟩ := Option.isSome_iff_exists.mp goesOn
      simp only [answer]
      split
      · exact .owner (.answered phase answer (fun _ => by simp_all))
      · exact .owner (.answered phase answer (fun never => by cases never))
      · simp_all
  | dropping result => exact .owner (.senderDropped phase)
  | joining result =>
      rw [phase] at goesOn
      dsimp only
      split
      · exact .owner (.joined phase goesOn)
      · exact .owner (.joinedMapped phase goesOn)
  | syncing joined => exact .owner (.synced phase)
  | returned result => rw [phase] at goesOn; exact goesOn.elim
  | abandoned =>
      rw [phase] at goesOn
      exact .owner (.released phase goesOn)
  | dropped => rw [phase] at goesOn; exact goesOn.elim

/-- The steps of a worker. -/
theorem moves_work {worker : Worker} (goes : queue.goesOn worker = true)
    (step : queue.work worker = .ok after)
    : queue.Moves (.work worker) after := by
  unfold goesOn at goes
  unfold work at step
  cases phase : queue.workers worker with
  | receiving =>
      rw [phase] at goes
      simp only [phase] at step
      cases first : queue.commands with
      | nil =>
          have closed : queue.closed = true := by simpa [first] using goes
          rw [first] at step
          simp only [closed, if_true] at step
          cases step
          exact .ended phase first closed
      | cons command commands =>
          rw [first] at step
          cases command with
          | write chunk reply =>
              cases step
              exact .took phase first
          | finalize ack =>
              cases step
              exact .tookFinalize phase first
  | executing chunk reply => rw [phase] at goes; cases goes
  | replying chunk reply result =>
      simp only [phase] at step
      obtain ⟨reports, completes, same⟩ := Checked.bind_eq_ok.mp step
      cases same
      exact .replied phase completes
  | acking ack => rw [phase] at goes; cases goes
  | unwinding reply =>
      simp only [phase] at step
      cases step
      exact .unwound phase
  | closing =>
      simp only [phase] at step
      cases step
      exact .closes phase
  | draining =>
      simp only [phase] at step
      cases first : queue.commands with
      | nil =>
          rw [first] at step
          cases step
          exact .emptied phase first
      | cons command commands =>
          rw [first] at step
          cases step
          exact .drained phase first
  | dropping command =>
      simp only [phase] at step
      cases step
      exact .commandDropped phase
  | leaving =>
      simp only [phase] at step
      cases step
      exact .left phase
  | gone => rw [phase] at goes; cases goes

/-- A call of `write_range` that is polled. -/
theorem moves_pollCall {index : Nat} {call : WriteCall} (is : queue.calls[index]? = some call)
    (goesOn : queue.callGoesOn call = true)
    : queue.Moves (.pollCall index) (queue.pollCall index) := by
  unfold callGoesOn at goesOn
  simp only [pollCall, is]
  cases sent : call.sent with
  | true =>
      rw [sent] at goesOn
      simp only [if_true] at goesOn ⊢
      obtain ⟨told, answer⟩ := Option.isSome_iff_exists.mp goesOn
      simp only [answer]
      split
      · exact .callReturned is sent answer (fun _ => by simp_all)
      · exact .callReturned is sent answer (fun never => by cases never)
      · simp_all
  | false =>
      rw [sent] at goesOn
      simp only [Bool.false_eq_true, if_false] at goesOn ⊢
      cases sending : queue.trySend with
      | sent => exact .callSent is sent sending
      | full => simp [sending] at goesOn
      | closed => exact .callRefused is sent sending

/-- Every event takes one of the branches. -/
theorem moves {event : QueueEvent Worker} (enabled : queue.Enabled event)
    (step : queue.next event = .ok after)
    : queue.Moves event after := by
  cases event with
  | submit chunk spawns =>
      simp only [WriterQueue.next, dispatchDirect] at step
      have same : (queue.reply (some chunk)).trySend = queue.trySend := rfl
      rw [same] at step
      cases sending : queue.trySend with
      | sent =>
          simp only [sending] at step
          cases step
          exact .submitted enabled sending
      | full =>
          simp only [sending] at step
          cases spawns with
          | true =>
              cases step
              exact .spawned enabled sending
          | false =>
              cases step
              exact .rejected enabled sending
      | closed =>
          simp only [sending] at step
          obtain ⟨reports, completes, same⟩ := Checked.bind_eq_ok.mp step
          cases same
          exact .refused enabled sending completes
  | pollTask index =>
      obtain ⟨inside, room⟩ := enabled
      obtain ⟨⟨chunk, done⟩, is⟩ : ∃ task, queue.tasks[index]? = some task :=
        ⟨_, List.getElem?_eq_getElem inside⟩
      simp only [WriterQueue.next, pollTask, is] at step
      cases sending : queue.trySend with
      | sent =>
          simp only [sending] at step
          cases step
          exact .taskSent is sending
      | full => exact absurd sending room
      | closed =>
          simp only [sending] at step
          obtain ⟨reports, completes, same⟩ := Checked.bind_eq_ok.mp step
          cases same
          exact .taskRefused is sending completes
  | dropTask index =>
      obtain ⟨⟨chunk, done⟩, is⟩ : ∃ task, queue.tasks[index]? = some task :=
        ⟨_, List.getElem?_eq_getElem enabled⟩
      simp only [WriterQueue.next, dropTask, is] at step
      cases step
      exact .taskDropped is
  | writeRange chunk =>
      cases step
      exact .called enabled
  | pollCall index =>
      obtain ⟨call, is, goesOn⟩ := enabled
      cases step
      exact moves_pollCall is goesOn
  | dropCall index =>
      obtain ⟨call, is⟩ : ∃ call, queue.calls[index]? = some call :=
        ⟨_, List.getElem?_eq_getElem enabled⟩
      simp only [WriterQueue.next, dropCall, is] at step
      cases sent : call.sent with
      | true =>
          simp only [sent, if_true] at step
          cases step
          exact .callDropped is sent
      | false =>
          simp only [sent, Bool.false_eq_true, if_false] at step
          cases step
          exact .unsentDropped is sent
  | work worker => exact moves_work enabled step
  | execute worker outcome =>
      obtain ⟨chunk, reply, executing⟩ := executes_iff.mp enabled
      cases outcome with
      | some result =>
          simp only [WriterQueue.next, execute, executing] at step
          cases step
          exact .executed executing
      | none =>
          simp only [WriterQueue.next, execute, executing] at step
          cases step
          exact .panicked executing
  | acknowledge worker flushed =>
      obtain ⟨ack, acking⟩ := acknowledges_iff.mp enabled.1
      simp only [WriterQueue.next, acknowledge, acking] at step
      cases step
      exact .acknowledged acking
  | unshare =>
      cases step
      exact .owner (.unshared enabled)
  | finalize =>
      cases step
      exact .owner (.finalizes enabled)
  | finalizeStep synced =>
      cases step
      exact moves_finalizeStep enabled
  | abandon =>
      cases step
      exact .owner (.abandons enabled)

end BoltLoad.WriterQueue
