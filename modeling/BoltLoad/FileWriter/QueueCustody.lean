import BoltLoad.FileWriter.QueueSteps

/-! The custody of replies. Every reply made is held in one place, the command, task, call or
worker that is to use it, until it is told the end of its write, once; and every command, task
and worker has the write its reply is for.
-/

namespace BoltLoad

-----------------------------------------------------------------------------------------
-- Replies
-----------------------------------------------------------------------------------------

/-- The place of a reply not used yet. -/
def WriteReply.acks : WriteReply → List CommandAck
  | .awaited ack => [ack]
  | .completion done => done.state.toList.map Prod.fst

def Command.acks : Command → List CommandAck
  | .write _ reply => reply.acks
  | .finalize ack => [ack]

/-- The replies a worker holds. -/
def WorkerPhase.acks : WorkerPhase → List CommandAck
  | .executing _ reply => reply.acks
  | .replying _ reply _ => reply.acks
  | .acking ack => [ack]
  | .unwinding reply => reply.acks
  | .dropping command => command.acks
  | _ => []

/-- The reply a task waits for room with. -/
def taskAcks (task : Chunk × CompletionGuard) : List CommandAck :=
  (WriteReply.completion task.2).acks

/-- The ack of a call whose command is not in the queue yet. -/
def WriteCall.acks (call : WriteCall) : List CommandAck := if call.sent then [] else [call.ack]

/-- The reply is unused, and made for the write. -/
def WriteReply.For (replies : List (Option Chunk)) (chunk : Chunk) (reply : WriteReply) : Prop :=
  ∃ ack,
    replies[ack]? = some (some chunk)
    ∧ (reply = .awaited ack ∨ reply = .completion (.new ack chunk))

/-- The command has the write its reply was made for. -/
def Command.Sound (replies : List (Option Chunk)) : Command → Prop
  | .write chunk reply => reply.For replies chunk
  | .finalize ack => replies[ack]? = some none

/-- What a worker holds has the write its reply was made for. -/
def WorkerPhase.Sound (replies : List (Option Chunk)) : WorkerPhase → Prop
  | .executing chunk reply => reply.For replies chunk
  | .replying chunk reply _ => reply.For replies chunk
  | .acking ack => replies[ack]? = some none
  | .unwinding reply => ∃ chunk, reply.For replies chunk
  | .dropping command => command.Sound replies
  | _ => True

/-- What is told of a write is told of its range, and as `result` where it was executed. -/
def Told.Of (path : String) (chunk : Chunk) (result : Except IoError Unit) : Told → Prop
  | .completed completion =>
      completion = ⟨chunk.range, result.mapError (fun _ => writeRangeError chunk path)⟩
  | .acked other => other = result
  | .unacked => False

/-- What is told of a command that was not executed. -/
def Told.Fails (chunk : Chunk) : Told → Prop
  | .completed completion =>
      completion = ⟨chunk.range, .error (writeRangeError chunk emptyPath)⟩
  | .acked _ => False
  | .unacked => True

section Replies

variable {replies more : List (Option Chunk)} {chunk : Chunk} {reply : WriteReply}

theorem getElem?_append_of_eq {ack : CommandAck} {made : Option Chunk}
    (is : replies[ack]? = some made)
    : (replies ++ more)[ack]? = some made := by
  rw [List.getElem?_append_left (List.getElem?_eq_some_iff.mp is).1, is]

theorem WriteReply.For.append (is : reply.For replies chunk)
    : reply.For (replies ++ more) chunk := by
  obtain ⟨ack, made, same⟩ := is
  exact ⟨ack, getElem?_append_of_eq made, same⟩

/-- The reply made next. -/
theorem WriteReply.For.next
    : (WriteReply.completion (.new replies.length chunk)).For (replies ++ [some chunk]) chunk :=
  ⟨replies.length, List.getElem?_concat_length, .inr rfl⟩

/-- An unused reply has one place. -/
theorem WriteReply.For.place (is : reply.For replies chunk)
    : ∃ ack, replies[ack]? = some (some chunk) ∧ reply.acks = [ack] := by
  obtain ⟨ack, made, rfl | rfl⟩ := is
  · exact ⟨ack, made, rfl⟩
  · exact ⟨ack, made, rfl⟩

/-- An unused reply tells the end of its write, once. -/
theorem WriteReply.For.complete (is : reply.For replies chunk) (result : Except IoError Unit)
    (path : String)
    : ∃ ack told,
        replies[ack]? = some (some chunk)
        ∧ reply.acks = [ack]
        ∧ reply.complete result path = .ok [(ack, told)]
        ∧ told.Of path chunk result := by
  obtain ⟨ack, made, rfl | rfl⟩ := is
  · exact ⟨ack, .acked result, made, rfl, rfl, rfl⟩
  · exact ⟨ack, _, made, rfl, rfl, rfl⟩

/-- An unused reply that is dropped tells that its write failed, once. -/
theorem WriteReply.For.drop (is : reply.For replies chunk)
    : ∃ ack told,
        replies[ack]? = some (some chunk)
        ∧ reply.acks = [ack]
        ∧ reply.drop = [(ack, told)]
        ∧ told.Fails chunk := by
  obtain ⟨ack, made, rfl | rfl⟩ := is
  · exact ⟨ack, .unacked, made, rfl, rfl, trivial⟩
  · exact ⟨ack, _, made, rfl, rfl, rfl⟩

theorem Command.Sound.append {command : Command} (sound : command.Sound replies)
    : command.Sound (replies ++ more) := by
  cases command with
  | write chunk reply => exact WriteReply.For.append sound
  | finalize ack => exact getElem?_append_of_eq sound

theorem WorkerPhase.Sound.append {phase : WorkerPhase} (sound : phase.Sound replies)
    : phase.Sound (replies ++ more) := by
  cases phase with
  | executing chunk reply => exact WriteReply.For.append sound
  | replying chunk reply result => exact WriteReply.For.append sound
  | acking ack => exact getElem?_append_of_eq sound
  | unwinding reply =>
      obtain ⟨chunk, made⟩ := sound
      exact ⟨chunk, made.append⟩
  | dropping command => exact Command.Sound.append sound
  | receiving => trivial
  | closing => trivial
  | draining => trivial
  | leaving => trivial
  | gone => trivial

/-- A sound command that is dropped tells of its reply, once. -/
theorem Command.Sound.drop {command : Command} (sound : command.Sound replies)
    : ∃ ack told made,
        replies[ack]? = some made
        ∧ command.acks = [ack]
        ∧ command.drop = [(ack, told)]
        ∧ ∀ chunk, made = some chunk → told.Fails chunk := by
  cases command with
  | write chunk reply =>
      obtain ⟨ack, told, made, acks, dropped, fails⟩ := WriteReply.For.drop sound
      exact ⟨ack, told, _, made, acks, dropped, by rintro _ ⟨⟩; exact fails⟩
  | finalize ack =>
      exact ⟨ack, .unacked, none, sound, rfl, rfl, fun _ never => by cases never⟩

end Replies

namespace WriterQueue

variable {Worker : Type} [Fintype Worker] {queue after : WriterQueue Worker}

-----------------------------------------------------------------------------------------
-- Who holds a reply
-----------------------------------------------------------------------------------------

/-- How often a reply is held. -/
def held (queue : WriterQueue Worker) (ack : CommandAck) : Nat :=
  Custody.counted Command.acks queue.commands ack
    + Custody.counted taskAcks queue.tasks ack
    + Custody.counted WriteCall.acks queue.calls ack
    + Custody.total (fun phase => phase.acks.count ack) queue.workers

/-- Every reply is held or told, once, and held with the write it is for. -/
structure Sound (queue : WriterQueue Worker) : Prop where
  custody : Custody queue.replies.length queue.held (queue.reports.map Prod.fst)
  commands : ∀ command ∈ queue.commands, command.Sound queue.replies
  workers : ∀ worker, (queue.workers worker).Sound queue.replies
  tasks : ∀ task ∈ queue.tasks, (WriteReply.completion task.2).For queue.replies task.1
  calls : ∀ call ∈ queue.calls, queue.replies[call.ack]? = some (some call.chunk)
  awaited : ∀ ack, queue.finalizer = .awaiting ack → queue.replies[ack]? = some none

/-- The channel is built empty. -/
theorem Sound.begins (kind : FileRangeWriterKind) (path : String) (room : Nat)
    : (built kind path room : WriterQueue Worker).Sound where
  custody := by
    refine Custody.none.moves (fun ack => ?_)
    have idle
        : Custody.total (fun phase : WorkerPhase => phase.acks.count ack)
            (fun _ : Worker => .receiving) = 0 :=
      Custody.total_eq_zero.mpr (fun _ => rfl)
    simp only [held, built, Custody.counted_nil, idle, Nat.add_zero]
  commands := fun _ never => by cases never
  workers := fun _ => trivial
  tasks := fun _ never => by cases never
  calls := fun _ never => by cases never
  awaited := fun _ never => by cases never

omit [Fintype Worker] in
/-- A reply made now is held by nobody else. -/
theorem count_next (queue : WriterQueue Worker) (ack : CommandAck) (chunk : Chunk)
    : (WriteReply.completion (.new queue.nextAck chunk)).acks.count ack
      = if ack = queue.replies.length then 1 else 0 :=
  Custody.count_singleton _ ack

omit [Fintype Worker] in
/-- Another command at the end of the queue. -/
theorem sound_push {replies : List (Option Chunk)} {commands : List Command} {command : Command}
    (sound : ∀ command ∈ commands, command.Sound replies) (is : command.Sound replies)
    : ∀ other ∈ commands ++ [command], other.Sound replies := by
  intro other inside
  rcases List.mem_append.mp inside with earlier | last
  · exact sound other earlier
  · cases List.mem_singleton.mp last
    exact is

section Workers

variable [DecidableEq Worker]

omit [Fintype Worker] in
/-- The workers after one of them goes on are sound. -/
theorem sound_workerAt {replies : List (Option Chunk)} {worker : Worker} {phase : WorkerPhase}
    (workers : ∀ worker, (queue.workers worker).Sound replies) (sound : phase.Sound replies)
    (other : Worker)
    : ((queue.workerAt worker phase).workers other).Sound replies := by
  by_cases here : other = worker
  · rw [here]
    simp only [workerAt, Function.update_self]
    exact sound
  · simp only [workerAt, Function.update_of_ne here]
    exact workers other

/-- What a worker holds is counted once. -/
theorem held_workerAt {commands : List Command} {worker : Worker} {phase : WorkerPhase}
    (ack : CommandAck)
    (counts
      : Custody.counted Command.acks queue.commands ack
          + (queue.workers worker).acks.count ack
        = Custody.counted Command.acks commands ack + phase.acks.count ack)
    : ({ queue with commands }.workerAt worker phase).held ack = queue.held ack := by
  have moved := Custody.total_update (fun phase : WorkerPhase => phase.acks.count ack)
    queue.workers worker phase
  simp only [held, workerAt]
  omega

/-- A worker tells of what it holds. -/
theorem held_report {worker : Worker} {phase : WorkerPhase} {reports : List Report}
    (ack : CommandAck)
    (counts
      : phase.acks.count ack + (reports.map Prod.fst).count ack
        = (queue.workers worker).acks.count ack)
    : ((queue.report reports).workerAt worker phase).held ack
        + (reports.map Prod.fst).count ack
      = queue.held ack := by
  have moved := Custody.total_update (fun phase : WorkerPhase => phase.acks.count ack)
    queue.workers worker phase
  simp only [held, workerAt, report]
  omega

end Workers

-----------------------------------------------------------------------------------------
-- Every step
-----------------------------------------------------------------------------------------

namespace Sound

/-- What the queue does not hold does not concern its soundness. -/
theorem same (sound : queue.Sound) (replies : after.replies = queue.replies)
    (reports : after.reports = queue.reports) (commands : after.commands = queue.commands)
    (workers : after.workers = queue.workers) (tasks : after.tasks = queue.tasks)
    (calls : after.calls = queue.calls)
    (awaited : ∀ ack, after.finalizer = .awaiting ack → queue.finalizer = .awaiting ack)
    : after.Sound where
  custody := by
    rw [replies, reports]
    refine sound.custody.moves (fun ack => ?_)
    simp only [held, commands, workers, tasks, calls]
  commands := by
    rw [commands, replies]
    exact sound.commands
  workers := by
    rw [workers, replies]
    exact sound.workers
  tasks := by
    rw [tasks, replies]
    exact sound.tasks
  calls := by
    rw [calls, replies]
    exact sound.calls
  awaited := by
    rw [replies]
    exact fun ack is => sound.awaited ack (awaited ack is)

/-- A reply that is made with every known one still held keeps those sound. -/
theorem makes (sound : queue.Sound) {made : Option Chunk}
    (replies : after.replies = queue.replies ++ [made])
    (custody : Custody (queue.replies.length + 1) after.held (after.reports.map Prod.fst))
    (commands
      : ∀ command ∈ after.commands,
          command ∈ queue.commands ∨ command.Sound (queue.replies ++ [made]))
    (workers : after.workers = queue.workers)
    (tasks
      : ∀ task ∈ after.tasks,
          task ∈ queue.tasks
            ∨ (WriteReply.completion task.2).For (queue.replies ++ [made]) task.1)
    (calls
      : ∀ call ∈ after.calls,
          call ∈ queue.calls
            ∨ (queue.replies ++ [made])[call.ack]? = some (some call.chunk))
    (awaited
      : ∀ ack,
          after.finalizer = .awaiting ack
          → queue.finalizer = .awaiting ack ∨ (queue.replies ++ [made])[ack]? = some none)
    : after.Sound where
  custody := by
    rw [replies, List.length_append]
    exact custody
  commands := by
    rw [replies]
    exact fun command inside =>
      (commands command inside).elim (fun was => (sound.commands command was).append) id
  workers := by
    rw [replies, workers]
    exact fun worker => (sound.workers worker).append
  tasks := by
    rw [replies]
    exact fun task inside =>
      (tasks task inside).elim (fun was => (sound.tasks task was).append) id
  calls := by
    rw [replies]
    exact fun call inside =>
      (calls call inside).elim (fun was => getElem?_append_of_eq (sound.calls call was)) id
  awaited := by
    rw [replies]
    exact fun ack is =>
      (awaited ack is).elim (fun was => getElem?_append_of_eq (sound.awaited ack was)) id

/-- A reply that was made is told at once. -/
theorem tellsNext (sound : queue.Sound) {chunk : Chunk} {reports : List Report} {told : Told}
    (single : reports = [(queue.nextAck, told)])
    : ((queue.reply (some chunk)).report reports).Sound := by
  refine sound.makes rfl ?_ (fun _ => .inl) rfl (fun _ => .inl) (fun _ => .inl) (fun _ => .inl)
  have made : Custody (queue.replies.length + 1)
      (fun ack => queue.held ack + if ack = queue.replies.length then 1 else 0)
      (queue.reports.map Prod.fst) :=
    sound.custody.issues (fun ack => rfl)
  have told := made.tells (fun ack => by
    rw [← Custody.count_singleton])
  rw [single]
  simp only [report, reply, List.map_append]
  exact told

/-- A waiting task or call is done: its command enters the queue, or it tells of its reply. -/
theorem waits (sound : queue.Sound) (replies : after.replies = queue.replies)
    (custody : Custody queue.replies.length after.held (after.reports.map Prod.fst))
    (commands
      : ∀ command ∈ after.commands, command ∈ queue.commands ∨ command.Sound queue.replies)
    (workers : after.workers = queue.workers) (tasks : ∀ task ∈ after.tasks, task ∈ queue.tasks)
    (calls
      : ∀ call ∈ after.calls,
          call ∈ queue.calls ∨ queue.replies[call.ack]? = some (some call.chunk))
    (finalizer : after.finalizer = queue.finalizer)
    : after.Sound where
  custody := by
    rw [replies]
    exact custody
  commands := by
    rw [replies]
    exact fun command inside => (commands command inside).elim (sound.commands command) id
  workers := by
    rw [replies, workers]
    exact sound.workers
  tasks := by
    rw [replies]
    exact fun task inside => sound.tasks task (tasks task inside)
  calls := by
    rw [replies]
    exact fun call inside => (calls call inside).elim (sound.calls call) id
  awaited := by
    rw [replies, finalizer]
    exact sound.awaited

/-- A task tells of the reply it holds. -/
theorem taskTells {index : Nat} {task : Chunk × CompletionGuard} {ack : CommandAck} {told : Told}
    (sound : queue.Sound) (is : queue.tasks[index]? = some task) (acks : taskAcks task = [ack])
    : ({ queue with tasks := queue.tasks.eraseIdx index }.report [(ack, told)]).Sound := by
  refine sound.waits rfl ?_ (fun _ => .inl) rfl (fun _ => List.mem_of_mem_eraseIdx)
    (fun _ => .inl) rfl
  have told
      : Custody queue.replies.length
          (held { queue with tasks := queue.tasks.eraseIdx index })
          (queue.reports.map Prod.fst ++ [ack]) := by
    refine sound.custody.tells (fun other => ?_)
    have less : _ + (taskAcks task).count other = _ := Custody.counted_eraseIdx is other
    rw [acks] at less
    simp only [held]
    omega
  simp only [report, List.map_append]
  exact told

/-- A call whose command is not in the queue tells of its ack. -/
theorem callTells {index : Nat} {call : WriteCall} {told : Told} (sound : queue.Sound)
    (is : queue.calls[index]? = some call) (unsent : call.sent = false)
    : ({ queue with calls := queue.calls.eraseIdx index }.report [(call.ack, told)]).Sound := by
  refine sound.waits rfl ?_ (fun _ => .inl) rfl (fun _ => id)
    (fun _ inside => .inl (List.mem_of_mem_eraseIdx inside)) rfl
  have acks : call.acks = [call.ack] := by
    simp only [WriteCall.acks, unsent, Bool.false_eq_true, if_false]
  have told
      : Custody queue.replies.length
          (held { queue with calls := queue.calls.eraseIdx index })
          (queue.reports.map Prod.fst ++ [call.ack]) := by
    refine sound.custody.tells (fun other => ?_)
    have less : _ + call.acks.count other = _ := Custody.counted_eraseIdx is other
    rw [acks] at less
    simp only [held]
    omega
  simp only [report, List.map_append]
  exact told

/-- A call whose command is in the queue, or done, holds nothing. -/
theorem callLeaves {index : Nat} {call : WriteCall} (sound : queue.Sound)
    (is : queue.calls[index]? = some call) (sent : call.sent = true)
    : Sound { queue with calls := queue.calls.eraseIdx index } := by
  refine sound.waits rfl ?_ (fun _ => .inl) rfl (fun _ => id)
    (fun _ inside => .inl (List.mem_of_mem_eraseIdx inside)) rfl
  refine sound.custody.moves (fun other => ?_)
  have acks : call.acks = [] := by
    simp only [WriteCall.acks, sent, if_true]
  have less : _ + call.acks.count other = _ := Custody.counted_eraseIdx is other
  rw [acks, List.count_nil] at less
  simp only [held]
  omega

variable [DecidableEq Worker]

/-- A worker takes a command, goes on with it, or has none. -/
theorem worker {commands : List Command} {worker : Worker} {phase : WorkerPhase}
    (sound : queue.Sound) (fewer : ∀ command ∈ commands, command ∈ queue.commands)
    (is : phase.Sound queue.replies)
    (counts
      : ∀ ack,
          Custody.counted Command.acks queue.commands ack
            + (queue.workers worker).acks.count ack
          = Custody.counted Command.acks commands ack + phase.acks.count ack)
    : ({ queue with commands }.workerAt worker phase).Sound where
  custody := sound.custody.moves (fun ack => held_workerAt ack (counts ack))
  commands := fun command inside => sound.commands command (fewer command inside)
  workers := sound_workerAt sound.workers is
  tasks := sound.tasks
  calls := sound.calls
  awaited := sound.awaited

/-- A worker tells of what it holds. -/
theorem tells {worker : Worker} {phase : WorkerPhase} {reports : List Report}
    (sound : queue.Sound) (is : phase.Sound queue.replies)
    (counts
      : ∀ ack,
          phase.acks.count ack + (reports.map Prod.fst).count ack
          = (queue.workers worker).acks.count ack)
    : ((queue.report reports).workerAt worker phase).Sound where
  custody := by
    have told := sound.custody.tells (fun ack => held_report ack (counts ack))
    simp only [workerAt, report, List.map_append]
    exact told
  commands := sound.commands
  workers := sound_workerAt sound.workers is
  tasks := sound.tasks
  calls := sound.calls
  awaited := sound.awaited

/-- Every step. -/
theorem next {event : QueueEvent Worker} (sound : queue.Sound) (moves : queue.Moves event after)
    : after.Sound := by
  cases moves with
  | @submitted chunk spawns shared sent =>
      refine sound.makes rfl ?_ ?_ rfl (fun _ => .inl) (fun _ => .inl) (fun _ => .inl)
      · refine sound.custody.issues (fun ack => ?_)
        have next := queue.count_next ack chunk
        simp only [held, push, reply, Custody.counted_concat, Command.acks]
        omega
      · intro command inside
        refine (List.mem_append.mp inside).imp_right (fun last => ?_)
        cases List.mem_singleton.mp last
        exact .next
  | @spawned chunk shared full =>
      refine sound.makes rfl ?_ (fun _ => .inl) rfl ?_ (fun _ => .inl) (fun _ => .inl)
      · refine sound.custody.issues (fun ack => ?_)
        have next := queue.count_next ack chunk
        simp only [held, reply, Custody.counted_concat, taskAcks]
        omega
      · intro task inside
        refine (List.mem_append.mp inside).imp_right (fun last => ?_)
        cases List.mem_singleton.mp last
        exact .next
  | @rejected chunk shared full => exact sound.tellsNext rfl
  | @refused chunk spawns reports shared closed completes =>
      cases completes
      exact sound.tellsNext rfl
  | @taskSent index chunk done is sent =>
      have made := sound.tasks _ (List.mem_of_getElem? is)
      refine sound.waits rfl ?_ ?_ rfl (fun _ => List.mem_of_mem_eraseIdx) (fun _ => .inl) rfl
      · refine sound.custody.moves (fun ack => ?_)
        have less
            : Custody.counted taskAcks (queue.tasks.eraseIdx index) ack
                + (WriteReply.completion done).acks.count ack
              = Custody.counted taskAcks queue.tasks ack :=
          Custody.counted_eraseIdx is ack
        simp only [held, push, Custody.counted_concat, Command.acks]
        omega
      · intro command inside
        refine (List.mem_append.mp inside).imp_right (fun last => ?_)
        cases List.mem_singleton.mp last
        exact made
  | @taskRefused index chunk done reports is closed completes =>
      obtain ⟨ack, told, _, acks, tells, _⟩ :=
        (sound.tasks _ (List.mem_of_getElem? is)).complete (.error queueClosed) queue.path
      cases tells.symm.trans completes
      exact sound.taskTells is acks
  | @taskDropped index chunk done is =>
      obtain ⟨ack, told, _, acks, tells, _⟩ := (sound.tasks _ (List.mem_of_getElem? is)).drop
      rw [show done.drop = _ from tells]
      exact sound.taskTells is acks
  | @called chunk shared =>
      refine sound.makes rfl ?_ (fun _ => .inl) rfl (fun _ => .inl) ?_ (fun _ => .inl)
      · refine sound.custody.issues (fun ack => ?_)
        have next := Custody.count_singleton queue.replies.length ack
        simp only [held, reply, Custody.counted_concat, WriteCall.acks, nextAck,
          Bool.false_eq_true, if_false]
        omega
      · intro call inside
        refine (List.mem_append.mp inside).imp_right (fun last => ?_)
        cases List.mem_singleton.mp last
        exact List.getElem?_concat_length
  | @callSent index call is unsent sent =>
      have made := sound.calls call (List.mem_of_getElem? is)
      refine sound.waits rfl ?_ ?_ rfl (fun _ => id) ?_ rfl
      · refine sound.custody.moves (fun ack => ?_)
        have acks : call.acks = [call.ack] := by
          simp only [WriteCall.acks, unsent, Bool.false_eq_true, if_false]
        have less
            : Custody.counted WriteCall.acks (queue.calls.set index { call with sent := true }) ack
                + call.acks.count ack
              = Custody.counted WriteCall.acks queue.calls ack + ([] : List Nat).count ack :=
          Custody.counted_set is ack
        rw [acks, List.count_nil] at less
        simp only [held, push, Custody.counted_concat, Command.acks, WriteReply.acks]
        omega
      · intro command inside
        refine (List.mem_append.mp inside).imp_right (fun last => ?_)
        cases List.mem_singleton.mp last
        exact ⟨call.ack, made, .inl rfl⟩
      · intro other inside
        rcases List.mem_or_eq_of_mem_set inside with was | rfl
        · exact .inl was
        · exact .inr made
  | @callRefused index call is unsent closed =>
      have tells
          : ({ queue with calls := queue.calls.eraseIdx index }.report
              [(call.ack, .unacked)]).Sound :=
        sound.callTells is unsent
      exact tells.same rfl rfl rfl rfl rfl rfl (fun _ => id)
  | @callReturned index call told result is sent answer succeeds =>
      have leaves := sound.callLeaves is sent
      exact leaves.same rfl rfl rfl rfl rfl rfl (fun _ => id)
  | @callDropped index call is sent =>
      have leaves := sound.callLeaves is sent
      exact leaves.same rfl (List.append_nil _) rfl rfl rfl rfl (fun _ => id)
  | @unsentDropped index call is unsent => exact sound.callTells is unsent
  | @took worker chunk reply commands receiving first =>
      refine sound.worker (fun command inside => ?_) ?_ (fun ack => ?_)
      · rw [first]
        exact List.mem_cons_of_mem _ inside
      · exact sound.commands (.write chunk reply) (by rw [first]; exact List.mem_cons_self)
      · rw [first, receiving, Custody.counted_cons]
        simp only [WorkerPhase.acks, Command.acks, List.count_nil]
        omega
  | @tookFinalize worker ack commands receiving first =>
      refine sound.worker (fun command inside => ?_) ?_ (fun ack => ?_)
      · rw [first]
        exact List.mem_cons_of_mem _ inside
      · exact sound.commands (.finalize ack) (by rw [first]; exact List.mem_cons_self)
      · rw [first, receiving, Custody.counted_cons]
        simp only [WorkerPhase.acks, Command.acks, List.count_nil]
        omega
  | @ended worker receiving empty closed =>
      have moved : (queue.workerAt worker .closing).Sound :=
        sound.worker (fun _ => id) trivial (fun ack => by rw [receiving]; rfl)
      exact moved
  | @executed worker chunk reply result executing =>
      have made := sound.workers worker
      rw [executing] at made
      have moved : (queue.workerAt worker (.replying chunk reply result)).Sound :=
        sound.worker (fun _ => id) made (fun ack => by rw [executing]; rfl)
      exact moved.same rfl rfl rfl rfl rfl rfl (fun _ => id)
  | @panicked worker chunk reply executing =>
      have made := sound.workers worker
      rw [executing] at made
      have moved : (queue.workerAt worker (.unwinding reply)).Sound :=
        sound.worker (fun _ => id) ⟨chunk, made⟩ (fun ack => by rw [executing]; rfl)
      exact moved
  | @replied worker chunk reply result reports replying completes =>
      have made := sound.workers worker
      rw [replying] at made
      obtain ⟨ack, told, _, acks, tells, _⟩ := WriteReply.For.complete made result queue.path
      cases tells.symm.trans completes
      refine sound.tells trivial (fun other => ?_)
      rw [replying]
      simp only [WorkerPhase.acks, acks, List.map_cons, List.map_nil, List.count_nil]
      exact Nat.zero_add _
  | @unwound worker reply unwinding =>
      have made := sound.workers worker
      rw [unwinding] at made
      obtain ⟨chunk, made⟩ := made
      obtain ⟨ack, told, _, acks, tells, _⟩ := made.drop
      refine sound.tells trivial (fun other => ?_)
      rw [unwinding, tells]
      simp only [WorkerPhase.acks, acks, List.map_cons, List.map_nil, List.count_nil]
      exact Nat.zero_add _
  | @acknowledged worker ack flushed acking =>
      refine sound.tells trivial (fun other => ?_)
      rw [acking]
      simp only [WorkerPhase.acks, List.map_cons, List.map_nil, List.count_nil]
      exact Nat.zero_add _
  | @closes worker closing =>
      have moved : (queue.workerAt worker .draining).Sound :=
        sound.worker (fun _ => id) trivial (fun ack => by rw [closing]; rfl)
      exact moved.same rfl rfl rfl rfl rfl rfl (fun _ => id)
  | @drained worker command commands draining first =>
      refine sound.worker (fun other inside => ?_) ?_ (fun ack => ?_)
      · rw [first]
        exact List.mem_cons_of_mem _ inside
      · exact sound.commands command (by rw [first]; exact List.mem_cons_self)
      · rw [first, draining, Custody.counted_cons]
        simp only [WorkerPhase.acks, List.count_nil]
        omega
  | @emptied worker draining empty =>
      have moved : (queue.workerAt worker .leaving).Sound :=
        sound.worker (fun _ => id) trivial (fun ack => by rw [draining]; rfl)
      exact moved
  | @commandDropped worker command dropping =>
      have made := sound.workers worker
      rw [dropping] at made
      obtain ⟨ack, told, _, _, acks, tells, _⟩ := Command.Sound.drop made
      refine sound.tells trivial (fun other => ?_)
      rw [dropping, tells]
      simp only [WorkerPhase.acks, acks, List.map_cons, List.map_nil, List.count_nil]
      exact Nat.zero_add _
  | @left worker leaving =>
      have moved : (queue.workerAt worker .gone).Sound :=
        sound.worker (fun _ => id) trivial (fun ack => by rw [leaving]; rfl)
      exact moved
  | @finalizeSent synced sending sent =>
      refine sound.makes rfl ?_ ?_ rfl (fun _ => .inl) (fun _ => .inl) ?_
      · refine sound.custody.issues (fun ack => ?_)
        have next := Custody.count_singleton queue.replies.length ack
        simp only [held, push, reply, Custody.counted_concat, Command.acks, nextAck]
        omega
      · intro command inside
        refine (List.mem_append.mp inside).imp_right (fun last => ?_)
        cases List.mem_singleton.mp last
        exact List.getElem?_concat_length
      · intro ack is
        cases is
        exact .inr List.getElem?_concat_length
  | @owner event finalizer closed shared moves =>
      refine sound.same rfl rfl rfl rfl rfl rfl (fun ack is => ?_)
      have is : finalizer = .awaiting ack := is
      cases moves with
      | unshared was => exact is
      | finalizes idle => cases is
      | unwraps unwrapping owned => cases is
      | refused sending closed => cases is
      | answered awaiting answer succeeds => cases is
      | senderDropped dropping => cases is
      | joined joining gone => cases is
      | joinedMapped joining gone => cases is
      | synced syncing => cases is
      | abandons droppable => cases is
      | released abandoned owned => cases is

end Sound

/-- In every state reached, by induction on the run. -/
theorem sound_reachable [DecidableEq Worker] (reached : (machine Worker).Reachable queue)
    : queue.Sound := by
  induction reached with
  | initial start =>
      obtain ⟨kind, path, room, _, _, rfl⟩ := start
      exact .begins kind path room
  | step _ step ih => exact ih.next (moves step.enabled step.next)

end WriterQueue

end BoltLoad
