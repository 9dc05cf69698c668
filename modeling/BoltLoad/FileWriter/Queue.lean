import BoltLoad.FileWriter.Backend
import BoltLoad.FileWriter.PoolWriter
import BoltLoad.FileWriter.PendingWriter
import BoltLoad.Library.Custody

/-! The worker queue of a backend as a machine over the steps of its workers, of the tasks and
calls that wait for room in it, and of its finalization. The channel is first in, first out,
takes no more commands than it has room for, and rejects every send once it is closed.
-/

namespace BoltLoad

-----------------------------------------------------------------------------------------
-- Commands and how their ends are told
-----------------------------------------------------------------------------------------

/-- `CommandAck`: its place among all the replies. -/
abbrev CommandAck := Nat

/-- What was told of the end of a command. -/
inductive Told
  /-- A completion was sent to the pending writer. -/
  | completed (completion : WriteCompletion)
  /-- An ack was sent. -/
  | acked (result : Except IoError Unit)
  /-- The sender of an ack was dropped. -/
  | unacked
  deriving DecidableEq

/-- What was told, with the place of its reply among all of them. -/
abbrev Report := CommandAck × Told

/-- `CompletionGuard`: the place of its reply, and its write; nothing once it was taken. -/
structure CompletionGuard where
  state : Option (CommandAck × Chunk)
  deriving DecidableEq, Repr

/-- `WriteReply`. -/
inductive WriteReply
  | awaited (ack : CommandAck)
  | completion (done : CompletionGuard)
  deriving DecidableEq, Repr

/-- `Command`. -/
inductive Command
  | write (chunk : Chunk) (reply : WriteReply)
  | finalize (ack : CommandAck)
  deriving DecidableEq, Repr

/-- `Chunk` as `Debug` writes it. -/
def Chunk.debug (chunk : Chunk) : String :=
  s!"Chunk \x7b range: {chunk.range.start}..{chunk.range.stop}, data: {chunk.data.length} bytes \x7d"

/-- `FileWriterError::WriteRange`, with the path as `Debug` writes it. -/
def writeRangeError (chunk : Chunk) (path : String) : FileWriterError :=
  ⟨s!"failed to write range Some({chunk.debug}), path: {path}"⟩

/-- `FileWriterError::Finalize`. -/
def finalizeError (path : String) : FileWriterError :=
  ⟨s!"failed to finalize, sync all data to disk etc, in path: {path}"⟩

/-- `PathBuf::new()` as `Debug` writes it. -/
def emptyPath : String := "\"\""

/-- `queue_closed`. -/
def queueClosed : IoError := ⟨.other 32, "writer command channel closed"⟩

namespace CompletionGuard

def new (ack : CommandAck) (chunk : Chunk) : CompletionGuard := ⟨some (ack, chunk)⟩

/-- `Drop`: a write that was not reported is reported as failed. -/
def drop (done : CompletionGuard) : List Report :=
  match done.state with
  | some (ack, chunk) =>
      [(ack, .completed ⟨chunk.range, .error (writeRangeError chunk emptyPath)⟩)]
  | none => []

/-- The message of a guard completed twice. -/
def onceMessage : String := "completed once"

/-- `complete`; the guard is dropped with its state taken. -/
def complete (done : CompletionGuard) (result : Except IoError Unit) (path : String)
    : Checked (List Report) := do
  let (ack, chunk) ← Checked.expect done.state onceMessage
  let result := result.mapError (fun _ => writeRangeError chunk path)
  pure ((ack, .completed ⟨chunk.range, result⟩) :: drop ⟨none⟩)

end CompletionGuard

namespace WriteReply

def complete (reply : WriteReply) (result : Except IoError Unit) (path : String)
    : Checked (List Report) :=
  match reply with
  | .awaited ack => .ok [(ack, .acked result)]
  | .completion done => done.complete result path

/-- A reply dropped unused. -/
def drop : WriteReply → List Report
  | .awaited ack => [(ack, .unacked)]
  | .completion done => done.drop

end WriteReply

/-- A command dropped unexecuted. -/
def Command.drop : Command → List Report
  | .write _ reply => reply.drop
  | .finalize ack => [(ack, .unacked)]

-----------------------------------------------------------------------------------------
-- The parties
-----------------------------------------------------------------------------------------

/-- The next step of a worker. -/
inductive WorkerPhase
  /-- `recv_blocking`. -/
  | receiving
  /-- `execute_write`. -/
  | executing (chunk : Chunk) (reply : WriteReply)
  /-- `reply.complete`. -/
  | replying (chunk : Chunk) (reply : WriteReply) (result : Except IoError Unit)
  /-- A finalize command is to be acknowledged. -/
  | acking (ack : CommandAck)
  /-- `execute_write` panicked, and the reply is to be dropped. -/
  | unwinding (reply : WriteReply)
  /-- `CloseOnExit` is dropped: the queue is to be closed. -/
  | closing
  /-- `CloseOnExit` takes what is left in the queue. -/
  | draining
  /-- A command taken so is to be dropped. -/
  | dropping (command : Command)
  /-- The receiver, the file and the wait group membership are to be released. -/
  | leaving
  | gone
  deriving DecidableEq

/-- `execute_write` is under way. -/
def WorkerPhase.executes : WorkerPhase → Bool
  | .executing .. => true
  | _ => false

/-- A finalize command was taken and is not acknowledged yet. -/
def WorkerPhase.acknowledges : WorkerPhase → Bool
  | .acking _ => true
  | _ => false

/-- A call of `PoolWriter::write_range` or `MmapWriter::write_range`. -/
structure WriteCall where
  ack : CommandAck
  chunk : Chunk
  /-- Whether its command is in the queue. -/
  sent : Bool
  deriving DecidableEq, Repr

/-- The next step of the writer's owner. -/
inductive FinalizePhase
  | idle
  /-- `finalize` waits until nothing else holds the writer. -/
  | unwrapping
  /-- The finalize command waits for room. -/
  | sending
  | awaiting (ack : CommandAck)
  /-- The sender is to be dropped. -/
  | dropping (result : Except FileWriterError Unit)
  /-- `worker_wg.wait()`. -/
  | joining (result : Except FileWriterError Unit)
  /-- `file.sync_all()`. -/
  | syncing (joined : Except FileWriterError Unit)
  | returned (result : Except FileWriterError Unit)
  /-- The writer, or the future finalizing it, was dropped. -/
  | abandoned
  | dropped
  deriving DecidableEq

/-- The future of `finalize` can be dropped, or the writer itself. -/
def FinalizePhase.droppable : FinalizePhase → Bool
  | .dropping _ => false
  | .returned _ => false
  | .abandoned => false
  | .dropped => false
  | _ => true

/-- A backend's queue, who works on it, and what came of the commands so far. -/
structure WriterQueue (Worker : Type) where
  kind : FileRangeWriterKind
  /-- The path, as `Debug` writes it. -/
  path : String
  /-- `FILE_WRITER_QUEUE_SIZE`, for an actual backend. -/
  room : Nat
  commands : List Command
  closed : Bool
  workers : Worker → WorkerPhase
  /-- The tasks of `spawn_submit`. -/
  tasks : List (Chunk × CompletionGuard)
  calls : List WriteCall
  /-- Whether anything but these and the finalization holds the writer. -/
  shared : Bool
  finalizer : FinalizePhase
  /-- The write each reply is for; a finalize command's is for none. -/
  replies : List (Option Chunk)
  reports : List Report
  /-- The executed writes, with their replies and results. -/
  executed : List (WriteReply × Chunk × Except IoError Unit)
  /-- What the calls of `write_range` returned. -/
  returned : List (CommandAck × Except FileWriterError Unit)

/-- `FILE_WRITER_QUEUE_SIZE`. -/
def fileWriterQueueSize : Nat := 2048

inductive QueueEvent (Worker : Type)
  /-- `dispatch_direct`; where the queue is full, the runtime may reject the task. -/
  | submit (chunk : Chunk) (spawns : Bool)
  /-- A task is polled. -/
  | pollTask (index : Nat)
  /-- A task is dropped by the runtime, polled before or not. -/
  | dropTask (index : Nat)
  | writeRange (chunk : Chunk)
  | pollCall (index : Nat)
  | dropCall (index : Nat)
  | work (worker : Worker)
  /-- `execute_write` returns, or panics. -/
  | execute (worker : Worker) (outcome : Option (Except IoError Unit))
  /-- A finalize command is acknowledged; of a mapped file, once it is flushed. -/
  | acknowledge (worker : Worker) (flushed : Except IoError Unit)
  /-- The last other handle of the writer is dropped. -/
  | unshare
  | finalize
  | finalizeStep (synced : Except IoError Unit)
  /-- The future of `finalize`, or the writer itself, is dropped. -/
  | abandon
  deriving DecidableEq

namespace WriterQueue

variable {Worker : Type}

-----------------------------------------------------------------------------------------
-- The channel
-----------------------------------------------------------------------------------------

/-- What `try_send` does. -/
inductive Sending
  | sent
  | full
  | closed
  deriving DecidableEq, Repr

def trySend (queue : WriterQueue Worker) : Sending :=
  if queue.closed then
    .closed
  else if queue.commands.length < queue.room then
    .sent
  else
    .full

/-- A command enters the queue. -/
def push (queue : WriterQueue Worker) (command : Command) : WriterQueue Worker :=
  { queue with commands := queue.commands ++ [command] }

/-- The ends of some commands are told. -/
def report (queue : WriterQueue Worker) (reports : List Report) : WriterQueue Worker :=
  { queue with reports := queue.reports ++ reports }

/-- The place of the next reply. -/
def nextAck (queue : WriterQueue Worker) : CommandAck := queue.replies.length

/-- A reply is made for a write, or for a finalize command. -/
def reply (queue : WriterQueue Worker) (chunk : Option Chunk) : WriterQueue Worker :=
  { queue with replies := queue.replies ++ [chunk] }

/-- What an ack was told, once it was. -/
def answer (queue : WriterQueue Worker) (ack : CommandAck) : Option Told :=
  (queue.reports.find? (fun report => report.1 == ack)).map Prod.snd

-----------------------------------------------------------------------------------------
-- Sending
-----------------------------------------------------------------------------------------

/-- `dispatch_direct`: queue the write, or have a task wait for room, or report the closed
queue.
-/
def dispatchDirect (queue : WriterQueue Worker) (chunk : Chunk) (spawns : Bool)
    : Checked (WriterQueue Worker) :=
  let done := CompletionGuard.new queue.nextAck chunk
  let queue := queue.reply (some chunk)
  match queue.trySend with
  | .sent => .ok (queue.push (.write chunk (.completion done)))
  | .full =>
      if spawns then
        .ok { queue with tasks := queue.tasks ++ [(chunk, done)] }
      else
        .ok (queue.report done.drop)
  | .closed => do
      let reports ← done.complete (.error queueClosed) queue.path
      pure (queue.report reports)

/-- `WriteTask::submit` is polled. -/
def pollTask (queue : WriterQueue Worker) (index : Nat) : Checked (WriterQueue Worker) :=
  match queue.tasks[index]? with
  | none => .ok queue
  | some (chunk, done) =>
      let without := { queue with tasks := queue.tasks.eraseIdx index }
      match queue.trySend with
      | .sent => .ok (without.push (.write chunk (.completion done)))
      | .full => .ok queue
      | .closed => do
          let reports ← (WriteReply.completion done).complete (.error queueClosed) queue.path
          pure (without.report reports)

/-- A task is dropped, and its guard with it. -/
def dropTask (queue : WriterQueue Worker) (index : Nat) : WriterQueue Worker :=
  match queue.tasks[index]? with
  | none => queue
  | some (_, done) =>
      { queue with tasks := queue.tasks.eraseIdx index }.report done.drop

/-- A call of `write_range` returns. -/
def returns (queue : WriterQueue Worker) (index : Nat) (call : WriteCall)
    (result : Except FileWriterError Unit)
    : WriterQueue Worker :=
  { queue with
    calls := queue.calls.eraseIdx index
    returned := queue.returned ++ [(call.ack, result)] }

/-- `write_range` is polled: its command is to be sent, or its ack to be received. -/
def pollCall (queue : WriterQueue Worker) (index : Nat) : WriterQueue Worker :=
  match queue.calls[index]? with
  | none => queue
  | some call =>
      if call.sent then
        match queue.answer call.ack with
        | some (.acked (.ok ())) => queue.returns index call (.ok ())
        | some _ => queue.returns index call (.error (writeRangeError call.chunk queue.path))
        | none => queue
      else
        match queue.trySend with
        | .sent =>
            { queue with calls := queue.calls.set index { call with sent := true } }.push
              (.write call.chunk (.awaited call.ack))
        | .full => queue
        | .closed =>
            -- The rejected command is dropped with the sender of its ack.
            (queue.report (WriteReply.awaited call.ack).drop).returns index call
              (.error (writeRangeError call.chunk queue.path))

/-- A call of `write_range` is dropped: with its command, if that is not in the queue. -/
def dropCall (queue : WriterQueue Worker) (index : Nat) : WriterQueue Worker :=
  match queue.calls[index]? with
  | none => queue
  | some call =>
      { queue with calls := queue.calls.eraseIdx index }.report
        (if call.sent then [] else (WriteReply.awaited call.ack).drop)

-----------------------------------------------------------------------------------------
-- The workers
-----------------------------------------------------------------------------------------

section Workers

variable [DecidableEq Worker]

/-- A worker goes on to its next step. -/
def workerAt (queue : WriterQueue Worker) (worker : Worker) (phase : WorkerPhase)
    : WriterQueue Worker :=
  { queue with workers := Function.update queue.workers worker phase }

/-- `file_writer_task`, `mmap_writer_task` and `CloseOnExit`: the worker's next step. -/
def work (queue : WriterQueue Worker) (worker : Worker) : Checked (WriterQueue Worker) :=
  match queue.workers worker with
  | .receiving =>
      match queue.commands with
      | .write chunk reply :: commands =>
          .ok ({ queue with commands }.workerAt worker (.executing chunk reply))
      | .finalize ack :: commands => .ok ({ queue with commands }.workerAt worker (.acking ack))
      | [] => .ok (if queue.closed then queue.workerAt worker .closing else queue)
  | .replying _ reply result => do
      let reports ← reply.complete result queue.path
      pure ((queue.report reports).workerAt worker .receiving)
  | .unwinding reply => .ok ((queue.report reply.drop).workerAt worker .closing)
  | .closing => .ok ({ queue with closed := true }.workerAt worker .draining)
  | .draining =>
      match queue.commands with
      | command :: commands =>
          .ok ({ queue with commands }.workerAt worker (.dropping command))
      | [] => .ok (queue.workerAt worker .leaving)
  | .dropping command => .ok ((queue.report command.drop).workerAt worker .draining)
  | .leaving => .ok (queue.workerAt worker .gone)
  | .executing .. => .ok queue
  | .acking _ => .ok queue
  | .gone => .ok queue

/-- `execute_write` ends. -/
def execute (queue : WriterQueue Worker) (worker : Worker)
    (outcome : Option (Except IoError Unit))
    : WriterQueue Worker :=
  match queue.workers worker, outcome with
  | .executing chunk reply, some result =>
      { queue with executed := queue.executed ++ [(reply, chunk, result)] }.workerAt worker
        (.replying chunk reply result)
  | .executing _ reply, none => queue.workerAt worker (.unwinding reply)
  | _, _ => queue

/-- The finalize command is acknowledged, and the worker's loop left. -/
def acknowledge (queue : WriterQueue Worker) (worker : Worker) (flushed : Except IoError Unit)
    : WriterQueue Worker :=
  match queue.workers worker with
  | .acking ack => (queue.report [(ack, .acked flushed)]).workerAt worker .closing
  | _ => queue

/-- The worker's next step is its own, and it does not have to wait for a command. -/
def goesOn (queue : WriterQueue Worker) (worker : Worker) : Bool :=
  match queue.workers worker with
  | .receiving => queue.closed || !queue.commands.isEmpty
  | .executing .. => false
  | .acking _ => false
  | .gone => false
  | _ => true

end Workers

-----------------------------------------------------------------------------------------
-- Finalization
-----------------------------------------------------------------------------------------

/-- `joined.and(synced)`. -/
def syncedResult (joined : Except FileWriterError Unit) (synced : Except IoError Unit)
    (path : String)
    : Except FileWriterError Unit :=
  match joined with
  | .ok _ => synced.mapError (fun _ => finalizeError path)
  | .error error => .error error

/-- The next step of `finalize` and `finalize_and_join`. -/
def finalizeStep (queue : WriterQueue Worker) (synced : Except IoError Unit)
    : WriterQueue Worker :=
  match queue.finalizer with
  | .unwrapping => { queue with finalizer := .sending }
  | .sending =>
      match queue.trySend with
      | .sent =>
          { queue.reply none with finalizer := .awaiting queue.nextAck }.push
            (.finalize queue.nextAck)
      | .full => queue
      | .closed => { queue with finalizer := .dropping (.error (finalizeError queue.path)) }
  | .awaiting ack =>
      match queue.answer ack with
      | some (.acked (.ok ())) => { queue with finalizer := .dropping (.ok ()) }
      | some _ => { queue with finalizer := .dropping (.error (finalizeError queue.path)) }
      | none => queue
  -- Closing the channel lets idle workers exit.
  | .dropping result => { queue with closed := true, finalizer := .joining result }
  | .joining result =>
      if queue.kind = .pool then
        { queue with finalizer := .syncing result }
      else
        { queue with finalizer := .returned result }
  | .syncing joined =>
      { queue with finalizer := .returned (syncedResult joined synced queue.path) }
  | .abandoned => { queue with closed := true, finalizer := .dropped }
  | .idle => queue
  | .returned _ => queue
  | .dropped => queue

/-- Nothing else holds the writer. -/
def Owned (queue : WriterQueue Worker) : Prop :=
  queue.shared = false ∧ queue.tasks = [] ∧ queue.calls = []

instance (queue : WriterQueue Worker) : Decidable queue.Owned :=
  inferInstanceAs (Decidable (_ ∧ _ ∧ _))

/-- The finalization has a next step in a phase, and does not have to wait with it. -/
def FinalizeGoesOn (queue : WriterQueue Worker) : FinalizePhase → Prop
  | .unwrapping => queue.Owned
  | .sending => queue.trySend ≠ .full
  | .awaiting ack => (queue.answer ack).isSome = true
  | .dropping _ => True
  | .joining _ => ∀ worker, queue.workers worker = .gone
  | .syncing _ => True
  | .abandoned => queue.Owned
  | .idle => False
  | .returned _ => False
  | .dropped => False

instance [Fintype Worker] (queue : WriterQueue Worker) (phase : FinalizePhase)
    : Decidable (queue.FinalizeGoesOn phase) :=
  match phase with
  | .unwrapping => inferInstanceAs (Decidable queue.Owned)
  | .sending => inferInstanceAs (Decidable (_ ≠ _))
  | .awaiting _ => inferInstanceAs (Decidable (_ = _))
  | .dropping _ => .isTrue trivial
  | .joining _ => inferInstanceAs (Decidable (∀ worker, queue.workers worker = .gone))
  | .syncing _ => .isTrue trivial
  | .abandoned => inferInstanceAs (Decidable queue.Owned)
  | .idle => .isFalse id
  | .returned _ => .isFalse id
  | .dropped => .isFalse id

-----------------------------------------------------------------------------------------
-- The machine
-----------------------------------------------------------------------------------------

/-- A call waits for room in the queue, or for its ack; and it does not have to. -/
def callGoesOn (queue : WriterQueue Worker) (call : WriteCall) : Bool :=
  if call.sent then
    (queue.answer call.ack).isSome
  else
    queue.trySend != .full

variable [DecidableEq Worker]

/-- When an event can happen. -/
def Enabled (queue : WriterQueue Worker) : QueueEvent Worker → Prop
  | .submit .. => queue.shared = true
  | .pollTask index => index < queue.tasks.length ∧ queue.trySend ≠ .full
  | .dropTask index => index < queue.tasks.length
  | .writeRange _ => queue.shared = true
  | .pollCall index => ∃ call ∈ queue.calls[index]?, queue.callGoesOn call = true
  | .dropCall index => index < queue.calls.length
  | .work worker => queue.goesOn worker = true
  | .execute worker _ => (queue.workers worker).executes = true
  | .acknowledge worker flushed =>
      (queue.workers worker).acknowledges = true ∧ (queue.kind = .pool → flushed = .ok ())
  | .unshare => queue.shared = true
  | .finalize => queue.finalizer = .idle
  | .finalizeStep _ => queue.FinalizeGoesOn queue.finalizer
  | .abandon => queue.finalizer.droppable = true

instance [Fintype Worker] (queue : WriterQueue Worker)
    : ∀ event, Decidable (queue.Enabled event)
  | .submit .. => inferInstanceAs (Decidable (_ = _))
  | .pollTask _ => inferInstanceAs (Decidable (_ ∧ _))
  | .dropTask _ => inferInstanceAs (Decidable (_ < _))
  | .writeRange _ => inferInstanceAs (Decidable (_ = _))
  | .pollCall _ => inferInstanceAs (Decidable (∃ _ ∈ _, _))
  | .dropCall _ => inferInstanceAs (Decidable (_ < _))
  | .work _ => inferInstanceAs (Decidable (_ = _))
  | .execute .. => inferInstanceAs (Decidable (_ = _))
  | .acknowledge .. => inferInstanceAs (Decidable (_ ∧ (_ → _)))
  | .unshare => inferInstanceAs (Decidable (_ = _))
  | .finalize => inferInstanceAs (Decidable (_ = _))
  | .finalizeStep _ => inferInstanceAs (Decidable (queue.FinalizeGoesOn queue.finalizer))
  | .abandon => inferInstanceAs (Decidable (_ = _))

/-- The state an event leads to. -/
def next (queue : WriterQueue Worker) : QueueEvent Worker → Checked (WriterQueue Worker)
  | .submit chunk spawns => queue.dispatchDirect chunk spawns
  | .pollTask index => queue.pollTask index
  | .dropTask index =>
      .ok (queue.dropTask index)
  | .writeRange chunk =>
      .ok { queue.reply (some chunk) with
        calls := queue.calls ++ [⟨queue.nextAck, chunk, false⟩] }
  | .pollCall index => .ok (queue.pollCall index)
  | .dropCall index => .ok (queue.dropCall index)
  | .work worker => queue.work worker
  | .execute worker outcome => .ok (queue.execute worker outcome)
  | .acknowledge worker flushed => .ok (queue.acknowledge worker flushed)
  | .unshare => .ok { queue with shared := false }
  | .finalize => .ok { queue with finalizer := .unwrapping }
  | .finalizeStep synced => .ok (queue.finalizeStep synced)
  | .abandon => .ok { queue with finalizer := .abandoned }

/-- `PoolWriterBuilder::build` and `MmapWriterBuilder::build`, whose workers are `Worker`; with
none of them nothing receives, and the channel is closed.
-/
def built [Fintype Worker] (kind : FileRangeWriterKind) (path : String) (room : Nat)
    : WriterQueue Worker where
  kind
  path
  room
  commands := []
  closed := decide (Fintype.card Worker = 0)
  workers _ := .receiving
  tasks := []
  calls := []
  shared := true
  finalizer := .idle
  replies := []
  reports := []
  executed := []
  returned := []

/-- The backends with a queue before their workers: any number for a pool, one for a map. -/
inductive Opens (Worker : Type) [Fintype Worker] : FileRangeWriterKind → Prop
  | pool : Opens Worker .pool
  | mmap (one : Fintype.card Worker = 1) : Opens Worker .mmap

/-- The queue over every interleaving of its parties' steps. -/
def machine (Worker : Type) [DecidableEq Worker] [Fintype Worker]
    : Machine (WriterQueue Worker) (QueueEvent Worker) Panic where
  Initial queue :=
    ∃ kind path room, Opens Worker kind ∧ 0 < room ∧ queue = built kind path room
  Enabled := Enabled
  next := next

instance [Fintype Worker] (queue : WriterQueue Worker) (event : QueueEvent Worker)
    : Decidable ((machine Worker).Enabled queue event) :=
  inferInstanceAs (Decidable (queue.Enabled event))

end WriterQueue

end BoltLoad
