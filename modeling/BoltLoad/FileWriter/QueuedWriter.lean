import BoltLoad.FileWriter.Accounting
import BoltLoad.FileWriter.QueueProgress

/-! The pending writer with the queue of its backend. `dispatch_direct` queues what an
operation dispatches, and every completion the backend sends is received by the pending writer.
-/

namespace BoltLoad

-----------------------------------------------------------------------------------------
-- The two together
-----------------------------------------------------------------------------------------

/-- An operation of the pending writer. -/
inductive WriterOperation
  | writeRange (range : Range) (data : Bytes)
  | tryTick
  | pollCompletions
  | flush (finish : Bool)
  | flushStep
  deriving DecidableEq

/-- The operation, given how a write it dispatches ends before the dispatch returns. -/
def WriterOperation.event (immediate : Immediate) : WriterOperation → WriterEvent
  | .writeRange range data => .writeRange range data immediate
  | .tryTick => .tryTick immediate
  | .pollCompletions => .pollCompletions immediate
  | .flush finish => .flush finish immediate
  | .flushStep => .flushStep immediate

/-- The write an operation dispatches, if it dispatches one. -/
def WriterOperation.chunk (writer : PendingWriter) : WriterOperation → Option Chunk
  | .writeRange range data => some ⟨range, data⟩
  | _ => writer.pendingWrite.map PendingWrite.chunk

/-- The completion told of a write. -/
def Told.completion : Told → Option WriteCompletion
  | .completed completion => some completion
  | _ => none

/-- A pending writer made by `new_direct`, and the queue of its backend. -/
structure QueuedWriter (Worker : Type) where
  run : WriterRun
  queue : WriterQueue Worker
  /-- The replies of the outstanding writes, in their order. -/
  acks : List CommandAck

inductive QueuedEvent (Worker : Type)
  /-- An operation; where the queue is full, the runtime may reject the task it spawns. -/
  | operate (operation : WriterOperation) (spawns : Bool)
  /-- A step of the backend, of a task waiting for room, or of the finalization. -/
  | backend (event : QueueEvent Worker)
  deriving DecidableEq

namespace QueuedWriter

variable {Worker : Type}

/-- How a write that was just dispatched ended already. -/
def immediate (queue sent : WriterQueue Worker) : Immediate :=
  ((sent.reports.drop queue.reports.length).filterMap (fun report =>
    report.2.completion)).head?.map WriteCompletion.result

/-- An operation, with the write it dispatches sent to the backend. -/
def operate (state : QueuedWriter Worker) (operation : WriterOperation) (spawns : Bool)
    : Checked (QueuedWriter Worker) :=
  match operation.chunk state.run.writer with
  | none => do
      let run ← state.run.next (operation.event none)
      pure { state with run }
  | some chunk => do
      let sent ← state.queue.dispatchDirect chunk spawns
      let immediate := immediate state.queue sent
      let run ← state.run.next (operation.event immediate)
      if run.writer.dispatched = state.run.writer.dispatched then
        pure { state with run }
      else
        pure {
          run
          queue := sent
          acks := if immediate.isSome then state.acks else state.acks ++ [state.queue.nextAck] }

/-- The pending writer receives what the backend told. -/
def receive (state : QueuedWriter Worker) : List Report → Checked (QueuedWriter Worker)
  | [] => .ok state
  | (ack, told) :: reports => do
      match told.completion with
      | none => state.receive reports
      | some completion =>
          let run ← state.run.next (.complete (state.acks.idxOf ack) completion.result)
          receive { state with run, acks := state.acks.erase ack } reports

variable [DecidableEq Worker]

/-- The events of the backend beside its pending writer, which alone hands writes over, and
shares it until it is finished.
-/
def Allows (run : WriterRun) : QueueEvent Worker → Prop
  | .submit .. => False
  | .writeRange _ => False
  | .unshare => run.call = .finished
  | _ => True

instance (run : WriterRun) : ∀ event : QueueEvent Worker, Decidable (Allows run event)
  | .submit .. => .isFalse id
  | .writeRange _ => .isFalse id
  | .unshare => inferInstanceAs (Decidable (_ = _))
  | .pollTask _ => .isTrue trivial
  | .dropTask _ => .isTrue trivial
  | .pollCall _ => .isTrue trivial
  | .dropCall _ => .isTrue trivial
  | .work _ => .isTrue trivial
  | .execute .. => .isTrue trivial
  | .acknowledge .. => .isTrue trivial
  | .finalize => .isTrue trivial
  | .finalizeStep _ => .isTrue trivial
  | .abandon => .isTrue trivial

/-- When an event can happen. -/
def Enabled (state : QueuedWriter Worker) : QueuedEvent Worker → Prop
  | .operate operation _ =>
      state.queue.shared = true ∧ state.run.Enabled (operation.event none)
  | .backend event => Allows state.run event ∧ state.queue.Enabled event

instance [Fintype Worker] (state : QueuedWriter Worker)
    : ∀ event, Decidable (state.Enabled event)
  | .operate .. => inferInstanceAs (Decidable (_ ∧ _))
  | .backend _ => inferInstanceAs (Decidable (_ ∧ _))

def next (state : QueuedWriter Worker) : QueuedEvent Worker → Checked (QueuedWriter Worker)
  | .operate operation spawns => state.operate operation spawns
  | .backend event => do
      let queue ← state.queue.next event
      receive { state with queue } (queue.reports.drop state.queue.reports.length)

/-- The two over every interleaving of their steps. -/
def machine (Worker : Type) [DecidableEq Worker] [Fintype Worker]
    : Machine (QueuedWriter Worker) (QueuedEvent Worker) Panic where
  Initial state :=
    ∃ capacity queue,
      (WriterQueue.machine Worker).Initial queue
      ∧ state = ⟨.new capacity, queue, []⟩
  Enabled := Enabled
  next := next

instance [Fintype Worker] (state : QueuedWriter Worker) (event : QueuedEvent Worker)
    : Decidable ((machine Worker).Enabled state event) :=
  inferInstanceAs (Decidable (state.Enabled event))

end QueuedWriter

-----------------------------------------------------------------------------------------
-- What an operation dispatches
-----------------------------------------------------------------------------------------

namespace PendingWriter

/-- What an operation that took some completions did: it dispatched nothing, or one write, which
is with the backend or ended at once.
-/
inductive Operates (writer after : PendingWriter) (candidate : Option Chunk)
    (immediate : Immediate) (took : List WriteCompletion)
    : Prop
  | quiet (dispatched : after.dispatched = writer.dispatched)
    (outstanding : after.outstanding = writer.outstanding)
    (completions : took ++ after.completions = writer.completions)
  | holds {chunk} (candidate : candidate = some chunk) (immediate : immediate = none)
    (dispatched : after.dispatched = writer.dispatched ++ [chunk])
    (outstanding : after.outstanding = writer.outstanding ++ [chunk])
    (completions : took ++ after.completions = writer.completions)
  | ends {chunk result} (candidate : candidate = some chunk) (immediate : immediate = some result)
    (dispatched : after.dispatched = writer.dispatched ++ [chunk])
    (outstanding : after.outstanding = writer.outstanding)
    (completions : took ++ after.completions = writer.completions ++ [⟨chunk.range, result⟩])

variable {writer after : PendingWriter} {immediate : Immediate}

theorem operates_dispatchWrite {chunk : Chunk}
    (dispatches : writer.dispatchWrite chunk immediate = .ok after)
    : writer.Operates after (some chunk) immediate [] := by
  cases immediate with
  | none =>
      cases dispatches
      exact .holds rfl rfl rfl rfl rfl
  | some result =>
      simp only [dispatchWrite, publish] at dispatches
      split at dispatches
      · cases dispatches
        exact .ends rfl rfl rfl rfl rfl
      · cases dispatches

theorem operates_writeRange {range : Range} {data : Bytes}
    {result : Except WriterFullError WriteStatus}
    (writes : writer.writeRange range data immediate = .ok (result, after))
    : writer.Operates after (some ⟨range, data⟩) immediate [] := by
  unfold writeRange at writes
  split at writes
  · obtain ⟨dispatched, dispatches, same⟩ := Checked.bind_eq_ok.mp writes
    cases same
    exact operates_dispatchWrite dispatches
  · split at writes
    · cases writes
      exact .quiet rfl rfl rfl
    · cases writes
      exact .quiet rfl rfl rfl

/-- Settling dispatches at most the buffered write. -/
theorem operates_tryTick {completions : List WriteCompletion}
    (ticks : writer.tryTick immediate = .ok (completions, after))
    : completions = writer.completions
      ∧ writer.Operates after (writer.pendingWrite.map PendingWrite.chunk) immediate
          completions := by
  obtain ⟨settled, settles, same⟩ := Checked.bind_eq_ok.mp ticks
  obtain ⟨rfl, rfl⟩ := Prod.mk.inj (Except.ok.inj same)
  refine ⟨rfl, ?_⟩
  obtain ⟨acked, acks, settles⟩ := Checked.bind_eq_ok.mp settles
  obtain ⟨flushed, flushes, behind⟩ := Checked.bind_eq_ok.mp settles
  have kept : acked.dispatched = writer.dispatched
      ∧ acked.outstanding = writer.outstanding
      ∧ acked.completions = []
      ∧ acked.pendingWrite = writer.pendingWrite := by
    obtain ⟨inFlight, _, same⟩ := Checked.bind_eq_ok.mp acks
    cases same
    exact ⟨rfl, rfl, rfl, rfl⟩
  obtain ⟨dispatched, outstanding, completions, pendingWrite⟩ := kept
  have same : flushed = settled := by
    unfold assertBehind at behind
    split at behind
    · exact Except.ok.inj behind
    · cases behind
  subst same
  have quiet (same : flushed.dispatched = acked.dispatched)
      (still : flushed.outstanding = acked.outstanding)
      (none : flushed.completions = acked.completions)
      : writer.Operates flushed (writer.pendingWrite.map PendingWrite.chunk) immediate
          writer.completions :=
    .quiet (same.trans dispatched) (still.trans outstanding)
      (by rw [none, completions, List.append_nil])
  split at flushes
  · cases flushes
    exact quiet rfl rfl rfl
  · unfold tryFlushPending at flushes
    split at flushes
    · cases flushes
      exact quiet rfl rfl rfl
    · simp only [pendingWrite] at flushes
      cases buffered : writer.pendingWrite with
      | none =>
          rw [buffered] at flushes quiet
          cases flushes
          exact quiet rfl rfl rfl
      | some write =>
          simp only [buffered] at flushes
          rw [buffered] at quiet
          cases operates_dispatchWrite flushes with
          | quiet same still none => exact quiet same still none
          | @holds chunk candidate none dispatched' outstanding' completions' =>
              refine .holds candidate none ?_ ?_ ?_
              · rw [dispatched', ← dispatched]
              · rw [outstanding', ← outstanding]
              · rw [show flushed.completions = [] from completions'.trans completions,
                  List.append_nil]
          | @ends chunk result candidate ended dispatched' outstanding' completions' =>
              refine .ends candidate ended ?_ ?_ ?_
              · rw [dispatched', ← dispatched]
              · rw [outstanding', ← outstanding]
              · have one : flushed.completions = [⟨chunk.range, result⟩] := by
                  have same : flushed.completions = acked.completions ++ _ := completions'
                  rw [same, completions]
                  rfl
                rw [one]

end PendingWriter

namespace WriterRun

variable {run after : WriterRun} {immediate : Immediate}

/-- Every completion the pending writer received, in order. -/
def told (run : WriterRun) : List WriteCompletion :=
  run.reported ++ run.taken ++ run.writer.completions

/-- What an operation did: the completions it took go to its caller. -/
def Operates (run after : WriterRun) (candidate : Option Chunk) (immediate : Immediate) : Prop :=
  ∃ took,
    run.writer.Operates after.writer candidate immediate took
    ∧ after.reported ++ after.taken = run.reported ++ run.taken ++ took

theorem operates_flushStep {finish : Bool} {completions : List WriteCompletion}
    (flushing : run.call = .flushing finish completions)
    (next : run.continueFlush finish completions immediate = .ok after)
    : run.Operates after (run.writer.pendingWrite.map PendingWrite.chunk) immediate := by
  obtain ⟨⟨polled, writer⟩, steps, same⟩ := Checked.bind_eq_ok.mp next
  unfold PendingWriter.flushStep at steps
  split at steps
  · obtain ⟨⟨batch, writer'⟩, polls, rest⟩ := Checked.bind_eq_ok.mp steps
    obtain ⟨rfl, rfl⟩ := Prod.mk.inj (Except.ok.inj rest)
    cases same
    have unpolled (none : (none, run.writer) = (batch, writer'))
        : run.Operates
            { run with writer := writer', call := .flushing finish (completions ++ batch.getD []) }
            (run.writer.pendingWrite.map PendingWrite.chunk) immediate := by
      cases none
      refine ⟨[], .quiet rfl rfl rfl, ?_⟩
      simp only [taken, flushing, Option.getD_none, List.append_nil]
    unfold PendingWriter.pollCompletions at polls
    split at polls
    · exact unpolled (Except.ok.inj polls)
    · split at polls
      · exact unpolled (Except.ok.inj polls)
      · obtain ⟨⟨took, ticked⟩, ticks, rest⟩ := Checked.bind_eq_ok.mp polls
        obtain ⟨rfl, rfl⟩ := Prod.mk.inj (Except.ok.inj rest)
        obtain ⟨rfl, operates⟩ := PendingWriter.operates_tryTick ticks
        refine ⟨_, operates, ?_⟩
        simp only [taken, flushing, Option.getD_some, List.append_assoc]
  · obtain ⟨rfl, rfl⟩ := Prod.mk.inj (Except.ok.inj steps)
    cases same
    refine ⟨[], .quiet rfl rfl rfl, ?_⟩
    cases finish <;> simp [taken, flushing]

/-- Every operation. -/
theorem operates_next {operation : WriterOperation}
    (enabled : run.Enabled (operation.event immediate))
    (next : run.next (operation.event immediate) = .ok after)
    : run.Operates after (operation.chunk run.writer) immediate := by
  have idle (same : run.call = .idle) : run.taken = [] := by
    simp only [taken, same]
  cases operation with
  | writeRange range data =>
      obtain ⟨⟨result, writer⟩, writes, same⟩ := Checked.bind_eq_ok.mp next
      cases same
      exact ⟨[], PendingWriter.operates_writeRange writes, (List.append_nil _).symm⟩
  | tryTick =>
      have none := idle enabled
      obtain ⟨⟨completions, writer⟩, ticks, same⟩ := Checked.bind_eq_ok.mp next
      cases same
      obtain ⟨rfl, operates⟩ := PendingWriter.operates_tryTick ticks
      refine ⟨_, operates, ?_⟩
      have still : taken { run with writer, reported := run.reported ++ run.writer.completions }
          = run.taken := rfl
      rw [still, none, List.append_nil, List.append_nil]
  | pollCompletions =>
      have untaken := idle enabled
      obtain ⟨⟨polled, writer⟩, polls, same⟩ := Checked.bind_eq_ok.mp next
      cases same
      have still : taken { run with writer, reported := run.reported ++ polled.getD [] }
          = run.taken := rfl
      have unpolled (same : (none, run.writer) = (polled, writer))
          : run.Operates { run with writer, reported := run.reported ++ polled.getD [] }
              (run.writer.pendingWrite.map PendingWrite.chunk) immediate := by
        cases same
        refine ⟨[], .quiet rfl rfl rfl, ?_⟩
        simp only [Option.getD_none, List.append_nil]
      unfold PendingWriter.pollCompletions at polls
      split at polls
      · exact unpolled (Except.ok.inj polls)
      · split at polls
        · exact unpolled (Except.ok.inj polls)
        · obtain ⟨⟨took, ticked⟩, ticks, rest⟩ := Checked.bind_eq_ok.mp polls
          obtain ⟨rfl, rfl⟩ := Prod.mk.inj (Except.ok.inj rest)
          obtain ⟨rfl, operates⟩ := PendingWriter.operates_tryTick ticks
          refine ⟨_, operates, ?_⟩
          rw [still, untaken, List.append_nil, List.append_nil]
          rfl
  | flush finish =>
      have none := idle enabled
      obtain ⟨⟨completions, writer⟩, ticks, same⟩ := Checked.bind_eq_ok.mp next
      cases same
      obtain ⟨rfl, operates⟩ := PendingWriter.operates_tryTick ticks
      refine ⟨_, operates, ?_⟩
      rw [none, List.append_nil]
      rfl
  | flushStep =>
      obtain ⟨finish, completions, flushing⟩ := enabled
      simp only [WriterOperation.event, WriterRun.next, flushing] at next
      exact operates_flushStep flushing next

/-- What an operation did to what was dispatched, is outstanding and was told. -/
theorem Operates.told_eq {candidate : Option Chunk} (operates : run.Operates after candidate immediate)
    : (after.writer.dispatched = run.writer.dispatched
        ∧ after.writer.outstanding = run.writer.outstanding
        ∧ after.told = run.told)
      ∨ ∃ chunk,
          candidate = some chunk
          ∧ after.writer.dispatched = run.writer.dispatched ++ [chunk]
          ∧ (immediate = none
              ∧ after.writer.outstanding = run.writer.outstanding ++ [chunk]
              ∧ after.told = run.told
            ∨ ∃ result,
                immediate = some result
                ∧ after.writer.outstanding = run.writer.outstanding
                ∧ after.told = run.told ++ [⟨chunk.range, result⟩]) := by
  obtain ⟨took, operates, passed⟩ := operates
  have told {now : List WriteCompletion} (completions : took ++ after.writer.completions = now)
      : after.told = run.reported ++ run.taken ++ now := by
    rw [WriterRun.told, passed, List.append_assoc, completions]
  cases operates with
  | quiet dispatched outstanding completions =>
      exact .inl ⟨dispatched, outstanding, told completions⟩
  | @holds chunk is none dispatched outstanding completions =>
      exact .inr ⟨chunk, is, dispatched, .inl ⟨none, outstanding, told completions⟩⟩
  | @ends chunk result is ended dispatched outstanding completions =>
      refine .inr ⟨chunk, is, dispatched, .inr ⟨result, ended, outstanding, ?_⟩⟩
      rw [told completions, ← List.append_assoc]
      rfl

end WriterRun

end BoltLoad
