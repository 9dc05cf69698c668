import BoltLoad.FileWriter.QueuedWriter

/-! What the pending writer and its backend agree on. The replies of the outstanding writes are
those the backend has still to tell of, and what it told the pending writer received.
-/

namespace BoltLoad

-----------------------------------------------------------------------------------------
-- What the backend tells the pending writer
-----------------------------------------------------------------------------------------

/-- The reply goes to the pending writer. -/
def WriteReply.direct : WriteReply → Bool
  | .awaited _ => false
  | .completion _ => true

def Command.direct : Command → Bool
  | .write _ reply => reply.direct
  | .finalize _ => true

/-- What a worker holds goes to the pending writer. -/
def WorkerPhase.direct : WorkerPhase → Bool
  | .executing _ reply => reply.direct
  | .replying _ reply _ => reply.direct
  | .unwinding reply => reply.direct
  | .dropping command => command.direct
  | _ => true

namespace WriterQueue

variable {Worker : Type} {queue after : WriterQueue Worker}

/-- Every write was handed over by the pending writer. -/
structure Direct (queue : WriterQueue Worker) : Prop where
  calls : queue.calls = []
  commands : ∀ command ∈ queue.commands, command.direct = true
  workers : ∀ worker, (queue.workers worker).direct = true

/-- What one event told: nothing, the completion of a write, or the answer to `finalize`. -/
inductive Tells (queue after : WriterQueue Worker) : Prop
  | silent (reports : after.reports = queue.reports)
  | completes {ack chunk completion}
    (reports : after.reports = queue.reports ++ [(ack, .completed completion)])
    (made : after.replies[ack]? = some (some chunk)) (range : completion.range = chunk.range)
  | answers {ack told} (reports : after.reports = queue.reports ++ [(ack, told)])
    (untold : told.completion = none) (made : after.replies[ack]? = some none)

theorem Direct.workerAt [DecidableEq Worker] (direct : queue.Direct) {commands : List Command}
    {closed : Bool} {reports : List Report}
    {executed : List (WriteReply × Chunk × Except IoError Unit)} {worker : Worker}
    {phase : WorkerPhase} (fewer : ∀ command ∈ commands, command ∈ queue.commands)
    (is : phase.direct = true)
    : Direct ({ queue with commands, closed, reports, executed }.workerAt worker phase) where
  calls := direct.calls
  commands := fun command inside => direct.commands command (fewer command inside)
  workers := by
    intro other
    by_cases here : other = worker
    · rw [here]
      simp only [WriterQueue.workerAt, Function.update_self]
      exact is
    · simp only [WriterQueue.workerAt, Function.update_of_ne here]
      exact direct.workers other

/-- A reply to the pending writer is told as a completion of its write. -/
theorem completes_of {reply : WriteReply} {chunk : Chunk} {result : Except IoError Unit}
    {reports : List Report} (made : reply.For queue.replies chunk) (direct : reply.direct = true)
    (completes : reply.complete result queue.path = .ok reports)
    (told : after.reports = queue.reports ++ reports) (replies : after.replies = queue.replies)
    : queue.Tells after := by
  obtain ⟨ack, is, rfl | rfl⟩ := made
  · cases direct
  · cases completes
    refine .completes told ?_ rfl
    rw [replies]
    exact is

/-- So it is when it is dropped. -/
theorem drops_of {reply : WriteReply} {chunk : Chunk} (made : reply.For queue.replies chunk)
    (direct : reply.direct = true) (told : after.reports = queue.reports ++ reply.drop)
    (replies : after.replies = queue.replies)
    : queue.Tells after := by
  obtain ⟨ack, is, rfl | rfl⟩ := made
  · cases direct
  · refine .completes told ?_ rfl
    rw [replies]
    exact is

/-- A command that goes to the pending writer enters the queue. -/
theorem Direct.pushes (direct : queue.Direct) {command : Command}
    (is : command.direct = true) (commands : after.commands = queue.commands ++ [command])
    (workers : after.workers = queue.workers) (calls : after.calls = queue.calls)
    : after.Direct where
  calls := calls.trans direct.calls
  commands := by
    rw [commands]
    intro other inside
    rcases List.mem_append.mp inside with earlier | last
    · exact direct.commands other earlier
    · cases List.mem_singleton.mp last
      exact is
  workers := by
    rw [workers]
    exact direct.workers

theorem Direct.same (direct : queue.Direct) (commands : after.commands = queue.commands)
    (workers : after.workers = queue.workers) (calls : after.calls = queue.calls)
    : after.Direct where
  calls := calls.trans direct.calls
  commands := by
    rw [commands]
    exact direct.commands
  workers := by
    rw [workers]
    exact direct.workers

variable [DecidableEq Worker]

/-- Every step that is not a call of `write_range`. -/
theorem Moves.tells [Fintype Worker] {event : QueueEvent Worker} (moves : queue.Moves event after)
    (sound : queue.Sound) (direct : queue.Direct) (called : ∀ chunk, event ≠ .writeRange chunk)
    : queue.Tells after ∧ after.Direct := by
  have uncalled {index : Nat} {call : WriteCall} (is : queue.calls[index]? = some call)
      : False := by
    rw [direct.calls] at is
    cases is
  have works {worker : Worker} {phase : WorkerPhase} (is : queue.workers worker = phase)
      : phase.direct = true :=
    is ▸ direct.workers worker
  have made {worker : Worker} {phase : WorkerPhase} (is : queue.workers worker = phase)
      : phase.Sound queue.replies :=
    is ▸ sound.workers worker
  cases moves with
  | submitted shared sent => exact ⟨.silent rfl, direct.pushes rfl rfl rfl rfl⟩
  | spawned shared full => exact ⟨.silent rfl, direct.same rfl rfl rfl⟩
  | @rejected chunk shared full =>
      exact ⟨.completes rfl List.getElem?_concat_length rfl, direct.same rfl rfl rfl⟩
  | @refused chunk spawns reports shared closed completes =>
      cases completes
      exact ⟨.completes rfl List.getElem?_concat_length rfl, direct.same rfl rfl rfl⟩
  | taskSent is sent => exact ⟨.silent rfl, direct.pushes rfl rfl rfl rfl⟩
  | @taskRefused index chunk done reports is closed completes =>
      have held := sound.tasks _ (List.mem_of_getElem? is)
      have completes' : (WriteReply.completion done).complete (.error queueClosed) queue.path
          = .ok reports := completes
      exact ⟨completes_of held rfl completes' rfl rfl, direct.same rfl rfl rfl⟩
  | @taskDropped index chunk done is =>
      have held := sound.tasks _ (List.mem_of_getElem? is)
      exact ⟨drops_of held rfl rfl rfl, direct.same rfl rfl rfl⟩
  | called shared => exact absurd rfl (called _)
  | callSent is unsent sent => exact (uncalled is).elim
  | callRefused is unsent closed => exact (uncalled is).elim
  | callReturned is sent answer succeeds => exact (uncalled is).elim
  | callDropped is sent => exact (uncalled is).elim
  | unsentDropped is unsent => exact (uncalled is).elim
  | @took worker chunk reply commands receiving first =>
      have first' := direct.commands (.write chunk reply) (by rw [first]; exact .head _)
      exact ⟨.silent rfl, direct.workerAt
        (fun command inside => by rw [first]; exact .tail _ inside) first'⟩
  | tookFinalize receiving first =>
      exact ⟨.silent rfl, direct.workerAt
        (fun command inside => by rw [first]; exact .tail _ inside) rfl⟩
  | ended receiving empty closed =>
      exact ⟨.silent rfl, direct.workerAt (fun _ => id) rfl⟩
  | @executed worker chunk reply result executing =>
      have held : (WorkerPhase.executing chunk reply).direct = true := works executing
      exact ⟨.silent rfl, direct.workerAt (fun _ => id) held⟩
  | @panicked worker chunk reply executing =>
      have held : (WorkerPhase.executing chunk reply).direct = true := works executing
      exact ⟨.silent rfl, direct.workerAt (fun _ => id) held⟩
  | replied replying completes =>
      exact ⟨completes_of (made replying) (works replying) completes rfl rfl,
        direct.workerAt (fun _ => id) rfl⟩
  | unwound unwinding =>
      obtain ⟨chunk, held⟩ := made unwinding
      exact ⟨drops_of held (works unwinding) rfl rfl, direct.workerAt (fun _ => id) rfl⟩
  | acknowledged acking =>
      exact ⟨.answers rfl rfl (made acking), direct.workerAt (fun _ => id) rfl⟩
  | closes closing => exact ⟨.silent rfl, direct.workerAt (fun _ => id) rfl⟩
  | @drained worker command commands draining first =>
      have first' := direct.commands command (by rw [first]; exact .head _)
      exact ⟨.silent rfl, direct.workerAt
        (fun command inside => by rw [first]; exact .tail _ inside) first'⟩
  | emptied draining empty => exact ⟨.silent rfl, direct.workerAt (fun _ => id) rfl⟩
  | @commandDropped worker command dropping =>
      have held := made dropping
      have direct' := works dropping
      refine ⟨?_, direct.workerAt (fun _ => id) rfl⟩
      cases command with
      | write chunk reply => exact drops_of held direct' rfl rfl
      | finalize ack => exact .answers rfl rfl held
  | left leaving => exact ⟨.silent rfl, direct.workerAt (fun _ => id) rfl⟩
  | finalizeSent sending sent => exact ⟨.silent rfl, direct.pushes rfl rfl rfl rfl⟩
  | owner moves => exact ⟨.silent rfl, direct.same rfl rfl rfl⟩

/-- Only a write handed over makes a reply for a write. -/
theorem Moves.makes {event : QueueEvent Worker} (moves : queue.Moves event after)
    (silent : event.handsOver = false)
    : ∃ more, after.replies = queue.replies ++ more ∧ ∀ made ∈ more, made = none := by
  have same (replies : after.replies = queue.replies)
      : ∃ more, after.replies = queue.replies ++ more ∧ ∀ made ∈ more, made = none :=
    ⟨[], replies.trans (List.append_nil _).symm, fun _ never => by cases never⟩
  cases moves with
  | submitted shared sent => cases silent
  | spawned shared full => cases silent
  | rejected shared full => cases silent
  | refused shared closed completes => cases silent
  | called shared => cases silent
  | finalizeSent sending sent => exact ⟨[none], rfl, fun _ => List.mem_singleton.mp⟩
  | _ => exact same rfl

/-- A write that is submitted has the next reply, which may be told at once. -/
theorem Moves.submits {chunk : Chunk} {spawns : Bool}
    (moves : queue.Moves (.submit chunk spawns) after)
    : after.replies = queue.replies ++ [some chunk]
      ∧ (after.reports = queue.reports
        ∨ ∃ result,
            after.reports = queue.reports ++ [(queue.nextAck, .completed ⟨chunk.range, result⟩)])
    := by
  cases moves with
  | submitted shared sent => exact ⟨rfl, .inl rfl⟩
  | spawned shared full => exact ⟨rfl, .inl rfl⟩
  | rejected shared full => exact ⟨rfl, .inr ⟨_, rfl⟩⟩
  | refused shared closed completes =>
      cases completes
      exact ⟨rfl, .inr ⟨_, rfl⟩⟩
  | owner moves => cases moves

end WriterQueue

-----------------------------------------------------------------------------------------
-- The coupling
-----------------------------------------------------------------------------------------

namespace WriterRun

variable {run after : WriterRun}

/-- A completion of an outstanding write is received. -/
theorem receives {index : Nat} {chunk : Chunk} {completion : WriteCompletion}
    (outstanding : run.writer.outstanding[index]? = some chunk)
    (range : completion.range = chunk.range)
    (next : run.next (.complete index completion.result) = .ok after)
    : after.writer.dispatched = run.writer.dispatched
      ∧ after.writer.outstanding = run.writer.outstanding.eraseIdx index
      ∧ after.told = run.told ++ [completion]
      ∧ after.call = run.call := by
  obtain ⟨writer, completes, same⟩ := Checked.bind_eq_ok.mp next
  cases same
  simp only [PendingWriter.complete, outstanding, PendingWriter.publish] at completes
  split at completes
  · cases completes
    refine ⟨rfl, rfl, ?_, rfl⟩
    rw [← range]
    exact (List.append_assoc ..).symm
  · cases completes

theorem enabled_event {operation : WriterOperation} (immediate : Immediate)
    (enabled : run.Enabled (operation.event none))
    : run.Enabled (operation.event immediate) := by
  cases operation <;> exact enabled

end WriterRun

namespace QueuedWriter

variable {Worker : Type}

/-- The completion a report brings, if it brings one. -/
def brought (report : Report) : Option WriteCompletion := report.2.completion

/-- The pending writer and its backend agree on the writes: on those dispatched, on those that
are still to complete, and on what was told of the others.
-/
structure Coupled (state : QueuedWriter Worker) : Prop where
  direct : state.queue.Direct
  made : state.queue.replies.filterMap id = state.run.writer.dispatched
  held
    : state.acks.map (fun ack => state.queue.replies[ack]?)
      = state.run.writer.outstanding.map (fun chunk => some (some chunk))
  apart : state.acks.Nodup
  untold
    : ∀ ack chunk,
        state.queue.replies[ack]? = some (some chunk)
        → (ack ∈ state.acks ↔ ack ∉ state.queue.reports.map Prod.fst)
  told : state.run.told = state.queue.reports.filterMap brought
  completed
    : ∀ report ∈ state.queue.reports,
        (∃ chunk, state.queue.replies[report.1]? = some (some chunk))
        ↔ ∃ completion, report.2 = .completed completion

/-- The outstanding write of a reply. -/
theorem Coupled.outstanding {state : QueuedWriter Worker} (coupled : state.Coupled)
    {ack : CommandAck} {chunk : Chunk} (inside : ack ∈ state.acks)
    (made : state.queue.replies[ack]? = some (some chunk))
    : state.run.writer.outstanding[state.acks.idxOf ack]? = some chunk := by
  have same := congrArg (fun list => list[state.acks.idxOf ack]?) coupled.held
  simp only [List.getElem?_map, List.getElem?_idxOf inside, Option.map_some, made] at same
  obtain ⟨other, is, eq⟩ := Option.map_eq_some_iff.mp same.symm
  cases eq
  exact is

/-- The replies of the outstanding writes were made. -/
theorem Coupled.made_of_mem {state : QueuedWriter Worker} (coupled : state.Coupled)
    {ack : CommandAck} (inside : ack ∈ state.acks)
    : ∃ chunk, state.queue.replies[ack]? = some (some chunk) := by
  have member : state.queue.replies[ack]?
      ∈ state.run.writer.outstanding.map (fun chunk => some (some chunk)) :=
    coupled.held ▸ List.mem_map_of_mem inside
  obtain ⟨chunk, _, same⟩ := List.mem_map.mp member
  exact ⟨chunk, same.symm⟩

section Steps

variable {state : QueuedWriter Worker} {queue : WriterQueue Worker} {run : WriterRun}

/-- An operation that dispatches nothing. -/
theorem Coupled.quiet (coupled : state.Coupled)
    (dispatched : run.writer.dispatched = state.run.writer.dispatched)
    (outstanding : run.writer.outstanding = state.run.writer.outstanding)
    (told : run.told = state.run.told)
    : Coupled { state with run } where
  direct := coupled.direct
  made := coupled.made.trans dispatched.symm
  held := coupled.held.trans (congrArg _ outstanding.symm)
  apart := coupled.apart
  untold := coupled.untold
  told := told.trans coupled.told
  completed := coupled.completed

variable [Fintype Worker]

omit [Fintype Worker] in
/-- More replies do not concern the outstanding writes. -/
theorem Coupled.held_append (coupled : state.Coupled) (more : List (Option Chunk))
    : state.acks.map (fun ack => (state.queue.replies ++ more)[ack]?)
      = state.run.writer.outstanding.map (fun chunk => some (some chunk)) := by
  rw [← coupled.held]
  refine List.map_congr_left (fun ack inside => ?_)
  obtain ⟨chunk, made⟩ := coupled.made_of_mem inside
  rw [made, getElem?_append_of_eq made]

omit [Fintype Worker] in
/-- The next reply is of no outstanding write. -/
theorem Coupled.next_not_mem (coupled : state.Coupled) : state.queue.nextAck ∉ state.acks := by
  intro inside
  obtain ⟨chunk, made⟩ := coupled.made_of_mem inside
  exact Nat.lt_irrefl _ (List.getElem?_eq_some_iff.mp made).1

omit [Fintype Worker] in
theorem Coupled.made_append (coupled : state.Coupled) {chunk : Chunk}
    (replies : queue.replies = state.queue.replies ++ [some chunk])
    (dispatched : run.writer.dispatched = state.run.writer.dispatched ++ [chunk])
    : queue.replies.filterMap id = run.writer.dispatched := by
  rw [replies, dispatched, List.filterMap_append, coupled.made]
  rfl

/-- What was told before is of replies made before. -/
theorem Coupled.completed_append (coupled : state.Coupled) (sound : state.queue.Sound)
    (more : List (Option Chunk)) {report : Report} (inside : report ∈ state.queue.reports)
    : (∃ chunk, (state.queue.replies ++ more)[report.1]? = some (some chunk))
      ↔ ∃ completion, report.2 = .completed completion := by
  have within := sound.custody.lt_of_told (List.mem_map_of_mem inside)
  rw [List.getElem?_append_left within]
  exact coupled.completed report inside

/-- A write is dispatched that the backend does not tell of at once. -/
theorem Coupled.holds (coupled : state.Coupled) (sound : state.queue.Sound) {chunk : Chunk}
    (direct : queue.Direct) (replies : queue.replies = state.queue.replies ++ [some chunk])
    (reports : queue.reports = state.queue.reports)
    (dispatched : run.writer.dispatched = state.run.writer.dispatched ++ [chunk])
    (outstanding : run.writer.outstanding = state.run.writer.outstanding ++ [chunk])
    (told : run.told = state.run.told)
    : Coupled ⟨run, queue, state.acks ++ [state.queue.nextAck]⟩ where
  direct := direct
  made := coupled.made_append replies dispatched
  held := by
    simp only [List.map_append, replies, outstanding, coupled.held_append]
    refine congrArg _ ?_
    simp only [List.map_cons, List.map_nil, WriterQueue.nextAck, List.getElem?_concat_length]
  apart := by
    refine List.nodup_append.mpr ⟨coupled.apart, List.nodup_singleton _, ?_⟩
    rintro ack inside _ last rfl
    exact coupled.next_not_mem (List.mem_singleton.mp last ▸ inside)
  untold := by
    intro ack other is
    simp only [replies] at is
    simp only [reports, List.mem_append, List.mem_singleton]
    rcases Nat.lt_or_ge ack state.queue.replies.length with less | most
    · rw [List.getElem?_append_left less] at is
      rw [← coupled.untold ack other is]
      exact or_iff_left (Nat.ne_of_lt less)
    · have last : ack = state.queue.nextAck := by
        have within := (List.getElem?_eq_some_iff.mp is).1
        rw [List.length_append, List.length_singleton] at within
        exact Nat.le_antisymm (Nat.le_of_lt_succ within) most
      refine iff_of_true (.inr last) (fun inside => ?_)
      exact Nat.lt_irrefl _ (last ▸ sound.custody.lt_of_told inside)
  told := by
    rw [reports]
    exact told.trans coupled.told
  completed := by
    simp only [reports, replies]
    exact fun report inside => coupled.completed_append sound _ inside

/-- A write is dispatched, and the backend tells of it at once. -/
theorem Coupled.ends (coupled : state.Coupled) (sound : state.queue.Sound) {chunk : Chunk}
    {result : Except FileWriterError Unit} (direct : queue.Direct)
    (replies : queue.replies = state.queue.replies ++ [some chunk])
    (reports
      : queue.reports
        = state.queue.reports ++ [(state.queue.nextAck, .completed ⟨chunk.range, result⟩)])
    (dispatched : run.writer.dispatched = state.run.writer.dispatched ++ [chunk])
    (outstanding : run.writer.outstanding = state.run.writer.outstanding)
    (told : run.told = state.run.told ++ [⟨chunk.range, result⟩])
    : Coupled ⟨run, queue, state.acks⟩ where
  direct := direct
  made := coupled.made_append replies dispatched
  held := by
    simp only [replies, outstanding, coupled.held_append]
  apart := coupled.apart
  untold := by
    intro ack other is
    simp only [replies] at is
    simp only [reports, List.map_append, List.mem_append, List.map_cons, List.map_nil,
      List.mem_singleton, not_or]
    rcases Nat.lt_or_ge ack state.queue.replies.length with less | most
    · rw [List.getElem?_append_left less] at is
      rw [coupled.untold ack other is]
      exact (and_iff_left (Nat.ne_of_lt less)).symm
    · have last : ack = state.queue.nextAck := by
        have within := (List.getElem?_eq_some_iff.mp is).1
        rw [List.length_append, List.length_singleton] at within
        exact Nat.le_antisymm (Nat.le_of_lt_succ within) most
      exact iff_of_false (fun inside => coupled.next_not_mem (last ▸ inside))
        (fun apart => apart.2 last)
  told := by
    simp only [reports, told, coupled.told, List.filterMap_append]
    rfl
  completed := by
    simp only [reports, replies]
    intro report inside
    rcases List.mem_append.mp inside with earlier | now
    · exact coupled.completed_append sound _ earlier
    · cases List.mem_singleton.mp now
      exact iff_of_true ⟨chunk, List.getElem?_concat_length⟩ ⟨_, rfl⟩

/-- A reply for a write was made before, where only others are made now. -/
theorem getElem?_of_none {replies more : List (Option Chunk)} (others : ∀ made ∈ more, made = none)
    {ack : CommandAck} {chunk : Chunk} (is : (replies ++ more)[ack]? = some (some chunk))
    : replies[ack]? = some (some chunk) := by
  rcases Nat.lt_or_ge ack replies.length with less | most
  · rw [List.getElem?_append_left less] at is
    exact is
  · rw [List.getElem?_append_right most] at is
    cases others _ (List.mem_of_getElem? is)

/-- The backend goes on, and does not tell of a write. -/
theorem Coupled.goes (coupled : state.Coupled) (sound : state.queue.Sound)
    {more : List (Option Chunk)} {reports : List Report} (direct : queue.Direct)
    (replies : queue.replies = state.queue.replies ++ more) (others : ∀ made ∈ more, made = none)
    (told : queue.reports = state.queue.reports ++ reports)
    (answers
      : ∀ report ∈ reports, brought report = none ∧ queue.replies[report.1]? = some none)
    : Coupled { state with queue } where
  direct := direct
  made := by
    have none : more.filterMap id = [] :=
      List.filterMap_eq_nil_iff.mpr (fun made inside => others made inside)
    rw [replies, List.filterMap_append, none, List.append_nil]
    exact coupled.made
  held := by
    rw [replies]
    exact coupled.held_append more
  apart := coupled.apart
  untold := by
    intro ack chunk is
    have before : state.queue.replies[ack]? = some (some chunk) := by
      rw [replies] at is
      exact getElem?_of_none others is
    rw [coupled.untold ack chunk before, told, List.map_append, List.mem_append, not_or]
    refine (and_iff_left ?_).symm
    intro inside
    obtain ⟨report, now, same⟩ := List.mem_map.mp inside
    have answer := (answers report now).2
    rw [same] at answer
    cases is.symm.trans answer
  told := by
    have none : reports.filterMap brought = [] :=
      List.filterMap_eq_nil_iff.mpr (fun report inside => (answers report inside).1)
    rw [told, List.filterMap_append, none, List.append_nil]
    exact coupled.told
  completed := by
    simp only [told]
    intro report inside
    rcases List.mem_append.mp inside with earlier | now
    · rw [replies]
      exact coupled.completed_append sound more earlier
    · obtain ⟨untold, made⟩ := answers report now
      refine iff_of_false ?_ ?_
      · rintro ⟨chunk, is⟩
        cases made.symm.trans is
      · rintro ⟨completion, same⟩
        rw [brought, same] at untold
        cases untold

/-- The backend tells of a write, and the pending writer receives it. -/
theorem Coupled.receives (coupled : state.Coupled) (sound : state.queue.Sound)
    (sound' : queue.Sound) {more : List (Option Chunk)} {ack : CommandAck} {chunk : Chunk}
    {completion : WriteCompletion} (direct : queue.Direct)
    (replies : queue.replies = state.queue.replies ++ more) (others : ∀ made ∈ more, made = none)
    (reports : queue.reports = state.queue.reports ++ [(ack, .completed completion)])
    (made : queue.replies[ack]? = some (some chunk)) (range : completion.range = chunk.range)
    (runs : state.run.Sound)
    : ∃ run,
        WriterRun.machine.Step state.run (.complete (state.acks.idxOf ack) completion.result) run
        ∧ run.call = state.run.call
        ∧ Coupled ⟨run, queue, state.acks.erase ack⟩ := by
  have before : state.queue.replies[ack]? = some (some chunk) := by
    rw [replies] at made
    exact getElem?_of_none others made
  have untold : ack ∉ state.queue.reports.map Prod.fst := by
    have nodup := sound'.custody.told_nodup
    rw [reports, List.map_append] at nodup
    intro inside
    exact (List.nodup_append.mp nodup).2.2 ack inside ack (List.mem_singleton_self _) rfl
  have inside := (coupled.untold ack chunk before).mpr untold
  have outstanding := coupled.outstanding inside before
  have enabled : state.run.Enabled (.complete (state.acks.idxOf ack) completion.result) :=
    (List.getElem?_eq_some_iff.mp outstanding).1
  obtain ⟨run, next, _⟩ := runs.next enabled
  obtain ⟨dispatched, less, told, call⟩ := WriterRun.receives outstanding range next
  refine ⟨run, ⟨enabled, next⟩, call, ?_⟩
  constructor
  case direct => exact direct
  case made =>
    have none : more.filterMap id = [] :=
      List.filterMap_eq_nil_iff.mpr (fun made inside => others made inside)
    rw [replies, List.filterMap_append, none, List.append_nil, dispatched]
    exact coupled.made
  case held =>
    simp only [less, replies]
    rw [← List.eraseIdx_map, ← coupled.held_append more, List.eraseIdx_map,
      List.erase_eq_eraseIdx_of_idxOf rfl]
  case apart => exact coupled.apart.erase ack
  case untold =>
    intro other chunk' is
    have was : state.queue.replies[other]? = some (some chunk') := by
      rw [replies] at is
      exact getElem?_of_none others is
    rw [coupled.apart.mem_erase_iff, coupled.untold other chunk' was, reports, List.map_append,
      List.mem_append, not_or, and_comm]
    exact and_congr_right (fun _ => not_congr List.mem_singleton.symm)
  case told =>
    rw [told, reports, List.filterMap_append, coupled.told]
    rfl
  case completed =>
    simp only [reports]
    intro report member
    rcases List.mem_append.mp member with earlier | now
    · rw [replies]
      exact coupled.completed_append sound more earlier
    · cases List.mem_singleton.mp now
      exact iff_of_true ⟨chunk, made⟩ ⟨_, rfl⟩

end Steps

end QueuedWriter

end BoltLoad
