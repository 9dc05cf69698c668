import BoltLoad.FileWriter.QueueCustody

/-! What is told of a write against its execution. A write is executed at most once; if it was,
what is told is the result of that; and if it was not, what is told is a failure.
-/

namespace BoltLoad

/-- The replies of the writes a worker executed and has to tell of. -/
def WorkerPhase.replies : WorkerPhase → List CommandAck
  | .replying _ reply _ => reply.acks
  | _ => []

/-- What is told of a write that was not executed. -/
def Told.Refuses (path : String) (chunk : Chunk) (told : Told) : Prop :=
  told.Fails chunk ∨ told.Of path chunk (.error queueClosed)

theorem WorkerPhase.replies_le (ack : CommandAck) (phase : WorkerPhase)
    : phase.replies.count ack ≤ phase.acks.count ack := by
  cases phase with
  | replying chunk reply result => exact Nat.le_refl _
  | receiving => exact Nat.zero_le _
  | executing chunk reply => exact Nat.zero_le _
  | acking ack => exact Nat.zero_le _
  | unwinding reply => exact Nat.zero_le _
  | closing => exact Nat.zero_le _
  | draining => exact Nat.zero_le _
  | dropping command => exact Nat.zero_le _
  | leaving => exact Nat.zero_le _
  | gone => exact Nat.zero_le _

namespace WriterQueue

variable {Worker : Type} {queue after : WriterQueue Worker}

/-- The replies of an executed write. -/
def executedAcks (entry : WriteReply × Chunk × Except IoError Unit) : List CommandAck :=
  entry.1.acks

/-- A report of a write agrees with its execution, or its write was not executed. -/
def Ended (queue : WriterQueue Worker) (chunk : Chunk) (report : Report) : Prop :=
  (∃ reply result,
      (reply, chunk, result) ∈ queue.executed
      ∧ report.1 ∈ reply.acks
      ∧ report.2.Of queue.path chunk result)
  ∨ report.2.Refuses queue.path chunk
    ∧ ∀ entry ∈ queue.executed, report.1 ∉ executedAcks entry

variable [Fintype Worker]

/-- What is told agrees with what was executed. -/
structure Agrees (queue : WriterQueue Worker) : Prop where
  replying
    : ∀ worker chunk reply result,
        queue.workers worker = .replying chunk reply result
        → (reply, chunk, result) ∈ queue.executed
  made : ∀ entry ∈ queue.executed, entry.1.For queue.replies entry.2.1
  once
    : ∀ ack,
        Custody.counted executedAcks queue.executed ack
          ≤ Custody.total (fun phase => phase.replies.count ack) queue.workers
            + (queue.reports.map Prod.fst).count ack
  told
    : ∀ report ∈ queue.reports,
        ∀ chunk, queue.replies[report.1]? = some (some chunk) → queue.Ended chunk report

namespace Agrees

theorem begins (kind : FileRangeWriterKind) (path : String) (room : Nat)
    : (built kind path room : WriterQueue Worker).Agrees where
  replying := fun _ _ _ _ never => by cases never
  made := fun _ never => by cases never
  once := fun _ => Nat.zero_le _
  told := fun _ never => by cases never

/-- A reply held by anyone but a worker that executed its write is not of an executed one. -/
theorem unexecuted (agrees : queue.Agrees) (sound : queue.Sound) {ack : CommandAck}
    (elsewhere
      : Custody.total (fun phase => phase.replies.count ack) queue.workers < queue.held ack)
    : ∀ entry ∈ queue.executed, ack ∉ executedAcks entry := by
  intro entry inside holds
  have once := agrees.once ack
  have custody := sound.custody ack
  have counted : 0 < Custody.counted executedAcks queue.executed ack :=
    Custody.counted_pos inside holds
  split at custody <;> omega

/-- Nor is a reply that is made now. -/
theorem unexecuted_next (agrees : queue.Agrees)
    : ∀ entry ∈ queue.executed, queue.nextAck ∉ executedAcks entry := by
  intro entry inside holds
  obtain ⟨ack, made, acks⟩ := (agrees.made entry inside).place
  have within := (List.getElem?_eq_some_iff.mp made).1
  rw [executedAcks, acks, List.mem_singleton] at holds
  exact Nat.lt_irrefl _ (holds ▸ within)

/-- Nothing is executed: what is told now is of unexecuted writes, or of one a worker executed
before.
-/
theorem grows (agrees : queue.Agrees) (sound : queue.Sound) {reports : List Report}
    (executed : after.executed = queue.executed) (path : after.path = queue.path)
    (replies : ∃ more, after.replies = queue.replies ++ more)
    (told : after.reports = queue.reports ++ reports)
    (ends
      : ∀ report ∈ reports,
          ∀ chunk, after.replies[report.1]? = some (some chunk) → queue.Ended chunk report)
    (replying
      : ∀ worker chunk reply result,
          after.workers worker = .replying chunk reply result
          → queue.workers worker = .replying chunk reply result)
    (counts
      : ∀ ack,
          Custody.total (fun phase => phase.replies.count ack) queue.workers
            ≤ Custody.total (fun phase => phase.replies.count ack) after.workers
              + (reports.map Prod.fst).count ack)
    : after.Agrees := by
  obtain ⟨more, replies⟩ := replies
  have same {chunk : Chunk} {report : Report} (ended : queue.Ended chunk report)
      : after.Ended chunk report := by
    simp only [Ended, executed, path]
    exact ended
  constructor
  case replying =>
    intro worker chunk reply result is
    rw [executed]
    exact agrees.replying worker chunk reply result (replying worker chunk reply result is)
  case made =>
    rw [executed, replies]
    exact fun entry inside => (agrees.made entry inside).append
  case once =>
    intro ack
    have once := agrees.once ack
    have counts := counts ack
    rw [executed, told, List.map_append, List.count_append]
    omega
  case told =>
    rw [told]
    intro report inside chunk made
    rcases List.mem_append.mp inside with earlier | now
    · have within := sound.custody.lt_of_told (List.mem_map_of_mem earlier)
      rw [replies, List.getElem?_append_left within] at made
      exact same (agrees.told report earlier chunk made)
    · exact same (ends report now chunk made)

/-- Nothing is told or executed. -/
theorem keeps (agrees : queue.Agrees) (sound : queue.Sound)
    (executed : after.executed = queue.executed) (path : after.path = queue.path)
    (replies : ∃ more, after.replies = queue.replies ++ more)
    (told : after.reports = queue.reports) (workers : after.workers = queue.workers)
    : after.Agrees := by
  refine agrees.grows sound executed path replies (told.trans (List.append_nil _).symm)
    (fun _ never => by cases never) ?_ ?_
  · rw [workers]
    exact fun _ _ _ _ => id
  · rw [workers]
    exact fun _ => Nat.le_add_right _ _

/-- One write is told of that was not executed. -/
theorem refuses (agrees : queue.Agrees) (sound : queue.Sound) {ack : CommandAck} {told : Told}
    (executed : after.executed = queue.executed) (path : after.path = queue.path)
    (replies : ∃ more, after.replies = queue.replies ++ more)
    (reports : after.reports = queue.reports ++ [(ack, told)])
    (fails
      : ∀ chunk, after.replies[ack]? = some (some chunk) → told.Refuses queue.path chunk)
    (unexecuted : ∀ entry ∈ queue.executed, ack ∉ executedAcks entry)
    (workers : after.workers = queue.workers)
    : after.Agrees := by
  refine agrees.grows sound executed path replies reports ?_ ?_ ?_
  · intro report inside chunk made
    cases List.mem_singleton.mp inside
    exact .inr ⟨fails chunk made, unexecuted⟩
  · rw [workers]
    exact fun _ _ _ _ => id
  · rw [workers]
    exact fun _ => Nat.le_add_right _ _

/-- A worker tells that a write it holds was not executed. -/
theorem worker_unexecuted (agrees : queue.Agrees) (sound : queue.Sound) {worker : Worker}
    {ack : CommandAck} (holds : (queue.workers worker).acks = [ack]) (silent : (queue.workers worker).replies = [])
    : ∀ entry ∈ queue.executed, ack ∉ executedAcks entry := by
  refine agrees.unexecuted sound ?_
  have below := Custody.total_add_le (WorkerPhase.replies_le ack) queue.workers worker
  rw [holds, silent, List.count_singleton_self, List.count_nil] at below
  simp only [held]
  omega

section Workers

variable [DecidableEq Worker] {worker : Worker} {phase : WorkerPhase}

omit [Fintype Worker] in
theorem replying_workerAt (silent : ∀ chunk reply result, phase ≠ .replying chunk reply result)
    (other : Worker) (chunk : Chunk) (reply : WriteReply) (result : Except IoError Unit)
    (is : (queue.workerAt worker phase).workers other = .replying chunk reply result)
    : queue.workers other = .replying chunk reply result := by
  by_cases here : other = worker
  · rw [here] at is
    simp only [workerAt, Function.update_self] at is
    exact absurd is (silent chunk reply result)
  · simpa only [workerAt, Function.update_of_ne here] using is

/-- A worker goes on that neither executed a write before nor has now. -/
theorem works (agrees : queue.Agrees) (sound : queue.Sound) (commands : List Command)
    (closed : Bool) {reports : List Report}
    (ends
      : ∀ report ∈ reports,
          ∀ chunk, queue.replies[report.1]? = some (some chunk) → queue.Ended chunk report)
    (silent : ∀ chunk reply result, phase ≠ .replying chunk reply result)
    (quiet : ∀ ack, (queue.workers worker).replies.count ack ≤ (reports.map Prod.fst).count ack)
    : Agrees ({ queue with
        commands, closed, reports := queue.reports ++ reports }.workerAt worker phase) := by
  refine agrees.grows sound rfl rfl ⟨[], (List.append_nil _).symm⟩ rfl ends
    (replying_workerAt silent) (fun ack => ?_)
  have moved := Custody.total_update (fun phase : WorkerPhase => phase.replies.count ack)
    queue.workers worker phase
  have quiet := quiet ack
  simp only [workerAt]
  omega

/-- The worker executes a write it holds. -/
theorem executes (agrees : queue.Agrees) (sound : queue.Sound) {chunk : Chunk}
    {reply : WriteReply} (executing : queue.workers worker = .executing chunk reply)
    (result : Except IoError Unit)
    : Agrees ({ queue with
        executed := queue.executed ++ [(reply, chunk, result)] }.workerAt worker
          (.replying chunk reply result)) := by
  have made := sound.workers worker
  rw [executing] at made
  obtain ⟨ack, told, _, acks, _, _⟩ := WriteReply.For.drop made
  have holds : (queue.workers worker).acks = [ack] := by
    rw [executing]
    exact acks
  have first : executedAcks (reply, chunk, result) = [ack] := acks
  have unexecuted := agrees.worker_unexecuted sound holds (by rw [executing]; rfl)
  have untold : ack ∉ queue.reports.map Prod.fst := by
    refine sound.custody.not_told ?_
    have part := Custody.le_total (fun phase : WorkerPhase => phase.acks.count ack) queue.workers
      worker
    rw [holds, List.count_singleton_self] at part
    simp only [held]
    omega
  constructor
  case replying =>
    intro other chunk' reply' result' is
    by_cases here : other = worker
    · rw [here] at is
      simp only [workerAt, Function.update_self] at is
      cases is
      exact List.mem_append_right _ (List.mem_singleton_self _)
    · simp only [workerAt, Function.update_of_ne here] at is
      exact List.mem_append_left _ (agrees.replying other chunk' reply' result' is)
  case made =>
    intro entry inside
    rcases List.mem_append.mp inside with earlier | now
    · exact agrees.made entry earlier
    · cases List.mem_singleton.mp now
      exact made
  case once =>
    intro other
    have once := agrees.once other
    have moved := Custody.total_update (fun phase : WorkerPhase => phase.replies.count other)
      queue.workers worker (.replying chunk reply result)
    have before : (queue.workers worker).replies = [] := by
      rw [executing]
      rfl
    have now : (WorkerPhase.replying chunk reply result).replies = [ack] := acks
    rw [before, now, List.count_nil] at moved
    simp only [workerAt, Custody.counted_concat, first]
    omega
  case told =>
    intro report inside chunk' made'
    rcases agrees.told report inside chunk' made' with
        ⟨reply', result', executed, holds', of⟩ | ⟨refuses, others⟩
    · exact .inl ⟨reply', result', List.mem_append_left _ executed, holds', of⟩
    · refine .inr ⟨refuses, fun entry member => ?_⟩
      rcases List.mem_append.mp member with earlier | now
      · exact others entry earlier
      · cases List.mem_singleton.mp now
        rw [first]
        intro same
        rw [← List.mem_singleton.mp same] at untold
        exact untold (List.mem_map_of_mem inside)

/-- The worker that executed a write tells of it. -/
theorem replies (agrees : queue.Agrees) (sound : queue.Sound) {chunk : Chunk}
    {reply : WriteReply} {result : Except IoError Unit} {reports : List Report}
    (replying : queue.workers worker = .replying chunk reply result)
    (completes : reply.complete result queue.path = .ok reports)
    : ((queue.report reports).workerAt worker .receiving).Agrees := by
  have made := sound.workers worker
  rw [replying] at made
  obtain ⟨ack, told, is, acks, tells, of⟩ := WriteReply.For.complete made result queue.path
  cases tells.symm.trans completes
  refine agrees.works sound queue.commands queue.closed ?_
    (fun _ _ _ never => by cases never) (fun other => ?_)
  · intro report inside chunk' is'
    cases List.mem_singleton.mp inside
    cases is.symm.trans is'
    refine .inl ⟨reply, result, agrees.replying worker chunk reply result replying, ?_, of⟩
    rw [acks]
    exact List.mem_singleton_self ack
  · rw [replying]
    simp only [WorkerPhase.replies, acks]
    exact Nat.le_refl _

/-- A worker goes on without telling of anything. -/
theorem goes (agrees : queue.Agrees) (sound : queue.Sound) (commands : List Command)
    (closed : Bool) (silent : ∀ chunk reply result, phase ≠ .replying chunk reply result)
    (quiet : (queue.workers worker).replies = [])
    : Agrees ({ queue with commands, closed }.workerAt worker phase) := by
  have works
      : Agrees ({ queue with
          commands, closed, reports := queue.reports ++ [] }.workerAt worker phase) :=
    agrees.works sound commands closed (fun _ never => by cases never) silent
      (fun ack => by rw [quiet]; exact Nat.zero_le _)
  rw [List.append_nil] at works
  exact works

/-- A worker tells of a write it holds unexecuted, or of a finalize command. -/
theorem workerRefuses (agrees : queue.Agrees) (sound : queue.Sound) {ack : CommandAck}
    {told : Told} (holds : (queue.workers worker).acks = [ack])
    (quiet : (queue.workers worker).replies = [])
    (fails : ∀ chunk, queue.replies[ack]? = some (some chunk) → told.Refuses queue.path chunk)
    (silent : ∀ chunk reply result, phase ≠ .replying chunk reply result)
    : ((queue.report [(ack, told)]).workerAt worker phase).Agrees := by
  refine agrees.works sound queue.commands queue.closed ?_ silent
    (fun other => by rw [quiet]; exact Nat.zero_le _)
  intro report inside chunk made
  cases List.mem_singleton.mp inside
  exact .inr ⟨fails chunk made, agrees.worker_unexecuted sound holds quiet⟩

/-- Every step. -/
theorem next {event : QueueEvent Worker} (agrees : queue.Agrees)
    (sound : queue.Sound) (moves : queue.Moves event after)
    : after.Agrees := by
  have told (index : Nat) {chunk : Chunk} {done : CompletionGuard} {ack : CommandAck}
      (is : queue.tasks[index]? = some (chunk, done))
      (acks : (WriteReply.completion done).acks = [ack])
      : ∀ entry ∈ queue.executed, ack ∉ executedAcks entry := by
    refine agrees.unexecuted sound ?_
    have part : 0 < Custody.counted taskAcks queue.tasks ack := by
      refine Custody.counted_pos (List.mem_of_getElem? is) ?_
      rw [show taskAcks (chunk, done) = [ack] from acks]
      exact List.mem_singleton_self ack
    have below : Custody.total (fun phase => phase.replies.count ack) queue.workers ≤ _ :=
      Finset.sum_le_sum (fun worker _ => WorkerPhase.replies_le ack (queue.workers worker))
    simp only [held, Custody.total] at below ⊢
    omega
  have uncalled (index : Nat) {call : WriteCall} (is : queue.calls[index]? = some call)
      (unsent : call.sent = false)
      : ∀ entry ∈ queue.executed, call.ack ∉ executedAcks entry := by
    refine agrees.unexecuted sound ?_
    have part : 0 < Custody.counted WriteCall.acks queue.calls call.ack := by
      refine Custody.counted_pos (List.mem_of_getElem? is) ?_
      simp [WriteCall.acks, unsent]
    have below : Custody.total (fun phase => phase.replies.count call.ack) queue.workers ≤ _ :=
      Finset.sum_le_sum (fun worker _ => WorkerPhase.replies_le call.ack (queue.workers worker))
    simp only [held, Custody.total] at below ⊢
    omega
  have unchanged : ∃ more, queue.replies = queue.replies ++ more := ⟨[], (List.append_nil _).symm⟩
  cases moves with
  | @submitted chunk spawns shared sent =>
      exact agrees.keeps sound rfl rfl ⟨[some chunk], rfl⟩ rfl rfl
  | @spawned chunk shared full =>
      exact agrees.keeps sound rfl rfl ⟨[some chunk], rfl⟩ rfl rfl
  | @rejected chunk shared full =>
      refine agrees.refuses sound rfl rfl ⟨[some chunk], rfl⟩ rfl ?_ agrees.unexecuted_next rfl
      intro other made
      cases List.getElem?_concat_length.symm.trans made
      exact .inl rfl
  | @refused chunk spawns reports shared closed completes =>
      cases completes
      refine agrees.refuses sound rfl rfl ⟨[some chunk], rfl⟩ rfl ?_ agrees.unexecuted_next rfl
      intro other made
      cases List.getElem?_concat_length.symm.trans made
      exact .inr rfl
  | @taskSent index chunk done is sent => exact agrees.keeps sound rfl rfl unchanged rfl rfl
  | @taskRefused index chunk done reports is closed completes =>
      obtain ⟨ack, answer, made, acks, tells, of⟩ :=
        (sound.tasks _ (List.mem_of_getElem? is)).complete (.error queueClosed) queue.path
      cases tells.symm.trans completes
      refine agrees.refuses sound rfl rfl unchanged rfl ?_ (told index is acks) rfl
      intro other made'
      cases made.symm.trans made'
      exact .inr of
  | @taskDropped index chunk done is =>
      obtain ⟨ack, answer, made, acks, tells, fails⟩ :=
        (sound.tasks _ (List.mem_of_getElem? is)).drop
      refine agrees.refuses sound rfl rfl unchanged
        (congrArg (queue.reports ++ ·) tells) ?_ (told index is acks) rfl
      intro other made'
      cases made.symm.trans made'
      exact .inl fails
  | @called chunk shared => exact agrees.keeps sound rfl rfl ⟨[some chunk], rfl⟩ rfl rfl
  | @callSent index call is unsent sent => exact agrees.keeps sound rfl rfl unchanged rfl rfl
  | @callRefused index call is unsent closed =>
      exact agrees.refuses sound rfl rfl unchanged rfl (fun _ _ => .inl trivial)
        (uncalled index is unsent) rfl
  | @callReturned index call answer result is sent is' succeeds =>
      exact agrees.keeps sound rfl rfl unchanged rfl rfl
  | @callDropped index call is sent =>
      exact agrees.keeps sound rfl rfl unchanged (List.append_nil _) rfl
  | @unsentDropped index call is unsent =>
      exact agrees.refuses sound rfl rfl unchanged rfl (fun _ _ => .inl trivial)
        (uncalled index is unsent) rfl
  | @executed worker chunk reply result executing => exact agrees.executes sound executing result
  | @replied worker chunk reply result reports replying completes =>
      exact agrees.replies sound replying completes
  | @finalizeSent synced sending sent =>
      exact agrees.keeps sound rfl rfl ⟨[none], rfl⟩ rfl rfl
  | @owner event finalizer closed shared moves =>
      exact agrees.keeps sound rfl rfl unchanged rfl rfl
  | @took worker chunk reply commands receiving first =>
      exact agrees.goes sound commands queue.closed (fun _ _ _ never => by cases never)
        (by rw [receiving]; rfl)
  | @tookFinalize worker ack commands receiving first =>
      exact agrees.goes sound commands queue.closed (fun _ _ _ never => by cases never)
        (by rw [receiving]; rfl)
  | @ended worker receiving empty closed =>
      exact agrees.goes sound queue.commands queue.closed (fun _ _ _ never => by cases never)
        (by rw [receiving]; rfl)
  | @panicked worker chunk reply executing =>
      exact agrees.goes sound queue.commands queue.closed (fun _ _ _ never => by cases never)
        (by rw [executing]; rfl)
  | @closes worker closing =>
      exact agrees.goes sound queue.commands true (fun _ _ _ never => by cases never)
        (by rw [closing]; rfl)
  | @drained worker command commands draining first =>
      exact agrees.goes sound commands queue.closed (fun _ _ _ never => by cases never)
        (by rw [draining]; rfl)
  | @emptied worker draining empty =>
      exact agrees.goes sound queue.commands queue.closed (fun _ _ _ never => by cases never)
        (by rw [draining]; rfl)
  | @left worker leaving =>
      exact agrees.goes sound queue.commands queue.closed (fun _ _ _ never => by cases never)
        (by rw [leaving]; rfl)
  | @unwound worker reply unwinding =>
      have held := sound.workers worker
      rw [unwinding] at held
      obtain ⟨chunk, held⟩ := held
      obtain ⟨ack, answer, made, acks, tells, fails⟩ := held.drop
      rw [tells]
      refine agrees.workerRefuses sound (by rw [unwinding]; exact acks)
        (by rw [unwinding]; rfl) ?_ (fun _ _ _ never => by cases never)
      intro other made'
      cases made.symm.trans made'
      exact .inl fails
  | @acknowledged worker ack flushed acking =>
      have made := sound.workers worker
      rw [acking] at made
      refine agrees.workerRefuses sound (by rw [acking]; rfl) (by rw [acking]; rfl) ?_
        (fun _ _ _ never => by cases never)
      intro other made'
      cases made.symm.trans made'
  | @commandDropped worker command dropping =>
      have held := sound.workers worker
      rw [dropping] at held
      obtain ⟨ack, answer, reply, made, acks, tells, fails⟩ := Command.Sound.drop held
      rw [tells]
      refine agrees.workerRefuses sound (by rw [dropping]; exact acks)
        (by rw [dropping]; rfl) ?_ (fun _ _ _ never => by cases never)
      intro other made'
      cases made.symm.trans made'
      exact .inl (fails other rfl)

end Workers

end Agrees

variable [DecidableEq Worker]

/-- In every state reached, by induction on the run. -/
theorem agrees_reachable (reached : (machine Worker).Reachable queue)
    : queue.Agrees := by
  induction reached with
  | initial start =>
      obtain ⟨kind, path, room, _, _, rfl⟩ := start
      exact .begins kind path room
  | step reached step ih =>
      exact ih.next (sound_reachable reached) (moves step.enabled step.next)

-----------------------------------------------------------------------------------------
-- What the calls of `write_range` return
-----------------------------------------------------------------------------------------

/-- The write of a reply was executed successfully. -/
def Written (queue : WriterQueue Worker) (ack : CommandAck) : Prop :=
  ∃ chunk reply,
    queue.replies[ack]? = some (some chunk)
    ∧ (reply, chunk, .ok ()) ∈ queue.executed
    ∧ ack ∈ reply.acks

omit [Fintype Worker] [DecidableEq Worker] in
theorem Told.Refuses.not_acked {path : String} {chunk : Chunk}
    (refuses : (Told.acked (.ok ())).Refuses path chunk)
    : False := by
  rcases refuses with never | never
  · exact never
  · cases never

omit [DecidableEq Worker] in
/-- An ack that tells of success is of a write that was executed. -/
theorem Agrees.written (agrees : queue.Agrees) {ack : CommandAck} {chunk : Chunk}
    (made : queue.replies[ack]? = some (some chunk))
    (told : (ack, Told.acked (.ok ())) ∈ queue.reports)
    : queue.Written ack := by
  rcases agrees.told _ told chunk made with ⟨reply, result, executed, acks, of⟩ | ⟨refuses, _⟩
  · have same : (.ok () : Except IoError Unit) = result := of
    cases same
    exact ⟨chunk, reply, made, executed, acks⟩
  · exact (Told.Refuses.not_acked refuses).elim

omit [Fintype Worker] [DecidableEq Worker] in
/-- An answer is one of the reports. -/
theorem mem_of_answer {ack : CommandAck} {told : Told} (answer : queue.answer ack = some told)
    : (ack, told) ∈ queue.reports := by
  obtain ⟨⟨place, _⟩, found, rfl⟩ := Option.map_eq_some_iff.mp answer
  have same : (place == ack) = true := by simpa only using List.find?_some found
  rw [← eq_of_beq same]
  exact List.mem_of_find?_eq_some found

omit [Fintype Worker] in
/-- A step makes replies and executes writes, but forgets none. -/
theorem Moves.forgets_none {event : QueueEvent Worker} (moves : queue.Moves event after)
    : (∃ more, after.replies = queue.replies ++ more)
      ∧ (∃ more, after.executed = queue.executed ++ more)
      ∧ after.path = queue.path := by
  cases moves with
  | @submitted chunk _ _ _ => exact ⟨⟨[some chunk], rfl⟩, ⟨[], (List.append_nil _).symm⟩, rfl⟩
  | @spawned chunk _ _ => exact ⟨⟨[some chunk], rfl⟩, ⟨[], (List.append_nil _).symm⟩, rfl⟩
  | @rejected chunk _ _ => exact ⟨⟨[some chunk], rfl⟩, ⟨[], (List.append_nil _).symm⟩, rfl⟩
  | @refused chunk _ _ _ _ _ => exact ⟨⟨[some chunk], rfl⟩, ⟨[], (List.append_nil _).symm⟩, rfl⟩
  | @called chunk _ => exact ⟨⟨[some chunk], rfl⟩, ⟨[], (List.append_nil _).symm⟩, rfl⟩
  | finalizeSent _ _ => exact ⟨⟨[none], rfl⟩, ⟨[], (List.append_nil _).symm⟩, rfl⟩
  | @executed _ chunk reply result _ =>
      exact ⟨⟨[], (List.append_nil _).symm⟩, ⟨[(reply, chunk, result)], rfl⟩, rfl⟩
  | _ => exact ⟨⟨[], (List.append_nil _).symm⟩, ⟨[], (List.append_nil _).symm⟩, rfl⟩

/-- A call of `write_range` returned `Ok` only for a write that was executed. -/
theorem returned_written (reached : (machine Worker).Reachable queue)
    : ∀ ack, (ack, .ok ()) ∈ queue.returned → queue.Written ack := by
  induction reached with
  | initial start =>
      obtain ⟨kind, path, room, _, _, rfl⟩ := start
      exact fun _ never => by cases never
  | @step before event after reached step ih =>
      have sound := sound_reachable reached
      have agrees := agrees_reachable reached
      have moved := moves step.enabled step.next
      obtain ⟨⟨more, replies⟩, ⟨written, executed⟩, _⟩ := moved.forgets_none
      have still {ack : CommandAck} (was : before.Written ack) : after.Written ack := by
        obtain ⟨chunk, reply, made, executed', acks⟩ := was
        refine ⟨chunk, reply, ?_, ?_, acks⟩
        · rw [replies]
          exact getElem?_append_of_eq made
        · rw [executed]
          exact List.mem_append_left _ executed'
      have same (returned : after.returned = before.returned)
          : ∀ ack, (ack, .ok ()) ∈ after.returned → after.Written ack := by
        rw [returned]
        exact fun ack inside => still (ih ack inside)
      cases moved with
      | @callRefused index call is unsent closed =>
          intro ack inside
          rcases List.mem_append.mp inside with earlier | now
          · exact still (ih ack earlier)
          · cases List.mem_singleton.mp now
      | @callReturned index call told result is sent answer succeeds =>
          intro ack inside
          rcases List.mem_append.mp inside with earlier | now
          · exact still (ih ack earlier)
          · obtain ⟨rfl, ok⟩ := Prod.mk.inj (List.mem_singleton.mp now)
            have acked := mem_of_answer answer
            rw [succeeds ok.symm] at acked
            exact still (agrees.written (sound.calls call (List.mem_of_getElem? is)) acked)
      | _ => exact same rfl

-----------------------------------------------------------------------------------------
-- Every run
-----------------------------------------------------------------------------------------

/-- No event panics: no guard is completed twice. -/
theorem Sound.next_ok (sound : queue.Sound) (event : QueueEvent Worker)
    : ∃ after, queue.next event = .ok after := by
  cases event with
  | submit chunk spawns =>
      simp only [WriterQueue.next, dispatchDirect]
      split
      · exact ⟨_, rfl⟩
      · split <;> exact ⟨_, rfl⟩
      · exact ⟨_, rfl⟩
  | pollTask index =>
      simp only [WriterQueue.next, pollTask]
      cases is : queue.tasks[index]? with
      | none => exact ⟨_, rfl⟩
      | some task =>
          obtain ⟨_, _, _, _, tells, _⟩ :=
            (sound.tasks _ (List.mem_of_getElem? is)).complete (.error queueClosed) queue.path
          dsimp only
          split
          · exact ⟨_, rfl⟩
          · exact ⟨_, rfl⟩
          · exact ⟨_, by rw [tells]; rfl⟩
  | work worker =>
      have held := sound.workers worker
      simp only [WriterQueue.next, work]
      cases phase : queue.workers worker with
      | replying chunk reply result =>
          rw [phase] at held
          obtain ⟨_, _, _, _, tells, _⟩ := WriteReply.For.complete held result queue.path
          exact ⟨_, by simp only [tells]; rfl⟩
      | receiving =>
          dsimp only
          split <;> exact ⟨_, rfl⟩
      | draining =>
          dsimp only
          split <;> exact ⟨_, rfl⟩
      | executing chunk reply => exact ⟨_, rfl⟩
      | acking ack => exact ⟨_, rfl⟩
      | unwinding reply => exact ⟨_, rfl⟩
      | closing => exact ⟨_, rfl⟩
      | dropping command => exact ⟨_, rfl⟩
      | leaving => exact ⟨_, rfl⟩
      | gone => exact ⟨_, rfl⟩
  | dropTask index => exact ⟨_, rfl⟩
  | writeRange chunk => exact ⟨_, rfl⟩
  | pollCall index => exact ⟨_, rfl⟩
  | dropCall index => exact ⟨_, rfl⟩
  | execute worker outcome => exact ⟨_, rfl⟩
  | acknowledge worker flushed => exact ⟨_, rfl⟩
  | unshare => exact ⟨_, rfl⟩
  | finalize => exact ⟨_, rfl⟩
  | finalizeStep synced => exact ⟨_, rfl⟩
  | abandon => exact ⟨_, rfl⟩

omit [DecidableEq Worker] in
/-- A write is executed at most once. -/
theorem Agrees.executed_once (agrees : queue.Agrees) (sound : queue.Sound) (ack : CommandAck)
    : Custody.counted executedAcks queue.executed ack ≤ 1 := by
  have once := agrees.once ack
  have custody := sound.custody ack
  have below : Custody.total (fun phase => phase.replies.count ack) queue.workers ≤ _ :=
    Finset.sum_le_sum (fun worker _ => WorkerPhase.replies_le ack (queue.workers worker))
  simp only [held, Custody.total] at below once custody
  split at custody <;> omega

omit [DecidableEq Worker] in
/-- What is told of a write's range, and whether it was executed successfully. -/
theorem Agrees.completed (agrees : queue.Agrees) (sound : queue.Sound) {ack : CommandAck}
    {completion : WriteCompletion} {chunk : Chunk}
    (told : (ack, .completed completion) ∈ queue.reports)
    (made : queue.replies[ack]? = some (some chunk))
    : completion.range = chunk.range ∧ (completion.result = .ok () ↔ queue.Written ack) := by
  rcases agrees.told _ told chunk made with ⟨reply, result, executed, acks, of⟩ | ⟨refuses, others⟩
  · have same : completion = _ := of
    rw [same]
    refine ⟨rfl, ?_⟩
    cases result with
    | ok value => exact iff_of_true rfl ⟨chunk, reply, made, executed, acks⟩
    | error failure =>
        refine iff_of_false (fun never => by cases never) ?_
        rintro ⟨chunk', reply', _, executed', acks'⟩
        cases Custody.counted_unique (agrees.executed_once sound ack) executed executed' acks acks'
  · refine ⟨?_, iff_of_false ?_ ?_⟩
    · rcases refuses with same | same <;> exact congrArg WriteCompletion.range same
    · intro ok
      rcases refuses with same | same
      · rw [show completion = _ from same] at ok
        cases ok
      · rw [show completion = _ from same] at ok
        cases ok
    · rintro ⟨chunk', reply', _, executed', acks'⟩
      exact others _ executed' acks'

/-- Every write handed over is told of exactly once. Whatever the workers, tasks and calls do,
and whoever of them panics, closes the queue or is dropped: nothing panics over a reply; each
reply made is held in one place or was told, and not both; no write is executed twice; a
completion has the range of its write, and is `Ok` exactly if that was executed successfully;
and so it is for what `write_range` returns.
-/
theorem told_once (reached : (machine Worker).Reachable queue)
    : (∀ event, ∃ after, queue.next event = .ok after)
      ∧ (queue.reports.map Prod.fst).Nodup
      ∧ (∀ ack,
          ack < queue.replies.length
          ↔ ack ∈ queue.reports.map Prod.fst ∧ queue.held ack = 0
            ∨ ack ∉ queue.reports.map Prod.fst ∧ queue.held ack = 1)
      ∧ (∀ ack, Custody.counted executedAcks queue.executed ack ≤ 1)
      ∧ (∀ ack completion chunk,
          (ack, .completed completion) ∈ queue.reports
          → queue.replies[ack]? = some (some chunk)
          → completion.range = chunk.range
            ∧ (completion.result = .ok () ↔ queue.Written ack))
      ∧ ∀ ack, (ack, .ok ()) ∈ queue.returned → queue.Written ack := by
  have sound := sound_reachable reached
  have agrees := agrees_reachable reached
  refine ⟨sound.next_ok, sound.custody.told_nodup, fun ack => ?_, agrees.executed_once sound,
    fun _ _ _ told made => agrees.completed sound told made, returned_written reached⟩
  have custody := sound.custody ack
  rw [← List.count_pos_iff]
  split at custody
  · rename_i within
    exact iff_of_true within (by omega)
  · rename_i beyond
    exact iff_of_false beyond (by omega)

/-- Two workers and room for one command: a write is executed, one waits for room in a task,
a worker panics over a third, and a fourth finds the queue closed.
-/
theorem told_once_panicked
    : ∃ queue : WriterQueue Bool,
        queue.reports
          = [(0, .completed ⟨⟨0, 1⟩, .ok ()⟩),
              (1, .completed ⟨⟨1, 2⟩, .error (writeRangeError ⟨⟨1, 2⟩, [8]⟩ emptyPath)⟩),
              (3, .completed ⟨⟨3, 4⟩, .error (writeRangeError ⟨⟨3, 4⟩, [6]⟩ "x")⟩),
              (2, .completed ⟨⟨2, 3⟩, .error (writeRangeError ⟨⟨2, 3⟩, [7]⟩ "x")⟩)]
        ∧ (queue.reports.map Prod.fst).Nodup
        ∧ ∀ ack completion chunk,
            (ack, .completed completion) ∈ queue.reports
            → queue.replies[ack]? = some (some chunk)
            → completion.range = chunk.range
              ∧ (completion.result = .ok () ↔ queue.Written ack) := by
  let events : List (QueueEvent Bool) :=
    [.submit ⟨⟨0, 1⟩, [9]⟩ true, .work true, .submit ⟨⟨1, 2⟩, [8]⟩ true,
      .submit ⟨⟨2, 3⟩, [7]⟩ true, .execute true (some (.ok ())), .work true, .work false,
      .execute false none, .work false, .work false, .submit ⟨⟨3, 4⟩, [6]⟩ true, .pollTask 0]
  have begins : (machine Bool).Reachable (built .pool "x" 1) :=
    .initial ⟨.pool, "x", 1, .pool, Nat.one_pos, rfl⟩
  have ran : ((machine Bool).execute (built .pool "x" 1) events).map WriterQueue.reports
      = some [(0, .completed ⟨⟨0, 1⟩, .ok ()⟩),
          (1, .completed ⟨⟨1, 2⟩, .error (writeRangeError ⟨⟨1, 2⟩, [8]⟩ emptyPath)⟩),
          (3, .completed ⟨⟨3, 4⟩, .error (writeRangeError ⟨⟨3, 4⟩, [6]⟩ "x")⟩),
          (2, .completed ⟨⟨2, 3⟩, .error (writeRangeError ⟨⟨2, 3⟩, [7]⟩ "x")⟩)] := by
    rfl
  obtain ⟨queue, executed, told⟩ := Option.map_eq_some_iff.mp ran
  obtain ⟨_, nodup, _, _, completed, _⟩ := told_once (begins.execute events executed)
  exact ⟨queue, told, nodup, completed⟩

end WriterQueue

end BoltLoad
