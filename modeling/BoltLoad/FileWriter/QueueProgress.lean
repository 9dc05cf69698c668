import BoltLoad.FileWriter.QueueFinalize
import BoltLoad.Library.Fairness

/-! That no write waits for ever. Every step that hands over no further write lowers one rank;
where no step is left, everything was told; and a write in the queue is told in the end by
workers that go on, whatever is handed over after it.
-/

namespace BoltLoad

/-- How many steps a worker has left without another command. -/
def WorkerPhase.rank : WorkerPhase → Nat
  | .receiving => 4
  | .executing .. => 6
  | .replying .. => 5
  | .acking _ => 4
  | .unwinding _ => 4
  | .closing => 3
  | .draining => 2
  | .dropping _ => 3
  | .leaving => 1
  | .gone => 0

/-- How many steps the finalization has left, with those for its command. -/
def FinalizePhase.rank : FinalizePhase → Nat
  | .idle => 11
  | .unwrapping => 10
  | .sending => 9
  | .awaiting _ => 5
  | .dropping _ => 4
  | .joining _ => 3
  | .syncing _ => 2
  | .returned _ => 0
  | .abandoned => 1
  | .dropped => 0

def WriteCall.rank (call : WriteCall) : Nat := if call.sent then 1 else 5

/-- The event hands over a write. -/
def QueueEvent.handsOver {Worker : Type} : QueueEvent Worker → Bool
  | .submit .. => true
  | .writeRange _ => true
  | _ => false

/-- The event is a step that a party goes on with by itself. -/
def QueueEvent.goesOn {Worker : Type} : QueueEvent Worker → Bool
  | .pollTask _ => true
  | .pollCall _ => true
  | .work _ => true
  | .execute .. => true
  | .acknowledge .. => true
  | .finalizeStep _ => true
  | _ => false

namespace WriterQueue

variable {Worker : Type} {queue after : WriterQueue Worker}

/-- Nothing goes on by itself any more. -/
def Settled [DecidableEq Worker] (queue : WriterQueue Worker) : Prop :=
  ∀ event : QueueEvent Worker, event.goesOn = true → ¬queue.Enabled event

/-- The events of one worker. -/
def ActsOn (worker : Worker) (event : QueueEvent Worker) : Prop :=
  event = .work worker
  ∨ (∃ outcome, event = .execute worker outcome)
  ∨ ∃ flushed, event = .acknowledge worker flushed

/-- How many steps are left without another write handed over. -/
def rank [Fintype Worker] (queue : WriterQueue Worker) : Nat :=
  3 * queue.commands.length
    + 4 * queue.tasks.length
    + (queue.calls.map WriteCall.rank).sum
    + queue.shared.toNat
    + queue.finalizer.rank
    + Custody.total WorkerPhase.rank queue.workers

-----------------------------------------------------------------------------------------
-- Every step lowers the rank
-----------------------------------------------------------------------------------------

section Rank

variable [Fintype Worker] [DecidableEq Worker]

/-- A worker's step lowers its rank, or takes a command that weighs more. -/
theorem rank_workerAt {worker : Worker} {phase : WorkerPhase} {commands : List Command}
    {closed : Bool} {reports : List Report}
    {executed : List (WriteReply × Chunk × Except IoError Unit)}
    (lowers
      : 3 * commands.length + phase.rank
        < 3 * queue.commands.length + (queue.workers worker).rank)
    : ({ queue with commands, closed, reports, executed }.workerAt worker phase).rank
      < queue.rank := by
  have moved := Custody.total_update WorkerPhase.rank queue.workers worker phase
  simp only [rank, workerAt]
  omega

omit [Fintype Worker] [DecidableEq Worker] in
theorem OwnerMoves.lowers {event : QueueEvent Worker} {finalizer : FinalizePhase}
    {closed shared : Bool} (moves : queue.OwnerMoves event finalizer closed shared)
    : shared.toNat + finalizer.rank < queue.shared.toNat + queue.finalizer.rank := by
  cases moves with
  | unshared was =>
      rw [was]
      exact Nat.add_lt_add_right (show 0 < 1 by decide) _
  | finalizes idle => rw [idle]; exact Nat.add_lt_add_left (by decide) _
  | unwraps unwrapping owned => rw [unwrapping]; exact Nat.add_lt_add_left (by decide) _
  | refused sending closed =>
      rw [sending]
      exact Nat.add_lt_add_left (show (4 : Nat) < 9 by decide) _
  | answered awaiting answer succeeds =>
      rw [awaiting]
      exact Nat.add_lt_add_left (show (4 : Nat) < 5 by decide) _
  | senderDropped dropping =>
      rw [dropping]
      exact Nat.add_lt_add_left (show (3 : Nat) < 4 by decide) _
  | joined joining gone =>
      rw [joining]
      exact Nat.add_lt_add_left (show (2 : Nat) < 3 by decide) _
  | joinedMapped joining gone =>
      rw [joining]
      exact Nat.add_lt_add_left (show (0 : Nat) < 3 by decide) _
  | synced syncing =>
      rw [syncing]
      exact Nat.add_lt_add_left (show (0 : Nat) < 2 by decide) _
  | abandons droppable =>
      refine Nat.add_lt_add_left ?_ _
      cases phase : queue.finalizer with
      | idle => decide
      | unwrapping => decide
      | sending => decide
      | awaiting ack => exact show (1 : Nat) < 5 by decide
      | joining result => exact show (1 : Nat) < 3 by decide
      | syncing result => exact show (1 : Nat) < 2 by decide
      | dropping result => rw [phase] at droppable; cases droppable
      | returned result => rw [phase] at droppable; cases droppable
      | abandoned => rw [phase] at droppable; cases droppable
      | dropped => rw [phase] at droppable; cases droppable
  | released abandoned owned => rw [abandoned]; exact Nat.add_lt_add_left (by decide) _

/-- Every step that hands over no write. -/
theorem Moves.lowers {event : QueueEvent Worker} (moves : queue.Moves event after)
    (handsOver : event.handsOver = false)
    : after.rank < queue.rank := by
  have task {index : Nat} {task : Chunk × CompletionGuard}
      (is : queue.tasks[index]? = some task)
      : (queue.tasks.eraseIdx index).length + 1 = queue.tasks.length := by
    have inside := (List.getElem?_eq_some_iff.mp is).1
    rw [List.length_eraseIdx_of_lt inside]
    omega
  have call {index : Nat} {call : WriteCall} (is : queue.calls[index]? = some call)
      : ((queue.calls.eraseIdx index).map WriteCall.rank).sum + call.rank
        = (queue.calls.map WriteCall.rank).sum :=
    Custody.sum_eraseIdx is
  have positive (call : WriteCall) : 0 < call.rank := by
    unfold WriteCall.rank
    split <;> decide
  cases moves with
  | submitted shared sent => cases handsOver
  | spawned shared full => cases handsOver
  | rejected shared full => cases handsOver
  | refused shared closed completes => cases handsOver
  | called shared => cases handsOver
  | taskSent is sent =>
      have fewer := task is
      simp only [rank, push, List.length_append, List.length_singleton]
      omega
  | taskRefused is closed completes =>
      have fewer := task is
      simp only [rank, report]
      omega
  | taskDropped is =>
      have fewer := task is
      simp only [rank, report]
      omega
  | @callSent index known is unsent sent =>
      have moved
          : ((queue.calls.set index { known with sent := true }).map WriteCall.rank).sum
              + known.rank
            = (queue.calls.map WriteCall.rank).sum + 1 :=
        Custody.sum_set is
      have before : known.rank = 5 := by
        simp only [WriteCall.rank, unsent, Bool.false_eq_true, if_false]
      simp only [rank, push, List.length_append, List.length_singleton]
      omega
  | @callRefused index known is unsent closed =>
      have fewer := call is
      have some := positive known
      simp only [rank, returns, report]
      omega
  | @callReturned index known told result is sent answer succeeds =>
      have fewer := call is
      have some := positive known
      simp only [rank, returns]
      omega
  | @callDropped index known is sent =>
      have fewer := call is
      have some := positive known
      simp only [rank, report]
      omega
  | @unsentDropped index known is unsent =>
      have fewer := call is
      have some := positive known
      simp only [rank, report]
      omega
  | took receiving first =>
      refine rank_workerAt ?_
      rw [receiving, first, List.length_cons]
      simp only [WorkerPhase.rank]
      omega
  | tookFinalize receiving first =>
      refine rank_workerAt ?_
      rw [receiving, first, List.length_cons]
      simp only [WorkerPhase.rank]
      omega
  | drained draining first =>
      refine rank_workerAt ?_
      rw [draining, first, List.length_cons]
      simp only [WorkerPhase.rank]
      omega
  | ended receiving empty closed =>
      exact rank_workerAt (by rw [receiving]; exact Nat.add_lt_add_left (by decide) _)
  | @executed worker chunk reply result executing =>
      exact rank_workerAt
        (by rw [executing]; exact Nat.add_lt_add_left (show (5 : Nat) < 6 by decide) _)
  | panicked executing =>
      exact rank_workerAt
        (by rw [executing]; exact Nat.add_lt_add_left (show (4 : Nat) < 6 by decide) _)
  | replied replying completes =>
      exact rank_workerAt
        (by rw [replying]; exact Nat.add_lt_add_left (show (4 : Nat) < 5 by decide) _)
  | unwound unwinding =>
      exact rank_workerAt
        (by rw [unwinding]; exact Nat.add_lt_add_left (show (3 : Nat) < 4 by decide) _)
  | acknowledged acking =>
      exact rank_workerAt
        (by rw [acking]; exact Nat.add_lt_add_left (show (3 : Nat) < 4 by decide) _)
  | closes closing =>
      exact rank_workerAt (by rw [closing]; exact Nat.add_lt_add_left (by decide) _)
  | emptied draining empty =>
      exact rank_workerAt (by rw [draining]; exact Nat.add_lt_add_left (by decide) _)
  | commandDropped dropping =>
      exact rank_workerAt
        (by rw [dropping]; exact Nat.add_lt_add_left (show (2 : Nat) < 3 by decide) _)
  | left leaving =>
      exact rank_workerAt (by rw [leaving]; exact Nat.add_lt_add_left (by decide) _)
  | finalizeSent sending sent =>
      simp only [rank, push, reply, sending, List.length_append, List.length_singleton,
        FinalizePhase.rank]
      omega
  | owner moves =>
      have lower := moves.lowers
      simp only [rank]
      omega

end Rank

-----------------------------------------------------------------------------------------
-- Where no step is left
-----------------------------------------------------------------------------------------

section Settled

variable [DecidableEq Worker]

/-- Every worker is gone, or waits for a command of an open queue. -/
theorem Settled.workers (settled : queue.Settled) (worker : Worker)
    : queue.workers worker = .gone
      ∨ queue.workers worker = .receiving ∧ queue.closed = false ∧ queue.commands = [] := by
  have works := settled (.work worker) rfl
  have executes := settled (.execute worker none) rfl
  have acknowledges := settled (.acknowledge worker (.ok ())) rfl
  simp only [Enabled, WriterQueue.goesOn] at works executes acknowledges
  cases phase : queue.workers worker with
  | gone => exact .inl rfl
  | receiving =>
      simp only [phase, Bool.not_eq_true, Bool.or_eq_false_iff, Bool.not_eq_false',
        List.isEmpty_iff] at works
      exact .inr ⟨rfl, works⟩
  | executing chunk reply =>
      rw [phase] at executes
      exact absurd rfl executes
  | acking ack =>
      rw [phase] at acknowledges
      exact absurd ⟨rfl, fun _ => trivial⟩ acknowledges
  | replying chunk reply result => simp [phase] at works
  | unwinding reply => simp [phase] at works
  | closing => simp [phase] at works
  | draining => simp [phase] at works
  | dropping command => simp [phase] at works
  | leaving => simp [phase] at works

/-- The queue is empty. -/
theorem Settled.commands (settled : queue.Settled) (exits : queue.Exits)
    : queue.commands = [] := by
  by_cases none : IsEmpty Worker
  · exact (exits.workerless none).2
  · obtain ⟨worker⟩ := not_isEmpty_iff.mp none
    rcases settled.workers worker with gone | ⟨_, _, empty⟩
    · exact (exits.exited worker (by rw [gone]; rfl)).2
    · exact empty

/-- So there is room in it, or it is closed. -/
theorem Settled.not_full (settled : queue.Settled) (exits : queue.Exits)
    : queue.trySend ≠ .full := by
  intro full
  have empty := settled.commands exits
  have positive := exits.positive
  unfold trySend at full
  rw [empty] at full
  split at full
  · cases full
  · rw [if_pos (show ([] : List Command).length < queue.room from positive)] at full
    cases full

/-- Everything was told, and the finalization has gone as far as it can. -/
theorem Settled.told [Fintype Worker] (settled : queue.Settled) (sound : queue.Sound) (exits : queue.Exits)
    : queue.commands = []
      ∧ queue.tasks = []
      ∧ queue.calls = []
      ∧ (∀ ack < queue.replies.length, ack ∈ queue.reports.map Prod.fst)
      ∧ (queue.closed = true → ∀ worker, queue.workers worker = .gone)
      ∧ (queue.finalizer = .idle
        ∨ (∃ result, queue.finalizer = .returned result)
        ∨ queue.finalizer = .dropped
        ∨ queue.shared = true) := by
  have commands := settled.commands exits
  have room := settled.not_full exits
  have tasks : queue.tasks = [] := by
    by_contra some
    exact settled (.pollTask 0) rfl ⟨List.length_pos_of_ne_nil some, room⟩
  have hands (worker : Worker) : (queue.workers worker).acks = [] := by
    rcases settled.workers worker with gone | ⟨receiving, _⟩
    · rw [gone]
      rfl
    · rw [receiving]
      rfl
  have idle (ack : CommandAck)
      : Custody.total (fun phase : WorkerPhase => phase.acks.count ack) queue.workers = 0 :=
    Custody.total_eq_zero.mpr (fun worker => by rw [hands worker]; rfl)
  have answered {ack : CommandAck} (made : ack < queue.replies.length)
      (uncalled : Custody.counted WriteCall.acks queue.calls ack = 0)
      : (queue.answer ack).isSome = true := by
    have told : ack ∈ queue.reports.map Prod.fst := by
      refine sound.custody.told_of_unheld made ?_
      simp only [held, commands, tasks, Custody.counted_nil, uncalled, idle]
    obtain ⟨report, inside, same⟩ := List.mem_map.mp told
    refine Option.isSome_map.trans (List.find?_isSome.mpr ⟨report, inside, ?_⟩)
    exact beq_iff_eq.mpr same
  have waits (index : Nat) {call : WriteCall} (is : queue.calls[index]? = some call)
      : queue.callGoesOn call ≠ true :=
    fun goes => settled (.pollCall index) rfl ⟨call, is, goes⟩
  have sent (call : WriteCall) (inside : call ∈ queue.calls) : call.sent = true := by
    by_contra unsent
    obtain ⟨index, is⟩ := List.mem_iff_getElem?.mp inside
    refine waits index is ?_
    simp only [callGoesOn, unsent, if_false]
    simpa using room
  have calls : queue.calls = [] := by
    by_contra some
    obtain ⟨call, inside⟩ := List.exists_mem_of_ne_nil _ some
    obtain ⟨index, is⟩ := List.mem_iff_getElem?.mp inside
    have made := sound.calls call inside
    refine waits index is ?_
    simp only [callGoesOn, sent call inside, if_true]
    refine answered (List.getElem?_eq_some_iff.mp made).1 ?_
    refine List.sum_eq_zero (fun count counted => ?_)
    obtain ⟨other, member, rfl⟩ := List.mem_map.mp counted
    simp only [WriteCall.acks, sent other member, if_true, List.count_nil]
  have told (ack : CommandAck) (made : ack < queue.replies.length)
      : ack ∈ queue.reports.map Prod.fst :=
    sound.told_of_empty commands tasks calls hands made
  have gone (closed : queue.closed = true) (worker : Worker) : queue.workers worker = .gone := by
    rcases settled.workers worker with gone | ⟨_, opened, _⟩
    · exact gone
    · rw [closed] at opened
      cases opened
  refine ⟨commands, tasks, calls, told, gone, ?_⟩
  have finalizes : ¬queue.FinalizeGoesOn queue.finalizer := settled (.finalizeStep (.ok ())) rfl
  have shares (held : ¬queue.Owned) : queue.shared = true := by
    by_contra unshared
    exact held ⟨Bool.not_eq_true _ ▸ unshared, tasks, calls⟩
  cases phase : queue.finalizer with
  | idle => exact .inl rfl
  | returned result => exact .inr (.inl ⟨result, rfl⟩)
  | dropped => exact .inr (.inr (.inl rfl))
  | unwrapping =>
      rw [phase] at finalizes
      exact .inr (.inr (.inr (shares finalizes)))
  | abandoned =>
      rw [phase] at finalizes
      exact .inr (.inr (.inr (shares finalizes)))
  | sending =>
      rw [phase] at finalizes
      exact absurd room finalizes
  | awaiting ack =>
      rw [phase] at finalizes
      have made := sound.awaited ack phase
      refine absurd (answered (List.getElem?_eq_some_iff.mp made).1 ?_) finalizes
      rw [calls]
      rfl
  | dropping result =>
      rw [phase] at finalizes
      exact absurd trivial finalizes
  | joining result =>
      rw [phase] at finalizes
      exact absurd (gone (exits.disconnected (by rw [phase]; rfl))) finalizes
  | syncing joined =>
      rw [phase] at finalizes
      exact absurd trivial finalizes

end Settled

-----------------------------------------------------------------------------------------
-- Workers that go on
-----------------------------------------------------------------------------------------

/-- The command of a reply is in the queue. -/
def Queued (queue : WriterQueue Worker) (ack : CommandAck) : Prop :=
  ∃ command ∈ queue.commands, ack ∈ command.acks

/-- A worker holds a reply. -/
def InHand (queue : WriterQueue Worker) (worker : Worker) (ack : CommandAck) : Prop :=
  ack ∈ (queue.workers worker).acks

/-- What the workers have left to do before a queued command is taken. -/
def ahead [Fintype Worker] (queue : WriterQueue Worker) (ack : CommandAck) : Nat :=
  3 * queue.commands.findIdx (fun command => decide (ack ∈ command.acks))
    + Custody.total WorkerPhase.rank queue.workers

/-- What a step does to the queue and its workers: it puts commands at the end, or is a worker's
with the commands it has or the first one of the queue.
-/
inductive Serves [DecidableEq Worker] (queue after : WriterQueue Worker)
    (event : QueueEvent Worker)
    : Prop
  | appends (more : List Command) (commands : after.commands = queue.commands ++ more)
    (workers : after.workers = queue.workers)
    (others : ∀ worker, ¬ActsOn worker event)
  | goes {worker phase} (acts : ActsOn worker event)
    (commands : after.commands = queue.commands)
    (workers : after.workers = Function.update queue.workers worker phase)
    (lowers : phase.rank < (queue.workers worker).rank)
    (told
      : ∀ ack ∈ (queue.workers worker).acks,
          ack ∈ phase.acks ∨ ack ∈ after.reports.map Prod.fst)
  | takes {worker phase command} (acts : ActsOn worker event)
    (commands : queue.commands = command :: after.commands)
    (workers : after.workers = Function.update queue.workers worker phase)
    (lowers : phase.rank < 3 + (queue.workers worker).rank)
    (free : (queue.workers worker).acks = []) (holds : phase.acks = command.acks)

section Fair

variable [DecidableEq Worker]

/-- A worker keeps a reply until it tells of it. -/
theorem Serves.inHand {event : QueueEvent Worker} {ack : CommandAck} {worker : Worker}
    (serves : queue.Serves after event) (inHand : queue.InHand worker ack)
    : (after.InHand worker ack
        ∧ (after.workers worker).rank ≤ (queue.workers worker).rank
        ∧ (ActsOn worker event → (after.workers worker).rank < (queue.workers worker).rank))
      ∨ ack ∈ after.reports.map Prod.fst := by
  have same {first second : Worker} (one : ActsOn first event) (other : ActsOn second event)
      : first = second := by
    rcases one with rfl | ⟨_, rfl⟩ | ⟨_, rfl⟩
    · rcases other with same | ⟨_, never⟩ | ⟨_, never⟩
      · exact QueueEvent.work.inj same
      · cases never
      · cases never
    · rcases other with never | ⟨_, same⟩ | ⟨_, never⟩
      · cases never
      · exact (QueueEvent.execute.inj same).1
      · cases never
    · rcases other with never | ⟨_, never⟩ | ⟨_, same⟩
      · cases never
      · cases never
      · exact (QueueEvent.acknowledge.inj same).1
  cases serves with
  | appends more commands workers others =>
      refine .inl ⟨?_, ?_, fun acts => absurd acts (others worker)⟩
      · rw [InHand, workers]
        exact inHand
      · rw [workers]
  | @goes other phase acts commands workers lowers told =>
      by_cases here : worker = other
      · subst here
        refine (told ack inHand).imp_left (fun still => ?_)
        rw [InHand, workers, Function.update_self]
        exact ⟨still, lowers.le, fun _ => lowers⟩
      · left
        rw [InHand, workers, Function.update_of_ne here]
        exact ⟨inHand, Nat.le_refl _, fun one => absurd (same one acts) here⟩
  | @takes other phase first acts commands workers lowers free held =>
      have here : worker ≠ other := by
        rintro rfl
        rw [InHand, free] at inHand
        cases inHand
      left
      rw [InHand, workers, Function.update_of_ne here]
      exact ⟨inHand, Nat.le_refl _, fun one => absurd (same one acts) here⟩

variable [Fintype Worker]

/-- Every step. -/
theorem Moves.serves {event : QueueEvent Worker} (moves : queue.Moves event after)
    (sound : queue.Sound)
    : queue.Serves after event := by
  have apart {event : QueueEvent Worker}
      (other
        : (∀ worker, event ≠ .work worker)
          ∧ (∀ worker outcome, event ≠ .execute worker outcome)
          ∧ ∀ worker flushed, event ≠ .acknowledge worker flushed)
      (worker : Worker)
      : ¬ActsOn worker event := by
    rintro (rfl | ⟨outcome, rfl⟩ | ⟨flushed, rfl⟩)
    · exact other.1 worker rfl
    · exact other.2.1 worker outcome rfl
    · exact other.2.2 worker flushed rfl
  have empty : queue.commands = queue.commands ++ [] := (List.append_nil _).symm
  cases moves with
  | submitted shared sent => exact .appends [_] rfl rfl (apart (by simp))
  | spawned shared full => exact .appends [] empty rfl (apart (by simp))
  | rejected shared full => exact .appends [] empty rfl (apart (by simp))
  | refused shared closed completes =>
      exact .appends [] empty rfl (apart (by simp))
  | taskSent is sent => exact .appends [_] rfl rfl (apart (by simp))
  | taskRefused is closed completes =>
      exact .appends [] empty rfl (apart (by simp))
  | taskDropped is => exact .appends [] empty rfl (apart (by simp))
  | called shared => exact .appends [] empty rfl (apart (by simp))
  | callSent is unsent sent => exact .appends [_] rfl rfl (apart (by simp))
  | callRefused is unsent closed => exact .appends [] empty rfl (apart (by simp))
  | callReturned is sent answer succeeds => exact .appends [] empty rfl (apart (by simp))
  | callDropped is sent => exact .appends [] empty rfl (apart (by simp))
  | unsentDropped is unsent => exact .appends [] empty rfl (apart (by simp))
  | took receiving first =>
      exact .takes (.inl rfl) first rfl (by rw [receiving]; exact show (6 : Nat) < 7 by decide)
        (by rw [receiving]; rfl) rfl
  | tookFinalize receiving first =>
      exact .takes (.inl rfl) first rfl (by rw [receiving]; exact show (4 : Nat) < 7 by decide)
        (by rw [receiving]; rfl) rfl
  | drained draining first =>
      exact .takes (.inl rfl) first rfl (by rw [draining]; exact show (3 : Nat) < 5 by decide)
        (by rw [draining]; rfl) rfl
  | ended receiving empty closed =>
      exact .goes (.inl rfl) rfl rfl (by rw [receiving]; decide)
        (by rw [receiving]; exact fun _ never => by cases never)
  | @executed worker chunk reply result executing =>
      exact .goes (.inr (.inl ⟨_, rfl⟩)) rfl rfl
        (by rw [executing]; exact show (5 : Nat) < 6 by decide)
        (by rw [executing]; exact fun _ inside => .inl inside)
  | panicked executing =>
      exact .goes (.inr (.inl ⟨_, rfl⟩)) rfl rfl
        (by rw [executing]; exact show (4 : Nat) < 6 by decide)
        (by rw [executing]; exact fun _ inside => .inl inside)
  | @replied worker chunk reply result reports replying completes =>
      have made := sound.workers worker
      rw [replying] at made
      obtain ⟨ack, told, _, acks, tells, _⟩ := WriteReply.For.complete made result queue.path
      cases tells.symm.trans completes
      refine .goes (.inl rfl) rfl rfl (by rw [replying]; exact show (4 : Nat) < 5 by decide)
        ?_
      rw [replying]
      intro other inside
      rw [show (WorkerPhase.replying chunk reply result).acks = [ack] from acks] at inside
      cases List.mem_singleton.mp inside
      exact .inr (List.mem_map_of_mem (List.mem_append_right _ (List.mem_singleton_self _)))
  | @unwound worker reply unwinding =>
      have made := sound.workers worker
      rw [unwinding] at made
      obtain ⟨chunk, made⟩ := made
      obtain ⟨ack, told, _, acks, tells, _⟩ := made.drop
      refine .goes (.inl rfl) rfl rfl (by rw [unwinding]; exact show (3 : Nat) < 4 by decide)
        ?_
      rw [unwinding, tells]
      intro other inside
      rw [show (WorkerPhase.unwinding reply).acks = [ack] from acks] at inside
      cases List.mem_singleton.mp inside
      exact .inr (List.mem_map_of_mem (List.mem_append_right _ (List.mem_singleton_self _)))
  | @acknowledged worker ack flushed acking =>
      refine .goes (.inr (.inr ⟨_, rfl⟩)) rfl rfl
        (by rw [acking]; exact show (3 : Nat) < 4 by decide) ?_
      rw [acking]
      intro other inside
      cases List.mem_singleton.mp inside
      exact .inr (List.mem_map_of_mem (List.mem_append_right _ (List.mem_singleton_self _)))
  | closes closing =>
      exact .goes (.inl rfl) rfl rfl (by rw [closing]; decide)
        (by rw [closing]; exact fun _ never => by cases never)
  | emptied draining empty =>
      exact .goes (.inl rfl) rfl rfl (by rw [draining]; decide)
        (by rw [draining]; exact fun _ never => by cases never)
  | @commandDropped worker command dropping =>
      have made := sound.workers worker
      rw [dropping] at made
      obtain ⟨ack, told, _, _, acks, tells, _⟩ := Command.Sound.drop made
      refine .goes (.inl rfl) rfl rfl (by rw [dropping]; exact show (2 : Nat) < 3 by decide)
        ?_
      rw [dropping, tells]
      intro other inside
      rw [show (WorkerPhase.dropping command).acks = [ack] from acks] at inside
      cases List.mem_singleton.mp inside
      exact .inr (List.mem_map_of_mem (List.mem_append_right _ (List.mem_singleton_self _)))
  | left leaving =>
      exact .goes (.inl rfl) rfl rfl (by rw [leaving]; decide)
        (by rw [leaving]; exact fun _ never => by cases never)
  | finalizeSent sending sent => exact .appends [_] rfl rfl (apart (by simp))
  | owner moves =>
      refine .appends [] empty rfl (apart ?_)
      cases moves <;> simp

/-- A queued command stays so, with no more ahead of it, until a worker takes it. -/
theorem Serves.queued {event : QueueEvent Worker} {ack : CommandAck}
    (serves : queue.Serves after event) (queued : queue.Queued ack)
    : (after.Queued ack
        ∧ after.ahead ack ≤ queue.ahead ack
        ∧ ∀ worker, ActsOn worker event → after.ahead ack < queue.ahead ack)
      ∨ ∃ worker, after.InHand worker ack := by
  obtain ⟨command, inside, holds⟩ := queued
  have found : (queue.commands.findIdx (fun command => decide (ack ∈ command.acks)))
      < queue.commands.length :=
    List.findIdx_lt_length_of_exists ⟨command, inside, decide_eq_true holds⟩
  cases serves with
  | appends more commands workers others =>
      refine .inl ⟨⟨command, ?_, holds⟩, ?_, fun worker acts => absurd acts (others worker)⟩
      · rw [commands]
        exact List.mem_append_left _ inside
      · simp only [ahead, commands, workers, List.findIdx_append, if_pos found, Nat.le_refl]
  | @goes worker phase acts commands workers lowers told =>
      have moved := Custody.total_update WorkerPhase.rank queue.workers worker phase
      have lower : after.ahead ack < queue.ahead ack := by
        simp only [ahead, commands, workers]
        omega
      exact .inl ⟨⟨command, by rwa [commands], holds⟩, lower.le, fun _ _ => lower⟩
  | @takes worker phase first acts commands workers lowers free held =>
      have moved := Custody.total_update WorkerPhase.rank queue.workers worker phase
      by_cases here : ack ∈ first.acks
      · refine .inr ⟨worker, ?_⟩
        rw [InHand, workers, Function.update_self, held]
        exact here
      · have later : command ∈ after.commands := by
          rw [commands] at inside
          refine (List.mem_cons.mp inside).resolve_left ?_
          rintro rfl
          exact here holds
        have lower : after.ahead ack < queue.ahead ack := by
          simp only [ahead, commands, workers, List.findIdx_cons, here, decide_false, cond_false]
          omega
        exact .inl ⟨⟨command, later, holds⟩, lower.le, fun _ _ => lower⟩

/-- A worker that is not waiting for a command, and not gone, goes on. -/
theorem Sound.admits (sound : queue.Sound) {worker : Worker}
    (present : queue.workers worker ≠ .gone)
    (waits : queue.workers worker = .receiving → queue.closed = true ∨ queue.commands ≠ [])
    : Machine.Endless.Admits (machine Worker) (fun _ => ActsOn worker) queue := by
  have steps {event : QueueEvent Worker} (acts : ActsOn worker event)
      (enabled : queue.Enabled event)
      : Machine.Endless.Admits (machine Worker) (fun _ => ActsOn worker) queue := by
    obtain ⟨after, next⟩ := sound.next_ok event
    exact ⟨event, after, acts, enabled, next⟩
  have works (goes : queue.goesOn worker = true)
      : Machine.Endless.Admits (machine Worker) (fun _ => ActsOn worker) queue :=
    steps (.inl rfl) goes
  unfold goesOn at works
  cases phase : queue.workers worker with
  | gone => exact absurd phase present
  | receiving =>
      rw [phase] at works
      refine works ?_
      rcases waits phase with closed | some
      · rw [closed]
        rfl
      · simp only [List.isEmpty_eq_false_iff.mpr some, Bool.not_false, Bool.or_true]
  | executing chunk reply =>
      exact steps (.inr (.inl ⟨none, rfl⟩)) (executes_iff.mpr ⟨chunk, reply, phase⟩)
  | acking ack =>
      exact steps (.inr (.inr ⟨.ok (), rfl⟩))
        ⟨acknowledges_iff.mpr ⟨ack, phase⟩, fun _ => rfl⟩
  | replying chunk reply result => exact works (by rw [phase])
  | unwinding reply => exact works (by rw [phase])
  | closing => exact works (by rw [phase])
  | draining => exact works (by rw [phase])
  | dropping command => exact works (by rw [phase])
  | leaving => exact works (by rw [phase])

/-- A worker that goes on tells of the reply it holds in the end. -/
theorem told_from_hand {run : (machine Worker).Endless}
    (begins : (machine Worker).Reachable (run.states 0)) {worker : Worker}
    (fair : run.Fair (fun _ => ActsOn worker)) {ack : CommandAck} {start : Nat}
    (inHand : (run.states start).InHand worker ack)
    : ∃ time, start ≤ time ∧ ack ∈ (run.states time).reports.map Prod.fst := by
  have sound (time : Nat) := sound_reachable (run.reachable begins time)
  have serves (time : Nat) := (moves (run.steps time).enabled (run.steps time).next).serves
    (sound time)
  refine fair.leads_ranked (fun queue => queue.Sound ∧ queue.InHand worker ack)
    (fun queue => ack ∈ queue.reports.map Prod.fst) (fun queue => (queue.workers worker).rank)
    ?_ ?_ ?_ ⟨sound start, inHand⟩
  · rintro time ⟨_, held⟩
    exact ((serves time).inHand held).imp_left
      (fun ⟨still, lower, _⟩ => ⟨⟨sound (time + 1), still⟩, lower⟩)
  · rintro time ⟨_, held⟩
    refine (sound time).admits ?_ ?_
    · intro gone
      rw [InHand, gone] at held
      cases held
    · intro receiving
      rw [InHand, receiving] at held
      cases held
  · rintro time ⟨_, held⟩ acts
    exact ((serves time).inHand held).imp_left (fun ⟨_, _, lower⟩ => lower acts)

/-- Workers that go on take a queued command in the end. -/
theorem taken_from_queue {run : (machine Worker).Endless}
    (begins : (machine Worker).Reachable (run.states 0)) {worker : Worker}
    (fair : run.Fair (fun _ => ActsOn worker)) {ack : CommandAck} {start : Nat}
    (queued : (run.states start).Queued ack)
    : ∃ time, start ≤ time ∧ ∃ worker, (run.states time).InHand worker ack := by
  have reached (time : Nat) := run.reachable begins time
  have serves (time : Nat) := (moves (run.steps time).enabled (run.steps time).next).serves
    (sound_reachable (reached time))
  refine fair.leads_ranked
    (fun queue => (machine Worker).Reachable queue ∧ queue.Queued ack)
    (fun queue => ∃ worker, queue.InHand worker ack) (fun queue => queue.ahead ack)
    ?_ ?_ ?_ ⟨reached start, queued⟩
  · rintro time ⟨_, held⟩
    exact ((serves time).queued held).imp_left
      (fun ⟨still, lower, _⟩ => ⟨⟨reached (time + 1), still⟩, lower⟩)
  · rintro time ⟨here, command, inside, _⟩
    have exits := exits_reachable here
    have some : (run.states time).commands ≠ [] := List.ne_nil_of_mem inside
    refine (sound_reachable here).admits (fun gone => ?_) (fun _ => .inr some)
    exact some (exits.exited worker (by rw [gone]; rfl)).2
  · rintro time ⟨_, held⟩ acts
    exact ((serves time).queued held).imp_left (fun ⟨_, _, lower⟩ => lower worker acts)

end Fair

variable [Fintype Worker] [DecidableEq Worker]

/-- No write waits for ever. Steps that hand over no further write are no more than the rank of
where they start; where none is left, the queue is empty, no task or call waits, everything
was told, the workers of a closed queue are gone, and `finalize` has returned unless the writer
is still shared; and with writes handed over without end, one that is in the queue is still told
of in the end by workers that go on.
-/
theorem told_in_the_end (reached : (machine Worker).Reachable queue)
    : (∀ events later,
          (∀ event ∈ events, event.handsOver = false)
          → (machine Worker).execute queue events = some later
          → events.length + later.rank ≤ queue.rank)
      ∧ (queue.Settled
          → queue.commands = []
            ∧ queue.tasks = []
            ∧ queue.calls = []
            ∧ (∀ ack < queue.replies.length, ack ∈ queue.reports.map Prod.fst)
            ∧ (queue.closed = true → ∀ worker, queue.workers worker = .gone)
            ∧ (queue.finalizer = .idle
              ∨ (∃ result, queue.finalizer = .returned result)
              ∨ queue.finalizer = .dropped
              ∨ queue.shared = true))
      ∧ ∀ (run : (machine Worker).Endless) start ack,
          run.states 0 = queue
          → (∀ worker, run.Fair (fun _ => ActsOn worker))
          → (run.states start).Queued ack
          → ∃ time, start ≤ time ∧ ack ∈ (run.states time).reports.map Prod.fst := by
  refine ⟨fun events later silent executed => ?_, fun settled => ?_, ?_⟩
  · exact (machine Worker).execute_length_le rank
      (fun event inside before after step =>
        (moves step.enabled step.next).lowers (silent event inside)) executed
  · exact settled.told (sound_reachable reached) (exits_reachable reached)
  · intro run start ack same fair queued
    have begins : (machine Worker).Reachable (run.states 0) := same ▸ reached
    have worker : Nonempty Worker := by
      by_contra none
      have exits := exits_reachable (run.reachable begins start)
      obtain ⟨command, inside, _⟩ := queued
      rw [(exits.workerless (not_nonempty_iff.mp none)).2] at inside
      cases inside
    obtain ⟨time, later, worker, inHand⟩ :=
      taken_from_queue begins (fair worker.some) queued
    obtain ⟨final, after, told⟩ := told_from_hand begins (fair worker) inHand
    exact ⟨final, later.trans after, told⟩

/-- A write is told of in the three steps of a worker, and then nothing is left to do. -/
theorem told_in_the_end_settled
    : ∃ before after : WriterQueue Bool,
        3 + after.rank ≤ before.rank
        ∧ after.closed = false
        ∧ after.commands = []
        ∧ ∀ ack < 1, ack ∈ after.reports.map Prod.fst := by
  let steps : List (QueueEvent Bool) :=
    [.work true, .execute true (some (.ok ())), .work true]
  have begins : (machine Bool).Reachable (built .pool "x" 1) :=
    .initial ⟨.pool, "x", 1, .pool, Nat.one_pos, rfl⟩
  have submitted := begins.execute [.submit ⟨⟨0, 1⟩, [9]⟩ true] rfl
  have last := submitted.execute steps rfl
  refine ⟨_, _, (told_in_the_end submitted).1 steps _ (by decide) rfl, rfl, ?_⟩
  obtain ⟨commands, _, _, told, _⟩ := (told_in_the_end last).2.1 (fun event goes enabled => by
    cases event with
    | pollTask index => exact Nat.not_lt_zero _ enabled.1
    | pollCall index =>
        obtain ⟨call, is, _⟩ := enabled
        cases is
    | work worker => cases worker <;> cases enabled
    | execute worker outcome => cases worker <;> cases enabled
    | acknowledge worker flushed => cases worker <;> cases enabled.1
    | finalizeStep synced => exact enabled
    | submit chunk spawns => cases goes
    | dropTask index => cases goes
    | writeRange chunk => cases goes
    | dropCall index => cases goes
    | unshare => cases goes
    | finalize => cases goes
    | abandon => cases goes)
  exact ⟨commands, told⟩

end WriterQueue

end BoltLoad
