import BoltLoad.FileWriter.QueueExecution

/-! The exit of the workers and the end of the finalization. A worker leaves a closed and empty
queue behind; `finalize` owns the writer alone when it sends its command, and returns once every
worker is gone.
-/

namespace BoltLoad

/-- The worker closed the queue and is emptying it. -/
def WorkerPhase.drains : WorkerPhase → Bool
  | .draining => true
  | .dropping _ => true
  | _ => false

/-- The worker emptied the queue. -/
def WorkerPhase.exited : WorkerPhase → Bool
  | .leaving => true
  | .gone => true
  | _ => false

/-- `finalize` has the writer to itself. -/
def FinalizePhase.owns : FinalizePhase → Bool
  | .idle => false
  | .unwrapping => false
  | .abandoned => false
  | _ => true

/-- The sender is dropped. -/
def FinalizePhase.disconnected : FinalizePhase → Bool
  | .joining _ => true
  | .syncing _ => true
  | .returned _ => true
  | .dropped => true
  | _ => false

/-- `worker_wg.wait()` returned. -/
def FinalizePhase.joined : FinalizePhase → Bool
  | .syncing _ => true
  | .returned _ => true
  | _ => false

namespace WriterQueue

variable {Worker : Type} {queue after : WriterQueue Worker}

/-- Who is through with the queue, and how they left it. -/
structure Exits (queue : WriterQueue Worker) : Prop where
  positive : 0 < queue.room
  bounded : queue.commands.length ≤ queue.room
  workerless : IsEmpty Worker → queue.closed = true ∧ queue.commands = []
  drains : ∀ worker, (queue.workers worker).drains = true → queue.closed = true
  exited
    : ∀ worker,
        (queue.workers worker).exited = true → queue.closed = true ∧ queue.commands = []
  owned : queue.finalizer.owns = true → queue.Owned
  disconnected : queue.finalizer.disconnected = true → queue.closed = true
  joined : queue.finalizer.joined = true → ∀ worker, queue.workers worker = .gone

namespace Exits

theorem begins [Fintype Worker] (kind : FileRangeWriterKind) (path : String) {room : Nat} (positive : 0 < room)
    : (built kind path room : WriterQueue Worker).Exits where
  positive := positive
  bounded := Nat.zero_le _
  workerless := fun none => ⟨decide_eq_true (Fintype.card_eq_zero_iff.mpr none), rfl⟩
  drains := fun _ never => by cases never
  exited := fun _ never => by cases never
  owned := fun never => by cases never
  disconnected := fun never => by cases never
  joined := fun never => by cases never

/-- A command enters an open queue with room. -/
theorem pushes (exits : queue.Exits) (sent : queue.trySend = .sent)
    (room : after.room = queue.room) (closed : after.closed = queue.closed)
    (commands : after.commands.length = queue.commands.length + 1)
    (workers : after.workers = queue.workers)
    (owned : after.finalizer.owns = true → after.Owned)
    (disconnected
      : after.finalizer.disconnected = true → queue.finalizer.disconnected = true)
    (joined : after.finalizer.joined = true → queue.finalizer.joined = true)
    : after.Exits := by
  obtain ⟨opened, free⟩ := trySend_sent.mp sent
  constructor
  case positive =>
    rw [room]
    exact exits.positive
  case bounded => omega
  case workerless =>
    intro none
    rw [(exits.workerless none).1] at opened
    cases opened
  case drains =>
    rw [closed, workers]
    exact exits.drains
  case exited =>
    rw [workers]
    intro worker out
    rw [(exits.exited worker out).1] at opened
    cases opened
  case owned => exact owned
  case disconnected =>
    rw [closed]
    exact fun is => exits.disconnected (disconnected is)
  case joined =>
    rw [workers]
    exact fun is => exits.joined (joined is)

/-- Nobody touches the channel or its workers. -/
theorem same (exits : queue.Exits) (room : after.room = queue.room)
    (closed : after.closed = queue.closed) (commands : after.commands = queue.commands)
    (workers : after.workers = queue.workers)
    (finalizer : after.finalizer = queue.finalizer)
    (owned : queue.Owned → queue.finalizer.owns = true → after.Owned)
    : after.Exits := by
  constructor
  case positive =>
    rw [room]
    exact exits.positive
  case bounded =>
    rw [room, commands]
    exact exits.bounded
  case workerless =>
    rw [closed, commands]
    exact exits.workerless
  case drains =>
    rw [closed, workers]
    exact exits.drains
  case exited =>
    rw [closed, commands, workers]
    exact exits.exited
  case owned =>
    rw [finalizer]
    exact fun is => owned (exits.owned is) is
  case disconnected =>
    rw [closed, finalizer]
    exact exits.disconnected
  case joined =>
    rw [workers, finalizer]
    exact exits.joined

/-- While anything else holds the writer, `finalize` does not. -/
theorem not_owns (exits : queue.Exits) (held : ¬queue.Owned)
    : queue.finalizer.owns ≠ true :=
  fun is => held (exits.owned is)

/-- The owner's steps. -/
theorem owner {event : QueueEvent Worker} {finalizer : FinalizePhase} {closed shared : Bool}
    (exits : queue.Exits) (moves : queue.OwnerMoves event finalizer closed shared)
    : Exits { queue with finalizer, closed, shared } := by
  have closes (is : queue.closed = true) : closed = true := by
    cases moves with
    | senderDropped dropping => rfl
    | released abandoned owned => rfl
    | unshared was => exact is
    | finalizes idle => exact is
    | unwraps unwrapping owned => exact is
    | refused sending closed => exact is
    | answered awaiting answer succeeds => exact is
    | joined joining gone => exact is
    | joinedMapped joining gone => exact is
    | synced syncing => exact is
    | abandons droppable => exact is
  refine ⟨exits.positive, exits.bounded, ?_, ?_, ?_, ?_, ?_, ?_⟩
  · exact fun none => (exits.workerless none).imp_left closes
  · exact fun worker is => closes (exits.drains worker is)
  · exact fun worker is => (exits.exited worker is).imp_left closes
  · intro is
    cases moves with
    | unshared was =>
        refine absurd is (exits.not_owns (fun owned => ?_))
        rw [owned.1] at was
        cases was
    | finalizes idle => cases is
    | unwraps unwrapping owned => exact owned
    | refused sending closed => exact exits.owned (by rw [sending]; rfl)
    | answered awaiting answer succeeds => exact exits.owned (by rw [awaiting]; rfl)
    | senderDropped dropping => exact exits.owned (by rw [dropping]; rfl)
    | joined joining gone => exact exits.owned (by rw [joining]; rfl)
    | joinedMapped joining gone => exact exits.owned (by rw [joining]; rfl)
    | synced syncing => exact exits.owned (by rw [syncing]; rfl)
    | abandons droppable => cases is
    | released abandoned owned => exact owned
  · intro is
    cases moves with
    | unshared was => exact exits.disconnected is
    | finalizes idle => cases is
    | unwraps unwrapping owned => cases is
    | refused sending closed => cases is
    | answered awaiting answer succeeds => cases is
    | senderDropped dropping => rfl
    | joined joining gone => exact exits.disconnected (by rw [joining]; rfl)
    | joinedMapped joining gone => exact exits.disconnected (by rw [joining]; rfl)
    | synced syncing => exact exits.disconnected (by rw [syncing]; rfl)
    | abandons droppable => cases is
    | released abandoned owned => rfl
  · intro is
    cases moves with
    | unshared was => exact exits.joined is
    | finalizes idle => cases is
    | unwraps unwrapping owned => cases is
    | refused sending closed => cases is
    | answered awaiting answer succeeds => cases is
    | senderDropped dropping => cases is
    | joined joining gone => exact gone
    | joinedMapped joining gone => exact gone
    | synced syncing => exact exits.joined (by rw [syncing]; rfl)
    | abandons droppable => cases is
    | released abandoned owned => cases is

section Workers

variable [DecidableEq Worker] {worker : Worker} {phase : WorkerPhase}

/-- A worker goes on. -/
theorem works (exits : queue.Exits) {commands : List Command} {closed : Bool}
    {reports : List Report} {executed : List (WriteReply × Chunk × Except IoError Unit)}
    (fewer : commands.length ≤ queue.commands.length)
    (closes : queue.closed = true → closed = true)
    (drains : phase.drains = true → closed = true)
    (exited : phase.exited = true → closed = true ∧ commands = [])
    (present : queue.workers worker ≠ .gone)
    : Exits ({ queue with commands, closed, reports, executed }.workerAt worker phase) := by
  have bounded := exits.bounded
  have emptied (empty : queue.commands = []) : commands = [] := by
    rw [empty] at fewer
    exact List.eq_nil_of_length_eq_zero (Nat.le_zero.mp fewer)
  constructor
  case positive => exact exits.positive
  case bounded => exact fewer.trans bounded
  case workerless => exact fun none => none.elim worker
  case drains =>
    intro other is
    by_cases here : other = worker
    · rw [here] at is
      simp only [workerAt, Function.update_self] at is
      exact drains is
    · simp only [workerAt, Function.update_of_ne here] at is
      exact closes (exits.drains other is)
  case exited =>
    intro other is
    by_cases here : other = worker
    · rw [here] at is
      simp only [workerAt, Function.update_self] at is
      exact exited is
    · simp only [workerAt, Function.update_of_ne here] at is
      obtain ⟨was, empty⟩ := exits.exited other is
      exact ⟨closes was, emptied empty⟩
  case owned => exact exits.owned
  case disconnected => exact fun is => closes (exits.disconnected is)
  case joined => exact fun is => absurd (exits.joined is worker) present

/-- Every step. -/
theorem next {event : QueueEvent Worker} (exits : queue.Exits)
    (moves : queue.Moves event after)
    : after.Exits := by
  have shares (shared : queue.shared = true) : ¬queue.Owned := by
    intro owned
    rw [owned.1] at shared
    cases shared
  have waits {index : Nat} {task : Chunk × CompletionGuard}
      (is : queue.tasks[index]? = some task)
      : ¬queue.Owned := by
    intro owned
    rw [owned.2.1] at is
    cases is
  have calls {index : Nat} {call : WriteCall} (is : queue.calls[index]? = some call)
      : ¬queue.Owned := by
    intro owned
    rw [owned.2.2] at is
    cases is
  cases moves with
  | submitted shared sent =>
      exact exits.pushes sent rfl rfl List.length_append rfl
        (fun is => absurd is (exits.not_owns (shares shared))) id id
  | spawned shared full =>
      exact exits.same rfl rfl rfl rfl rfl (fun owned => absurd owned (shares shared))
  | rejected shared full =>
      exact exits.same rfl rfl rfl rfl rfl (fun owned => absurd owned (shares shared))
  | refused shared closed completes =>
      exact exits.same rfl rfl rfl rfl rfl (fun owned => absurd owned (shares shared))
  | taskSent is sent =>
      exact exits.pushes sent rfl rfl List.length_append rfl
        (fun owns => absurd owns (exits.not_owns (waits is))) id id
  | taskRefused is closed completes =>
      exact exits.same rfl rfl rfl rfl rfl (fun owned => absurd owned (waits is))
  | taskDropped is =>
      exact exits.same rfl rfl rfl rfl rfl (fun owned => absurd owned (waits is))
  | called shared =>
      exact exits.same rfl rfl rfl rfl rfl (fun owned => absurd owned (shares shared))
  | callSent is unsent sent =>
      exact exits.pushes sent rfl rfl List.length_append rfl
        (fun owns => absurd owns (exits.not_owns (calls is))) id id
  | callRefused is unsent closed =>
      exact exits.same rfl rfl rfl rfl rfl (fun owned => absurd owned (calls is))
  | callReturned is sent answer succeeds =>
      exact exits.same rfl rfl rfl rfl rfl (fun owned => absurd owned (calls is))
  | callDropped is sent =>
      exact exits.same rfl rfl rfl rfl rfl (fun owned => absurd owned (calls is))
  | unsentDropped is unsent =>
      exact exits.same rfl rfl rfl rfl rfl (fun owned => absurd owned (calls is))
  | took receiving first =>
      exact exits.works (by rw [first]; exact Nat.le_succ _) id (fun never => by cases never)
        (fun never => by cases never) (by rw [receiving]; exact fun never => by cases never)
  | tookFinalize receiving first =>
      exact exits.works (by rw [first]; exact Nat.le_succ _) id (fun never => by cases never)
        (fun never => by cases never) (by rw [receiving]; exact fun never => by cases never)
  | ended receiving empty closed =>
      exact exits.works (Nat.le_refl _) id (fun never => by cases never)
        (fun never => by cases never) (by rw [receiving]; exact fun never => by cases never)
  | executed executing =>
      exact exits.works (Nat.le_refl _) id (fun never => by cases never)
        (fun never => by cases never) (by rw [executing]; exact fun never => by cases never)
  | panicked executing =>
      exact exits.works (Nat.le_refl _) id (fun never => by cases never)
        (fun never => by cases never) (by rw [executing]; exact fun never => by cases never)
  | replied replying completes =>
      exact exits.works (Nat.le_refl _) id (fun never => by cases never)
        (fun never => by cases never) (by rw [replying]; exact fun never => by cases never)
  | unwound unwinding =>
      exact exits.works (Nat.le_refl _) id (fun never => by cases never)
        (fun never => by cases never) (by rw [unwinding]; exact fun never => by cases never)
  | acknowledged acking =>
      exact exits.works (Nat.le_refl _) id (fun never => by cases never)
        (fun never => by cases never) (by rw [acking]; exact fun never => by cases never)
  | closes closing =>
      exact exits.works (Nat.le_refl _) (fun _ => rfl) (fun _ => rfl)
        (fun never => by cases never) (by rw [closing]; exact fun never => by cases never)
  | @drained worker command commands draining first =>
      have closed := exits.drains worker (by rw [draining]; rfl)
      exact exits.works (by rw [first]; exact Nat.le_succ _) id (fun _ => closed)
        (fun never => by cases never) (by rw [draining]; exact fun never => by cases never)
  | @emptied worker draining empty =>
      have closed := exits.drains worker (by rw [draining]; rfl)
      exact exits.works (Nat.le_refl _) id (fun never => by cases never)
        (fun _ => ⟨closed, empty⟩) (by rw [draining]; exact fun never => by cases never)
  | @commandDropped worker command dropping =>
      have closed := exits.drains worker (by rw [dropping]; rfl)
      exact exits.works (Nat.le_refl _) id (fun _ => closed)
        (fun never => by cases never) (by rw [dropping]; exact fun never => by cases never)
  | @left worker leaving =>
      have out := exits.exited worker (by rw [leaving]; rfl)
      exact exits.works (Nat.le_refl _) id (fun never => by cases never) (fun _ => out)
        (by rw [leaving]; exact fun never => by cases never)
  | finalizeSent sending sent =>
      have owned := exits.owned (by rw [sending]; rfl)
      exact exits.pushes sent rfl rfl List.length_append rfl (fun _ => owned)
        (fun never => by cases never) (fun never => by cases never)
  | owner moves => exact exits.owner moves

end Workers

end Exits

variable [Fintype Worker]

/-- With no command, task or call left, and every worker gone, every reply was told. -/
theorem Sound.told_of_empty (sound : queue.Sound) (commands : queue.commands = [])
    (tasks : queue.tasks = []) (calls : queue.calls = [])
    (hands : ∀ worker, (queue.workers worker).acks = [])
    {ack : CommandAck} (made : ack < queue.replies.length)
    : ack ∈ queue.reports.map Prod.fst := by
  refine sound.custody.told_of_unheld made ?_
  have idle : Custody.total (fun phase : WorkerPhase => phase.acks.count ack) queue.workers = 0 :=
    Custody.total_eq_zero.mpr (fun worker => by rw [hands worker]; rfl)
  simp only [held, commands, tasks, calls, Custody.counted_nil, idle]

variable [DecidableEq Worker]

/-- In every state reached, by induction on the run. -/
theorem exits_reachable (reached : (machine Worker).Reachable queue)
    : queue.Exits := by
  induction reached with
  | initial start =>
      obtain ⟨kind, path, room, _, positive, rfl⟩ := start
      exact .begins kind path positive
  | step _ step ih => exact ih.next (moves step.enabled step.next)

/-- The finalization is a barrier. The queue is never fuller than its room; the first worker to
leave leaves it closed and empty, so that nothing in it stays untold; and once `finalize`
returned, nothing else holds the writer, every worker has gone, and every write handed over
before was executed or reported as failed, once.
-/
theorem finalize_barrier (reached : (machine Worker).Reachable queue)
    : queue.commands.length ≤ queue.room
      ∧ (∀ worker,
          (queue.workers worker).exited = true → queue.closed = true ∧ queue.commands = [])
      ∧ ∀ result,
          queue.finalizer = .returned result
          → queue.Owned
            ∧ (∀ worker, queue.workers worker = .gone)
            ∧ queue.commands = []
            ∧ ∀ ack < queue.replies.length, ack ∈ queue.reports.map Prod.fst := by
  have sound := sound_reachable reached
  have exits := exits_reachable reached
  refine ⟨exits.bounded, exits.exited, fun result returned => ?_⟩
  have owned := exits.owned (by rw [returned]; rfl)
  have gone := exits.joined (by rw [returned]; rfl)
  have commands : queue.commands = [] := by
    by_cases none : IsEmpty Worker
    · exact (exits.workerless none).2
    · obtain ⟨worker⟩ := not_isEmpty_iff.mp none
      exact (exits.exited worker (by rw [gone worker]; rfl)).2
  refine ⟨owned, gone, commands, fun ack made => ?_⟩
  exact sound.told_of_empty commands owned.2.1 owned.2.2 (fun worker => by rw [gone worker]; rfl)
    made

/-- A write is still being executed when the finalize command is taken by another worker. -/
theorem finalize_barrier_returned
    : ∃ queue : WriterQueue Bool,
        queue.finalizer = .returned (.ok ())
        ∧ (∀ worker, queue.workers worker = .gone)
        ∧ queue.reports = [(1, .acked (.ok ())), (0, .completed ⟨⟨0, 1⟩, .ok ()⟩)]
        ∧ ∀ ack < queue.replies.length, ack ∈ queue.reports.map Prod.fst := by
  let exit (worker : Bool) : List (QueueEvent Bool) := List.replicate 3 (.work worker)
  let events : List (QueueEvent Bool) :=
    [.submit ⟨⟨0, 1⟩, [9]⟩ true, .work true, .unshare, .finalize, .finalizeStep (.ok ()),
      .finalizeStep (.ok ()), .work false, .acknowledge false (.ok ())]
      ++ exit false ++ [.finalizeStep (.ok ()), .finalizeStep (.ok ()),
        .execute true (some (.ok ())), .work true, .work true]
      ++ exit true ++ [.finalizeStep (.ok ()), .finalizeStep (.ok ())]
  have begins : (machine Bool).Reachable (built .pool "x" 1) :=
    .initial ⟨.pool, "x", 1, .pool, Nat.one_pos, rfl⟩
  have ran : ((machine Bool).execute (built .pool "x" 1) events).map
      (fun queue => (queue.finalizer, queue.reports))
      = some (.returned (.ok ()),
          [(1, .acked (.ok ())), (0, .completed ⟨⟨0, 1⟩, .ok ()⟩)]) := by
    rfl
  obtain ⟨queue, executed, result⟩ := Option.map_eq_some_iff.mp ran
  obtain ⟨returned, told⟩ := Prod.mk.inj result
  obtain ⟨_, gone, _, all⟩ :=
    (finalize_barrier (begins.execute events executed)).2.2 _ returned
  exact ⟨queue, returned, gone, told, all⟩

end WriterQueue

end BoltLoad
