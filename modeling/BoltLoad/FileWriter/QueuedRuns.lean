import BoltLoad.FileWriter.QueuedCoupling

/-! Every run of the pending writer with its backend. It is a run of the pending writer with the
completions the backend tells; and what the pending writer reported written, the backend
executed, once.
-/

namespace BoltLoad

-----------------------------------------------------------------------------------------
-- What was executed
-----------------------------------------------------------------------------------------

namespace WriterQueue

variable {Worker : Type} {queue : WriterQueue Worker}

/-- The write a reply was made for. -/
def writeOf (queue : WriterQueue Worker) (ack : CommandAck) : Option Chunk :=
  (queue.replies[ack]?).join

/-- The places of a list, by induction on it. -/
theorem filterMap_range_getElem? {Value : Type} (values : List (Option Value))
    : (List.range values.length).filterMap (fun place => (values[place]?).join)
      = values.filterMap id := by
  induction values with
  | nil => rfl
  | cons value values ih =>
      rw [List.length_cons, List.range_succ_eq_map, List.filterMap_cons, List.filterMap_map]
      have rest : (List.range values.length).filterMap
            ((fun place => ((value :: values)[place]?).join) ∘ Nat.succ)
          = values.filterMap id := by
        simpa only [Function.comp_def, Nat.succ_eq_add_one, List.getElem?_cons_succ] using ih
      rw [rest, List.filterMap_cons]
      rfl

variable [Fintype Worker]

/-- The replies of the executed writes are all apart. -/
theorem Agrees.executed_nodup (agrees : queue.Agrees) (sound : queue.Sound)
    : (queue.executed.flatMap executedAcks).Nodup := by
  refine List.nodup_iff_count_le_one.mpr (fun ack => ?_)
  rw [List.count_flatMap]
  exact agrees.executed_once sound ack

omit [Fintype Worker] in
/-- The writes of those replies are the executed ones. -/
theorem writes_executed
    (made : ∀ entry ∈ queue.executed, entry.1.For queue.replies entry.2.1)
    : (queue.executed.flatMap executedAcks).filterMap queue.writeOf
      = queue.executed.map (fun entry => entry.2.1) := by
  rw [List.filterMap_flatMap, List.map_eq_flatMap]
  refine List.flatMap_congr (fun entry inside => ?_)
  obtain ⟨ack, is, acks⟩ := (made entry inside).place
  rw [executedAcks, acks]
  simp only [writeOf, List.filterMap_cons, List.filterMap_nil, is, Option.join_some]

/-- Where every write was executed successfully, the executed ones are those handed over, once
each, and none of them failed.
-/
theorem Agrees.executed_all (agrees : queue.Agrees) (sound : queue.Sound)
    (written
      : ∀ ack chunk, queue.replies[ack]? = some (some chunk) → queue.Written ack)
    : (queue.executed.map (fun entry => entry.2.1)).Perm (queue.replies.filterMap id)
      ∧ ∀ entry ∈ queue.executed, entry.2.2 = .ok () := by
  have places
      : (queue.executed.flatMap executedAcks).Perm
          ((List.range queue.replies.length).filter (fun ack => (queue.writeOf ack).isSome)) := by
    refine (List.perm_ext_iff_of_nodup (agrees.executed_nodup sound)
      (List.nodup_range.filter _)).mpr (fun ack => ?_)
    rw [List.mem_flatMap, List.mem_filter, List.mem_range]
    constructor
    · rintro ⟨entry, inside, holds⟩
      obtain ⟨ack', is, acks⟩ := (agrees.made entry inside).place
      rw [executedAcks, acks, List.mem_singleton] at holds
      rw [holds]
      refine ⟨(List.getElem?_eq_some_iff.mp is).1, ?_⟩
      rw [writeOf, is]
      rfl
    · rintro ⟨_, made⟩
      obtain ⟨chunk, is⟩ := Option.isSome_iff_exists.mp made
      obtain ⟨chunk', reply, _, executed, acks⟩ := written ack chunk (Option.join_eq_some_iff.mp is)
      exact ⟨_, executed, acks⟩
  refine ⟨?_, fun entry inside => ?_⟩
  · have same := places.filterMap queue.writeOf
    rw [writes_executed agrees.made] at same
    refine same.trans (List.Perm.of_eq ?_)
    rw [List.filterMap_filter, ← filterMap_range_getElem?]
    refine List.filterMap_congr (fun ack _ => ?_)
    change (if (queue.writeOf ack).isSome = true then queue.writeOf ack else none)
      = queue.writeOf ack
    cases queue.writeOf ack <;> rfl
  · obtain ⟨ack, is, place⟩ := (agrees.made entry inside).place
    have holds : ack ∈ executedAcks entry := by
      rw [executedAcks, place]
      exact List.mem_singleton_self ack
    obtain ⟨chunk, reply, _, executed, acks⟩ := written ack _ is
    have one := Custody.counted_unique (agrees.executed_once sound ack) inside executed holds acks
    rw [one]

end WriterQueue

namespace QueuedWriter

variable {Worker : Type}

-----------------------------------------------------------------------------------------
-- Every run
-----------------------------------------------------------------------------------------

theorem immediate_eq_none {queue sent : WriterQueue Worker} (reports : sent.reports = queue.reports)
    : immediate queue sent = none := by
  rw [immediate, reports, List.drop_length]
  rfl

theorem immediate_eq_some {queue sent : WriterQueue Worker} {ack : CommandAck} {range : Range}
    {result : Except FileWriterError Unit}
    (reports : sent.reports = queue.reports ++ [(ack, .completed ⟨range, result⟩)])
    : immediate queue sent = some result := by
  rw [immediate, reports, List.drop_left]
  rfl

variable [Fintype Worker] [DecidableEq Worker] {state after : QueuedWriter Worker}

/-- The two are in states of their own machines, and agree. -/
structure Follows (state : QueuedWriter Worker) : Prop where
  run : WriterRun.machine.Reachable state.run
  queue : (WriterQueue.machine Worker).Reachable state.queue
  coupled : state.Coupled

/-- Every operation, with the write it dispatches. -/
theorem Follows.operate (follows : state.Follows) {operation : WriterOperation} {spawns : Bool}
    (enabled : state.Enabled (.operate operation spawns))
    : ∃ after, state.operate operation spawns = .ok after ∧ after.Follows := by
  obtain ⟨shared, enabled⟩ := enabled
  have runs := WriterRun.reachable_sound follows.run
  have sound := WriterQueue.sound_reachable follows.queue
  cases candidate : operation.chunk state.run.writer with
  | none =>
      obtain ⟨run, next, _⟩ := runs.next enabled
      refine ⟨{ state with run }, by simp only [QueuedWriter.operate, candidate, next]; rfl,
        follows.run.step ⟨enabled, next⟩, follows.queue, ?_⟩
      have operates := WriterRun.operates_next enabled next
      rw [candidate] at operates
      rcases operates.told_eq with ⟨dispatched, outstanding, told⟩ | ⟨chunk, never, _⟩
      · exact follows.coupled.quiet dispatched outstanding told
      · cases never
  | some chunk =>
      obtain ⟨sent, sends⟩ := sound.next_ok (.submit chunk spawns)
      have submits : (WriterQueue.machine Worker).Step state.queue (.submit chunk spawns) sent :=
        ⟨shared, sends⟩
      have moves : state.queue.Moves (.submit chunk spawns) sent :=
        WriterQueue.moves submits.enabled submits.next
      have direct := (moves.tells sound follows.coupled.direct
        (fun _ never => by cases never)).2
      have enabled' := WriterRun.enabled_event (immediate state.queue sent) enabled
      obtain ⟨run, next, _⟩ := runs.next enabled'
      have sends' : state.queue.dispatchDirect chunk spawns = .ok sent := sends
      have reached := follows.run.step ⟨enabled', next⟩
      have operates := WriterRun.operates_next enabled' next
      rw [candidate] at operates
      rcases operates.told_eq with
          ⟨dispatched, outstanding, told⟩ | ⟨other, same, dispatched, ends⟩
      · refine ⟨{ state with run }, ?_, reached, follows.queue,
          follows.coupled.quiet dispatched outstanding told⟩
        simp only [QueuedWriter.operate, candidate, sends', next, Checked.ok_bind, dispatched,
          if_true]
        rfl
      · cases same
        have queued := follows.queue.step submits
        have apart : run.writer.dispatched ≠ state.run.writer.dispatched := by
          rw [dispatched]
          exact fun never => by simpa using congrArg List.length never
        obtain ⟨replies, reports | ⟨result, reports⟩⟩ := moves.submits
        · have now := immediate_eq_none reports
          rcases ends with ⟨_, outstanding, told⟩ | ⟨result, some, _⟩
          · refine ⟨⟨run, sent, state.acks ++ [state.queue.nextAck]⟩, ?_, reached, queued,
              follows.coupled.holds sound direct replies reports dispatched outstanding told⟩
            simp only [QueuedWriter.operate, candidate, sends', Checked.ok_bind, next, if_neg apart]
            rw [now]
            rfl
          · cases now.symm.trans some
        · have now := immediate_eq_some reports
          rcases ends with ⟨none, _⟩ | ⟨result', some, outstanding, told⟩
          · cases none.symm.trans now
          · cases now.symm.trans some
            refine ⟨⟨run, sent, state.acks⟩, ?_, reached, queued,
              follows.coupled.ends sound direct replies reports dispatched outstanding told⟩
            simp only [QueuedWriter.operate, candidate, sends', Checked.ok_bind, next, if_neg apart]
            rw [now]
            rfl

/-- Every step of the backend, with what it tells. -/
theorem Follows.backend (follows : state.Follows) {event : QueueEvent Worker}
    (allowed : Allows state.run event) (enabled : state.queue.Enabled event)
    : ∃ after, state.next (.backend event) = .ok after ∧ after.Follows := by
  have sound := WriterQueue.sound_reachable follows.queue
  obtain ⟨queue, next⟩ := sound.next_ok event
  have moves := WriterQueue.moves enabled next
  have queued := follows.queue.step ⟨enabled, next⟩
  have silent : event.handsOver = false := by
    cases event with
    | submit chunk spawns => exact allowed.elim
    | writeRange chunk => exact allowed.elim
    | _ => rfl
  obtain ⟨tells, direct⟩ := moves.tells sound follows.coupled.direct
    (fun chunk same => by rw [same] at silent; cases silent)
  obtain ⟨more, replies, others⟩ := moves.makes silent
  have quiet {reports : List Report} (told : queue.reports = state.queue.reports ++ reports)
      (answers
        : ∀ report ∈ reports, brought report = none ∧ queue.replies[report.1]? = some none)
      : Follows { state with queue } :=
    ⟨follows.run, queued,
      follows.coupled.goes sound direct replies others told answers⟩
  cases tells with
  | silent reports =>
      refine ⟨{ state with queue }, ?_, quiet (reports.trans (List.append_nil _).symm)
        (fun _ never => by cases never)⟩
      simp only [QueuedWriter.next, next, Checked.ok_bind, reports, List.drop_length]
      rfl
  | @answers ack told reports untold made =>
      refine ⟨{ state with queue }, ?_, quiet reports ?_⟩
      · simp only [QueuedWriter.next, next, Checked.ok_bind, reports, List.drop_left, receive,
          untold]
      · intro report inside
        cases List.mem_singleton.mp inside
        exact ⟨untold, made⟩
  | @completes ack chunk completion reports made range =>
      obtain ⟨run, step, _, coupled⟩ := follows.coupled.receives sound
        (WriterQueue.sound_reachable queued) direct replies others reports made range
        (WriterRun.reachable_sound follows.run)
      refine ⟨⟨run, queue, state.acks.erase ack⟩, ?_, follows.run.step step, queued, coupled⟩
      have received : state.run.next (.complete (state.acks.idxOf ack) completion.result)
          = .ok run :=
        step.next
      simp only [QueuedWriter.next, next, Checked.ok_bind, reports, List.drop_left, receive,
        Told.completion, received]

/-- Every step. -/
theorem Follows.next (follows : state.Follows) {event : QueuedEvent Worker}
    (enabled : state.Enabled event)
    : ∃ after, state.next event = .ok after ∧ after.Follows :=
  match event with
  | .operate _ _ => follows.operate enabled
  | .backend _ => follows.backend enabled.1 enabled.2

/-- It starts with nothing handed over. -/
theorem Follows.begins {capacity : Nat} {queue : WriterQueue Worker}
    (built : (WriterQueue.machine Worker).Initial queue)
    : (⟨.new capacity, queue, []⟩ : QueuedWriter Worker).Follows := by
  refine ⟨.initial ⟨capacity, rfl⟩, .initial built, ?_⟩
  obtain ⟨kind, path, room, _, _, rfl⟩ := built
  exact {
    direct := ⟨rfl, fun _ never => (List.not_mem_nil never).elim, fun _ => rfl⟩
    made := rfl
    held := rfl
    apart := .nil
    untold := fun _ _ never => by cases never
    told := rfl
    completed := fun _ never => (List.not_mem_nil never).elim }

/-- In every run, by induction on it. -/
theorem follows_reachable (reached : (machine Worker).Reachable state) : state.Follows := by
  refine reached.invariant ?_ ?_
  · rintro _ ⟨capacity, queue, built, rfl⟩
    exact .begins built
  · intro before event after _ follows step
    obtain ⟨kept, next, keptFollows⟩ := follows.next step.enabled
    cases step.next.symm.trans next
    exact keptFollows

/-- What a completion says of its write. -/
theorem Follows.told (follows : state.Follows) {completion : WriteCompletion}
    (inside : completion ∈ state.run.told)
    : ∃ ack chunk,
        (ack, .completed completion) ∈ state.queue.reports
        ∧ state.queue.replies[ack]? = some (some chunk)
        ∧ completion.range = chunk.range
        ∧ (completion.result = .ok () ↔ state.queue.Written ack) := by
  rw [follows.coupled.told, List.mem_filterMap] at inside
  obtain ⟨⟨ack, told⟩, report, brings⟩ := inside
  cases told with
  | completed other =>
      cases brings
      obtain ⟨chunk, made⟩ := (follows.coupled.completed _ report).mpr ⟨_, rfl⟩
      exact ⟨ack, chunk, report, made, (WriterQueue.agrees_reachable follows.queue).completed
        (WriterQueue.sound_reachable follows.queue) report made⟩
  | acked result => cases brings
  | unacked => cases brings

/-- Once nothing is in flight and nothing reported failed, every write was executed. -/
theorem Follows.written (follows : state.Follows) (landed : state.run.writer.outstanding = [])
    (unfailed : ∀ completion ∈ state.run.told, completion.failed = false) {ack : CommandAck}
    {chunk : Chunk} (made : state.queue.replies[ack]? = some (some chunk))
    : state.queue.Written ack := by
  have coupled := follows.coupled
  have none : state.acks = [] := by
    have held := coupled.held
    rw [landed] at held
    exact List.map_eq_nil_iff.mp held
  have told : ack ∈ state.queue.reports.map Prod.fst := by
    by_contra untold
    have inside := (coupled.untold ack chunk made).mpr untold
    rw [none] at inside
    cases inside
  obtain ⟨report, inside, rfl⟩ := List.mem_map.mp told
  obtain ⟨completion, same⟩ := (coupled.completed report inside).mp ⟨chunk, made⟩
  have received : completion ∈ state.run.told := by
    rw [coupled.told]
    exact List.mem_filterMap.mpr ⟨report, inside, by rw [brought, same]; rfl⟩
  have ok : completion.result = .ok () := by
    have fine := unfailed completion received
    rw [WriteCompletion.failed] at fine
    cases result : completion.result with
    | ok value => rfl
    | error failure =>
        rw [result] at fine
        cases fine
  have is : (report.1, Told.completed completion) ∈ state.queue.reports := by
    rw [← same]
    exact inside
  exact (((WriterQueue.agrees_reachable follows.queue).completed
    (WriterQueue.sound_reachable follows.queue) is made).2).mp ok

/-- A pending writer over its backend is a pending writer over one that completes what it was
given, in some order: its states are those of its own runs, and the queue's of its. What the
backend has still to tell of is what is outstanding; what it told was received, in order; no
operation, worker or task panics; and a completion has the range of its write, and is `Ok`
exactly if that was executed successfully.
-/
theorem completions_received (reached : (machine Worker).Reachable state)
    : WriterRun.machine.Reachable state.run
      ∧ (WriterQueue.machine Worker).Reachable state.queue
      ∧ state.queue.replies.filterMap id = state.run.writer.dispatched
      ∧ state.acks.map (fun ack => state.queue.replies[ack]?)
        = state.run.writer.outstanding.map (fun chunk => some (some chunk))
      ∧ (∀ ack chunk,
          state.queue.replies[ack]? = some (some chunk)
          → (ack ∈ state.acks ↔ ack ∉ state.queue.reports.map Prod.fst))
      ∧ state.run.told = state.queue.reports.filterMap brought
      ∧ (∀ event, state.Enabled event → ∃ after, state.next event = .ok after)
      ∧ ∀ completion ∈ state.run.told,
          ∃ ack chunk,
            (ack, .completed completion) ∈ state.queue.reports
            ∧ state.queue.replies[ack]? = some (some chunk)
            ∧ completion.range = chunk.range
            ∧ (completion.result = .ok () ↔ state.queue.Written ack) := by
  have follows := follows_reachable reached
  refine ⟨follows.run, follows.queue, follows.coupled.made, follows.coupled.held,
    follows.coupled.untold, follows.coupled.told, fun event enabled => ?_,
    fun completion inside => follows.told inside⟩
  obtain ⟨after, next, _⟩ := follows.next enabled
  exact ⟨after, next⟩

/-- A worker panics over one write and leaves; the next is refused by the closed queue. -/
theorem completions_received_panicked
    : ∃ state : QueuedWriter Bool,
        state.run.told.map WriteCompletion.failed = [true, true]
        ∧ state.run.told = state.queue.reports.filterMap brought
        ∧ ∀ completion ∈ state.run.told,
            ∃ ack chunk,
              (ack, .completed completion) ∈ state.queue.reports
              ∧ state.queue.replies[ack]? = some (some chunk)
              ∧ completion.range = chunk.range
              ∧ (completion.result = .ok () ↔ state.queue.Written ack) := by
  let events : List (QueuedEvent Bool) :=
    [.operate (.writeRange ⟨0, 1⟩ [9]) true, .backend (.work true),
      .backend (.execute true none), .backend (.work true), .backend (.work true),
      .operate (.writeRange ⟨1, 2⟩ [8]) true]
  have begins : (machine Bool).Reachable ⟨.new 2, .built .pool "x" 1, []⟩ :=
    .initial ⟨2, _, ⟨.pool, "x", 1, .pool, Nat.one_pos, rfl⟩, rfl⟩
  have ran : ((machine Bool).execute ⟨.new 2, .built .pool "x" 1, []⟩ events).map
        (fun state => state.run.told.map WriteCompletion.failed)
      = some [true, true] := by
    rfl
  obtain ⟨state, executed, failed⟩ := Option.map_eq_some_iff.mp ran
  obtain ⟨_, _, _, _, _, told, _, said⟩ := completions_received (begins.execute events executed)
  exact ⟨state, failed, told, said⟩

/-- A `finish` that returned, with no failure reported, leaves every accepted write executed:
the writes the workers executed are the accepted ones, once each, and every one succeeded.
-/
theorem finished_executed (reached : (machine Worker).Reachable state)
    (finished : state.run.call = .finished)
    (unfailed : ∀ completion ∈ state.run.reported, completion.failed = false)
    : (state.queue.executed.map (fun entry => entry.2.1)).Perm state.run.accepted
      ∧ ∀ entry ∈ state.queue.executed, entry.2.2 = .ok () := by
  have follows := follows_reachable reached
  have runs := WriterRun.reachable_sound follows.run
  obtain ⟨completions, landed, buffered⟩ := runs.writer.idle (runs.ended finished)
  have taken : state.run.taken = [] := by
    simp only [WriterRun.taken, finished]
  have told : state.run.told = state.run.reported := by
    rw [WriterRun.told, taken, completions, List.append_nil, List.append_nil]
  have errors := runs.writer.errors
  rw [taken, List.append_nil] at errors
  have fine : state.run.writer.sawError = false := by
    rw [errors]
    exact List.any_eq_false.mpr (fun completion inside => by rw [unfailed completion inside]; simp)
  have handed := runs.writer.handed
  rw [buffered fine, Option.map_none, Option.toList_none, List.append_nil] at handed
  obtain ⟨same, succeeded⟩ := (WriterQueue.agrees_reachable follows.queue).executed_all
    (WriterQueue.sound_reachable follows.queue)
    (fun ack chunk made => follows.written landed (told ▸ unfailed) made)
  refine ⟨same.trans ?_, succeeded⟩
  rw [follows.coupled.made]
  exact handed.symm

/-- Two writes through one slot: the second is buffered behind the first, and flushed. -/
theorem finished_executed_buffered
    : ∃ state : QueuedWriter Bool,
        state.run.accepted = [⟨⟨0, 1⟩, [9]⟩, ⟨⟨1, 2⟩, [8]⟩]
        ∧ (state.queue.executed.map (fun entry => entry.2.1)).Perm state.run.accepted := by
  let events : List (QueuedEvent Bool) :=
    [.operate (.writeRange ⟨0, 1⟩ [9]) true, .operate (.writeRange ⟨1, 2⟩ [8]) true,
      .backend (.work true), .backend (.execute true (some (.ok ()))), .backend (.work true),
      .operate .pollCompletions true, .operate (.flush true) true, .backend (.work false),
      .backend (.execute false (some (.ok ()))), .backend (.work false),
      .operate .flushStep true, .operate .flushStep true]
  have begins : (machine Bool).Reachable ⟨.new 1, .built .pool "x" 1, []⟩ :=
    .initial ⟨1, _, ⟨.pool, "x", 1, .pool, Nat.one_pos, rfl⟩, rfl⟩
  have ran : ((machine Bool).execute ⟨.new 1, .built .pool "x" 1, []⟩ events).map
        (fun state => (state.run.call, state.run.reported, state.run.accepted))
      = some (.finished, [⟨⟨0, 1⟩, .ok ()⟩, ⟨⟨1, 2⟩, .ok ()⟩],
          [⟨⟨0, 1⟩, [9]⟩, ⟨⟨1, 2⟩, [8]⟩]) := by
    rfl
  obtain ⟨state, executed, seen⟩ := Option.map_eq_some_iff.mp ran
  obtain ⟨finished, seen⟩ := Prod.mk.inj seen
  obtain ⟨reported, accepted⟩ := Prod.mk.inj seen
  refine ⟨state, accepted, (finished_executed (begins.execute events executed) finished ?_).1⟩
  rw [reported]
  decide

end QueuedWriter

end BoltLoad
