import BoltLoad.FileWriter.PendingWriter

/-! The accounting of writes. Every accepted write is buffered or was dispatched; every
dispatched one is with the backend, in the completion channel, or reported; and the writes in
flight are those of the first two kinds. So a buffered write always waits behind one in flight.
-/

namespace BoltLoad

namespace PendingWriter

/-- The balance of a writer that accepted and reported these writes. -/
structure Balanced (writer : PendingWriter) (accepted : List Chunk)
    (reported : List WriteCompletion)
    : Prop where
  positive : 0 < writer.capacity
  flying : writer.inFlight = writer.completions.length + writer.outstanding.length
  bounded : writer.inFlight ≤ writer.capacity
  handed
    : accepted.Perm (writer.dispatched ++ (writer.pendingWrite.map PendingWrite.chunk).toList)
  completes
    : (writer.dispatched.map Chunk.range).Perm
        ((reported ++ writer.completions).map WriteCompletion.range
          ++ writer.outstanding.map Chunk.range)
  errors : writer.sawError = completionsHaveError reported

/-- Between operations, a buffered write also waits for a full window, unless a write failed. -/
structure Sound (writer : PendingWriter) (accepted : List Chunk)
    (reported : List WriteCompletion)
    : Prop extends writer.Balanced accepted reported where
  waits
    : writer.pendingWrite.isSome = true
      → writer.sawError = false
      → writer.inFlight = writer.capacity

variable {writer after : PendingWriter} {accepted : List Chunk} {reported : List WriteCompletion}
variable {chunk : Chunk}

theorem Sound.new (capacity : Nat) : (PendingWriter.new capacity).Sound [] [] where
  positive := Nat.lt_of_lt_of_le Nat.zero_lt_one (Nat.le_max_right _ _)
  flying := rfl
  bounded := Nat.zero_le _
  waits buffered := by cases buffered
  handed := .nil
  completes := .nil
  errors := rfl

@[simp] theorem completionsHaveError_append (first second : List WriteCompletion)
    : completionsHaveError (first ++ second)
      = (completionsHaveError first || completionsHaveError second) :=
  List.any_append

theorem isFull_eq_false_iff : writer.isFull = false ↔ writer.inFlight < writer.capacity := by
  simp [isFull]

/-- The order in which the writes were accepted does not matter. -/
theorem Balanced.of_perm (balanced : writer.Balanced accepted reported) {others : List Chunk}
    (same : others.Perm accepted)
    : writer.Balanced others reported :=
  ⟨balanced.positive, balanced.flying, balanced.bounded, same.trans balanced.handed,
    balanced.completes, balanced.errors⟩

-----------------------------------------------------------------------------------------
-- Dispatching
-----------------------------------------------------------------------------------------

/-- A completion of a write in flight finds room in the channel. -/
theorem publish_eq {completion : WriteCompletion}
    (room : writer.completions.length < writer.capacity + 1)
    : writer.publish completion
      = .ok { writer with completions := writer.completions ++ [completion] } :=
  if_pos room

/-- What a dispatch leaves: the write is with the backend or already completed. -/
structure Dispatches (writer after : PendingWriter) (chunk : Chunk) : Prop where
  capacity : after.capacity = writer.capacity
  inFlight : after.inFlight = writer.inFlight + 1
  pendingWrite : after.pendingWrite = writer.pendingWrite
  sawError : after.sawError = writer.sawError
  dispatched : after.dispatched = writer.dispatched ++ [chunk]
  held
    : (∃ result, after.completions = writer.completions ++ [⟨chunk.range, result⟩]
        ∧ after.outstanding = writer.outstanding)
      ∨ after.completions = writer.completions
        ∧ after.outstanding = writer.outstanding ++ [chunk]

/-- A dispatch never finds the channel full. -/
theorem dispatchWrite_cases (chunk : Chunk) (immediate : Immediate)
    (room : writer.completions.length < writer.capacity + 1)
    : ∃ after, writer.dispatchWrite chunk immediate = .ok after
        ∧ writer.Dispatches after chunk := by
  cases immediate with
  | none => exact ⟨_, rfl, rfl, rfl, rfl, rfl, rfl, Or.inr ⟨rfl, rfl⟩⟩
  | some result =>
      refine ⟨_, publish_eq room, rfl, rfl, rfl, rfl, rfl, Or.inl ⟨result, rfl, rfl⟩⟩

/-- Dispatching a further accepted write into a free slot keeps the balance. -/
theorem Balanced.dispatch (balanced : writer.Balanced accepted reported)
    (free : writer.inFlight < writer.capacity) (dispatches : writer.Dispatches after chunk)
    : after.Balanced (accepted ++ [chunk]) reported := by
  obtain ⟨capacity, inFlight, pendingWrite, sawError, dispatched, held⟩ := dispatches
  have flying := balanced.flying
  refine ⟨capacity ▸ balanced.positive, ?_, ?_, ?_, ?_, sawError ▸ balanced.errors⟩
  · rcases held with ⟨result, completions, outstanding⟩ | ⟨completions, outstanding⟩ <;>
      · rw [inFlight, completions, outstanding, List.length_append, List.length_singleton]
        omega
  · rw [inFlight, capacity]
    exact free
  · rw [dispatched, pendingWrite]
    have swapped
        : (writer.dispatched ++ (writer.pendingWrite.map PendingWrite.chunk).toList
            ++ [chunk]).Perm
            (writer.dispatched ++ [chunk]
              ++ (writer.pendingWrite.map PendingWrite.chunk).toList) := by
      simp only [List.append_assoc]
      exact List.Perm.append_left _ List.perm_append_comm
    exact (balanced.handed.append_right _).trans swapped
  · rw [dispatched, List.map_append]
    have before := balanced.completes.append_right [chunk.range]
    rcases held with ⟨result, completions, outstanding⟩ | ⟨completions, outstanding⟩
    · rw [completions, outstanding]
      refine before.trans ?_
      simp only [List.map_append, List.map_cons, List.map_nil, List.append_assoc]
      exact List.Perm.append_left _ (List.Perm.append_left _ List.perm_append_comm)
    · rw [completions, outstanding]
      simp only [List.map_append, List.append_assoc] at before ⊢
      exact before

/-- The write the backend completes moves into the channel, which has room for it. -/
theorem Sound.complete (sound : writer.Sound accepted reported) {index : Nat}
    (held : index < writer.outstanding.length) (result : Except FileWriterError Unit)
    : ∃ after, writer.complete index result = .ok after
        ∧ after.Sound accepted reported
        ∧ after.inFlight = writer.inFlight
        ∧ after.pendingWrite = writer.pendingWrite := by
  have flying := sound.flying
  have bounded := sound.bounded
  have room : writer.completions.length < writer.capacity + 1 := by omega
  have moves
      : writer.complete index result
        = .ok
            { writer with
              outstanding := writer.outstanding.eraseIdx index
              completions :=
                writer.completions ++ [⟨writer.outstanding[index].range, result⟩] } := by
    simp only [PendingWriter.complete, List.getElem?_eq_getElem held]
    exact publish_eq room
  refine ⟨_, moves, ⟨⟨sound.positive, ?_, sound.bounded, sound.handed, ?_, sound.errors⟩,
    sound.waits⟩, rfl, rfl⟩
  · simp only [List.length_append, List.length_singleton, List.length_eraseIdx_of_lt held]
    omega
  · have moved := (List.getElem_cons_eraseIdx_perm held).map Chunk.range
    refine (sound.completes.trans (List.Perm.append_left _ moved.symm)).trans ?_
    simp only [List.map_append, List.map_cons, List.map_nil, List.append_assoc,
      List.cons_append, List.nil_append]
    exact .rfl

-----------------------------------------------------------------------------------------
-- Settling
-----------------------------------------------------------------------------------------

/-- A free slot goes to the buffered write, if there is one. -/
theorem Balanced.tryFlushPending (balanced : writer.Balanced accepted reported)
    (immediate : Immediate)
    : ∃ after, writer.tryFlushPending immediate = .ok after
        ∧ after.Balanced accepted reported
        ∧ (after.pendingWrite.isSome = true → after.inFlight = after.capacity)
        ∧ after.capacity = writer.capacity
        ∧ after.sawError = writer.sawError := by
  have flying := balanced.flying
  have bounded := balanced.bounded
  cases full : writer.isFull with
  | true =>
      refine ⟨writer, by simp only [PendingWriter.tryFlushPending, full, if_true], balanced, ?_,
        rfl, rfl⟩
      intro buffered
      have least : writer.capacity ≤ writer.inFlight := of_decide_eq_true full
      omega
  | false =>
      have free := isFull_eq_false_iff.mp full
      simp only [PendingWriter.tryFlushPending, full, Bool.false_eq_true, if_false]
      cases buffered : writer.pendingWrite with
      | none =>
          refine ⟨writer, rfl, balanced, ?_, rfl, rfl⟩
          intro never
          rw [buffered] at never
          cases never
      | some write =>
          -- Without it, the dispatched writes are the accepted ones.
          have emptied
              : Balanced { writer with pendingWrite := none } writer.dispatched reported := by
            refine ⟨balanced.positive, balanced.flying, balanced.bounded, ?_,
              balanced.completes, balanced.errors⟩
            simp
          obtain ⟨after, dispatched, dispatches⟩ :=
            dispatchWrite_cases write.chunk immediate
              (show ({ writer with pendingWrite := none } : PendingWriter).completions.length
                < ({ writer with pendingWrite := none } : PendingWriter).capacity + 1 by
                simp only
                omega)
          have handed := balanced.handed
          rw [buffered] at handed
          refine ⟨after, dispatched, (emptied.dispatch free dispatches).of_perm handed, ?_,
            dispatches.capacity, dispatches.sawError⟩
          intro never
          rw [dispatches.pendingWrite] at never
          cases never

/-- Taking the completions of the channel reports them, and frees their slots. -/
theorem Sound.tryTick (sound : writer.Sound accepted reported) (immediate : Immediate)
    : ∃ after, writer.tryTick immediate = .ok (writer.completions, after)
        ∧ after.Sound accepted (reported ++ writer.completions)
        ∧ after.capacity = writer.capacity := by
  have flying := sound.flying
  have bounded := sound.bounded
  have positive := sound.positive
  have count : writer.completions.length ≤ writer.inFlight := by omega
  let acked : PendingWriter :=
    { writer with
      completions := []
      inFlight := writer.inFlight - writer.completions.length
      sawError := writer.sawError || completionsHaveError writer.completions }
  have balanced : acked.Balanced accepted (reported ++ writer.completions) := by
    refine ⟨sound.positive, ?_, ?_, sound.handed, ?_, ?_⟩
    · simp only [acked, List.length_nil]
      omega
    · simp only [acked]
      omega
    · simp only [acked, List.append_nil]
      exact sound.completes
    · simp only [acked, completionsHaveError_append, sound.errors]
  have ticks
      : writer.tryTick immediate
        = (do
          let flushed ← (if acked.sawError then .ok acked else acked.tryFlushPending immediate)
          let settled ← flushed.assertBehind
          pure (writer.completions, settled)) := by
    simp only [PendingWriter.tryTick, settle, ackCompletions, count, if_true,
      Checked.expect_some, Checked.ok_bind, pure_bind, bind_assoc]
    rfl
  rw [ticks]
  cases failed : acked.sawError with
  | true =>
      have behind : acked.assertBehind = .ok acked := if_pos (by simp [failed])
      refine ⟨acked, ?_, ⟨balanced, ?_⟩, rfl⟩
      · rw [if_pos rfl, Checked.ok_bind, behind]
        rfl
      · intro _ never
        rw [failed] at never
        cases never
  | false =>
      obtain ⟨after, flushes, settled, waits, capacity, -⟩ := balanced.tryFlushPending immediate
      have behind : after.assertBehind = .ok after := by
        refine if_pos ?_
        cases buffered : after.pendingWrite with
        | none => rfl
        | some write =>
            have full := waits (by rw [buffered]; rfl)
            have some := settled.positive
            have flies : 0 < after.inFlight := by omega
            simp [flies]
      refine ⟨after, ?_, ⟨settled, fun buffered _ => waits buffered⟩, capacity⟩
      rw [if_neg Bool.false_ne_true, flushes, Checked.ok_bind, behind]
      rfl

theorem Sound.pollCompletions (sound : writer.Sound accepted reported) (immediate : Immediate)
    : ∃ polled after, writer.pollCompletions immediate = .ok (polled, after)
        ∧ after.Sound accepted (reported ++ polled.getD [])
        ∧ (polled = none → after = writer ∧ (writer.inFlight = 0 ∨ writer.completions = [])) := by
  by_cases idle : writer.inFlight = 0
  · refine ⟨none, writer, if_pos idle, ?_, fun _ => ⟨rfl, Or.inl idle⟩⟩
    simpa using sound
  · cases found : writer.completions with
    | nil =>
        refine ⟨none, writer, ?_, ?_, fun _ => ⟨rfl, Or.inr rfl⟩⟩
        · simp only [PendingWriter.pollCompletions, idle, found, List.isEmpty_nil, if_true, if_false]
          rfl
        · simpa using sound
    | cons first rest =>
        obtain ⟨after, ticks, afterSound, -⟩ := sound.tryTick immediate
        refine ⟨some writer.completions, after, ?_, afterSound, fun never => by cases never⟩
        have some : writer.completions.isEmpty = false := by rw [found]; rfl
        simp only [PendingWriter.pollCompletions, idle, some, Bool.false_eq_true, if_false, ticks,
          Checked.ok_bind]
        rfl

/-- A write is accepted exactly when `canWrite` says so, and then accounted for. -/
theorem Sound.writeRange (sound : writer.Sound accepted reported) (range : Range) (data : Bytes)
    (immediate : Immediate)
    : ∃ result after, writer.writeRange range data immediate = .ok (result, after)
        ∧ ((∃ status, result = .ok status) ↔ writer.canWrite = true)
        ∧ (writer.canWrite = true → after.Sound (accepted ++ [⟨range, data⟩]) reported)
        ∧ (writer.canWrite = false → after = writer) := by
  have flying := sound.flying
  have bounded := sound.bounded
  cases full : writer.isFull with
  | false =>
      have free := isFull_eq_false_iff.mp full
      obtain ⟨after, dispatched, dispatches⟩ :=
        dispatchWrite_cases ⟨range, data⟩ immediate
          (show writer.completions.length < writer.capacity + 1 by omega)
      have can : writer.canWrite = true := by simp [canWrite, full]
      refine ⟨.ok .dispatched, after, ?_, iff_of_true ⟨_, rfl⟩ can, fun _ => ⟨?_, ?_⟩, ?_⟩
      · simp only [PendingWriter.writeRange, full, Bool.not_false, if_true, dispatched,
          Checked.ok_bind]
        rfl
      · exact sound.dispatch free dispatches
      · intro buffered unfailed
        rw [dispatches.pendingWrite] at buffered
        rw [dispatches.sawError] at unfailed
        have never := sound.waits buffered unfailed
        omega
      · intro never
        rw [can] at never
        cases never
  | true =>
      have least : writer.capacity ≤ writer.inFlight := of_decide_eq_true full
      cases buffered : writer.pendingWrite with
      | none =>
          have can : writer.canWrite = true := by simp [canWrite, hasPendingWrite, buffered]
          refine ⟨.ok .pending, { writer with pendingWrite := some ⟨range, data⟩ }, ?_,
            iff_of_true ⟨_, rfl⟩ can, fun _ => ⟨⟨sound.positive, sound.flying, bounded, ?_,
              sound.completes, sound.errors⟩, ?_⟩, ?_⟩
          · simp only [PendingWriter.writeRange, full, buffered, Bool.not_true,
              Bool.false_eq_true, if_false, Option.isNone_none, if_true]
            rfl
          · have handed := sound.handed
            simp only [buffered, Option.map_none, Option.toList_none, List.append_nil] at handed
            exact handed.append_right _
          · intro _ _
            exact le_antisymm bounded least
          · intro never
            rw [can] at never
            cases never
      | some write =>
          have cannot : writer.canWrite = false := by
            simp [canWrite, hasPendingWrite, buffered, full]
          refine ⟨.error ⟨⟨range, data⟩⟩, writer, ?_, ?_, ?_, fun _ => rfl⟩
          · simp only [PendingWriter.writeRange, full, buffered, Bool.not_true,
              Bool.false_eq_true, if_false, Option.isNone_some]
            rfl
          · refine iff_of_false ?_ ?_
            · rintro ⟨status, never⟩
              cases never
            · rw [cannot]
              exact Bool.false_ne_true
          · intro never
            rw [cannot] at never
            cases never

/-- Nothing is in flight or in the channel at the end of a flush, and nothing buffered unless a
write failed.
-/
theorem Sound.idle (sound : writer.Sound accepted reported) (idle : writer.inFlight = 0)
    : writer.completions = []
      ∧ writer.outstanding = []
      ∧ (writer.sawError = false → writer.pendingWrite = none) := by
  have flying := sound.flying
  refine ⟨List.eq_nil_of_length_eq_zero (by omega), List.eq_nil_of_length_eq_zero (by omega), ?_⟩
  intro unfailed
  by_contra buffered
  have full := sound.waits (Option.isSome_iff_ne_none.mpr buffered) unfailed
  have positive := sound.positive
  omega

end PendingWriter

-----------------------------------------------------------------------------------------
-- Runs
-----------------------------------------------------------------------------------------

/-- The operation under way; a flush holds the writer until it returns. -/
inductive WriterCall
  | idle
  /-- A `flush`, or a `finish` that consumes the writer, with what it took so far. -/
  | flushing (finish : Bool) (completions : List WriteCompletion)
  | finished
  deriving DecidableEq

/-- A writer with the writes it accepted and the completions its operations returned. -/
structure WriterRun where
  writer : PendingWriter
  call : WriterCall
  accepted : List Chunk
  reported : List WriteCompletion

inductive WriterEvent
  | writeRange (range : Range) (data : Bytes) (immediate : Immediate)
  | tryTick (immediate : Immediate)
  | pollCompletions (immediate : Immediate)
  | flush (finish : Bool) (immediate : Immediate)
  /-- The flush under way is polled. -/
  | flushStep (immediate : Immediate)
  /-- The backend completes the write at `index` of those it holds. -/
  | complete (index : Nat) (result : Except FileWriterError Unit)

namespace WriterRun

def new (capacity : Nat) : WriterRun where
  writer := .new capacity
  call := .idle
  accepted := []
  reported := []

/-- What the flush under way took, but has not returned yet. -/
def taken (run : WriterRun) : List WriteCompletion :=
  match run.call with
  | .flushing _ completions => completions
  | _ => []

/-- No operation is called while a flush holds the writer, or after `finish`. -/
def Enabled (run : WriterRun) : WriterEvent → Prop
  | .flushStep _ => ∃ finish completions, run.call = .flushing finish completions
  | .complete index _ => index < run.writer.outstanding.length
  | _ => run.call = .idle

instance (run : WriterRun) : (event : WriterEvent) → Decidable (run.Enabled event)
  | .flushStep _ =>
    match same : run.call with
    | .flushing finish completions => .isTrue ⟨finish, completions, same⟩
    | .idle => .isFalse (fun ⟨_, _, never⟩ => by cases same.symm.trans never)
    | .finished => .isFalse (fun ⟨_, _, never⟩ => by cases same.symm.trans never)
  | .complete _ _ => inferInstanceAs (Decidable (_ < _))
  | .writeRange _ _ _ => inferInstanceAs (Decidable (_ = _))
  | .tryTick _ => inferInstanceAs (Decidable (_ = _))
  | .pollCompletions _ => inferInstanceAs (Decidable (_ = _))
  | .flush _ _ => inferInstanceAs (Decidable (_ = _))

/-- `flush` starts with what is already available. -/
def startFlush (run : WriterRun) (finish : Bool) (immediate : Immediate) : Checked WriterRun := do
  let (completions, writer) ← run.writer.tryTick immediate
  pure { run with writer, call := .flushing finish completions }

/-- A turn of the flush, which returns once nothing is in flight. -/
def continueFlush (run : WriterRun) (finish : Bool) (completions : List WriteCompletion)
    (immediate : Immediate)
    : Checked WriterRun := do
  let (polled, writer) ← run.writer.flushStep immediate
  match polled with
  | some batch => pure { run with writer, call := .flushing finish (completions ++ batch) }
  | none =>
    pure { run with
      writer
      call := if finish then .finished else .idle
      reported := run.reported ++ completions }

def next (run : WriterRun) : WriterEvent → Checked WriterRun
  | .writeRange range data immediate => do
    let (result, writer) ← run.writer.writeRange range data immediate
    pure { run with
      writer
      accepted :=
        match result with
        | .ok _ => run.accepted ++ [⟨range, data⟩]
        | .error _ => run.accepted }
  | .tryTick immediate => do
    let (completions, writer) ← run.writer.tryTick immediate
    pure { run with writer, reported := run.reported ++ completions }
  | .pollCompletions immediate => do
    let (polled, writer) ← run.writer.pollCompletions immediate
    pure { run with writer, reported := run.reported ++ polled.getD [] }
  | .flush finish immediate => run.startFlush finish immediate
  | .flushStep immediate =>
    match run.call with
    | .flushing finish completions => run.continueFlush finish completions immediate
    | _ => .ok run
  | .complete index result => do
    let writer ← run.writer.complete index result
    pure { run with writer }

def machine : Machine WriterRun WriterEvent Panic where
  Initial run := ∃ capacity, run = .new capacity
  Enabled := Enabled
  next := next

instance (run : WriterRun) (event : WriterEvent) : Decidable (machine.Enabled run event) :=
  inferInstanceAs (Decidable (run.Enabled event))

/-- What every state of a run keeps to. -/
structure Sound (run : WriterRun) : Prop where
  writer : run.writer.Sound run.accepted (run.reported ++ run.taken)
  ended : run.call = .finished → run.writer.inFlight = 0

variable {run : WriterRun}

/-- Every operation, and every completion, keeps the accounts and does not panic. -/
theorem Sound.next (sound : run.Sound) {event : WriterEvent} (enabled : run.Enabled event)
    : ∃ after, run.next event = .ok after ∧ after.Sound := by
  have idle (same : run.call = .idle) : run.taken = [] := by
    simp [taken, same]
  cases event with
  | writeRange range data immediate =>
      have none := idle enabled
      obtain ⟨result, after, writes, accepts, can, cannot⟩ :=
        sound.writer.writeRange range data immediate
      refine ⟨_, by simp only [WriterRun.next, writes]; rfl, ?_, ?_⟩
      · cases result with
        | ok status => exact can (accepts.mp ⟨status, rfl⟩)
        | error full =>
            have refused : run.writer.canWrite = false := by
              by_contra never
              obtain ⟨_, contradiction⟩ := accepts.mpr (by simpa using never)
              cases contradiction
            rw [cannot refused]
            exact sound.writer
      · intro never
        cases never.symm.trans enabled
  | tryTick immediate =>
      have none := idle enabled
      obtain ⟨after, ticks, afterSound, -⟩ := sound.writer.tryTick immediate
      refine ⟨_, by simp only [WriterRun.next, ticks]; rfl, ?_, ?_⟩
      · simp only [none, List.append_nil] at afterSound
        simpa [taken, show run.call = .idle from enabled] using afterSound
      · intro never
        cases never.symm.trans enabled
  | pollCompletions immediate =>
      have none := idle enabled
      obtain ⟨polled, after, polls, afterSound, -⟩ := sound.writer.pollCompletions immediate
      refine ⟨_, by simp only [WriterRun.next, polls]; rfl, ?_, ?_⟩
      · simp only [none, List.append_nil] at afterSound
        simpa [taken, show run.call = .idle from enabled] using afterSound
      · intro never
        cases never.symm.trans enabled
  | flush finish immediate =>
      have none := idle enabled
      obtain ⟨after, ticks, afterSound, -⟩ := sound.writer.tryTick immediate
      refine ⟨_, by simp only [WriterRun.next, startFlush, ticks]; rfl, ?_, ?_⟩
      · simp only [none, List.append_nil] at afterSound
        exact afterSound
      · intro never
        cases never
  | flushStep immediate =>
      obtain ⟨finish, completions, flushing⟩ := enabled
      have writer := sound.writer
      simp only [taken, flushing] at writer
      simp only [WriterRun.next, flushing]
      by_cases flying : run.writer.inFlight > 0
      · obtain ⟨polled, after, polls, afterSound, -⟩ := writer.pollCompletions immediate
        have steps
            : run.writer.flushStep immediate = .ok (some (polled.getD []), after) := by
          simp only [PendingWriter.flushStep, flying, if_true, polls]
          rfl
        refine ⟨_, by simp only [continueFlush, steps]; rfl, ?_, ?_⟩
        · rw [List.append_assoc] at afterSound
          exact afterSound
        · intro never
          cases never
      · have steps : run.writer.flushStep immediate = .ok (none, run.writer) := if_neg flying
        refine ⟨_, by simp only [continueFlush, steps]; rfl, ?_, ?_⟩
        · cases finish <;> simpa [taken] using writer
        · intro _
          exact Nat.eq_zero_of_not_pos flying
  | complete index result =>
      obtain ⟨after, completes, afterSound, inFlight, -⟩ := sound.writer.complete enabled result
      refine ⟨_, by simp only [WriterRun.next, completes]; rfl, afterSound, ?_⟩
      intro finished
      rw [inFlight]
      exact sound.ended finished

/-- In every run the accounts are kept, by induction on the run. -/
theorem reachable_sound (reached : machine.Reachable run) : run.Sound := by
  refine reached.invariant ?_ ?_
  · rintro start ⟨capacity, same⟩
    subst same
    exact ⟨.new capacity, fun never => by cases never⟩
  · intro before event after _ sound step
    obtain ⟨kept, next, keptSound⟩ := sound.next step.enabled
    cases step.next.symm.trans next
    exact keptSound

/-- In every state of every run the writes in flight are those dispatched and not reported,
within the capacity and the channel; a buffered write waits behind a full window unless a write
failed; no operation or completion panics, and `canWrite` is when a write is accepted; and every
accepted write is buffered, still to complete, or reported, once: so with none in flight all are
reported, but for one buffered behind a failed write.
-/
theorem exactly_once_accounting (reached : machine.Reachable run)
    : run.writer.inFlight + (run.reported ++ run.taken).length = run.writer.dispatched.length
      ∧ run.writer.inFlight = run.writer.completions.length + run.writer.outstanding.length
      ∧ run.writer.inFlight ≤ run.writer.capacity
      ∧ (run.writer.pendingWrite.isSome = true → run.writer.sawError = false
        → run.writer.inFlight = run.writer.capacity)
      ∧ (run.writer.canWrite = false
        → 0 < run.writer.completions.length + run.writer.outstanding.length)
      ∧ (∀ event, run.Enabled event → ∃ after, run.next event = .ok after)
      ∧ (∀ range data immediate, run.writer.canWrite = true
        → ∃ status after, run.writer.writeRange range data immediate = .ok (.ok status, after))
      ∧ run.accepted.Perm
          (run.writer.dispatched ++ (run.writer.pendingWrite.map PendingWrite.chunk).toList)
      ∧ (run.writer.dispatched.map Chunk.range).Perm
          ((run.reported ++ run.taken ++ run.writer.completions).map WriteCompletion.range
            ++ run.writer.outstanding.map Chunk.range)
      ∧ (run.call = .finished → run.writer.inFlight = 0)
      ∧ (run.writer.inFlight = 0
        → (run.accepted.map Chunk.range).Perm
            ((run.reported ++ run.taken).map WriteCompletion.range
              ++ (run.writer.pendingWrite.map PendingWrite.range).toList)
          ∧ (run.writer.pendingWrite.isSome = true
            → ∃ completion ∈ run.reported ++ run.taken, completion.failed = true)) := by
  have sound := reachable_sound reached
  have writer := sound.writer
  have flying := writer.flying
  have bounded := writer.bounded
  have positive := writer.positive
  have balance := writer.completes.length_eq
  simp only [List.length_append, List.length_map] at balance
  refine ⟨?_, flying, bounded, writer.waits, ?_, ?_, ?_, writer.handed, writer.completes,
    sound.ended, ?_⟩
  · rw [List.length_append]
    omega
  · intro cannot
    have full : run.writer.isFull = true := by
      simp only [PendingWriter.canWrite, Bool.or_eq_false_iff, Bool.not_eq_false'] at cannot
      exact cannot.1
    have least : run.writer.capacity ≤ run.writer.inFlight := of_decide_eq_true full
    omega
  · intro event enabled
    obtain ⟨after, next, -⟩ := sound.next enabled
    exact ⟨after, next⟩
  · intro range data immediate can
    obtain ⟨result, after, writes, accepts, -⟩ := writer.writeRange range data immediate
    obtain ⟨status, rfl⟩ := accepts.mpr can
    exact ⟨status, after, writes⟩
  · intro none
    obtain ⟨noCompletions, noOutstanding, unbuffered⟩ := writer.idle none
    refine ⟨?_, ?_⟩
    · have handed := writer.handed.map Chunk.range
      have completes := writer.completes
      rw [noCompletions, noOutstanding] at completes
      simp only [List.append_nil, List.map_nil] at completes
      rw [List.map_append] at handed
      refine handed.trans ?_
      have buffered
          : ((run.writer.pendingWrite.map PendingWrite.chunk).toList).map Chunk.range
            = (run.writer.pendingWrite.map PendingWrite.range).toList := by
        cases run.writer.pendingWrite <;> rfl
      rw [buffered]
      exact completes.append_right _
    · intro buffered
      have failed : run.writer.sawError = true := by
        by_contra never
        rw [unbuffered (by simpa using never)] at buffered
        cases buffered
      rw [writer.errors] at failed
      exact List.any_eq_true.mp failed

/-- Two writes through one slot: the second is buffered, dispatched once the first completes,
and flushed.
-/
def bufferedEvents : List WriterEvent :=
  [.writeRange ⟨0, 2⟩ [0, 1] none,
    .writeRange ⟨2, 4⟩ [2, 3] none,
    .complete 0 (.ok ()),
    .pollCompletions none,
    .flush true none,
    .complete 0 (.ok ()),
    .flushStep none,
    .flushStep none]

/-- The accounts of that run in its last state. -/
theorem exactly_once_accounting_buffered
    : ∃ run,
        machine.execute (.new 1) bufferedEvents = some run
        ∧ run.call = .finished
        ∧ (run.accepted.map Chunk.range).Perm
            ((run.reported ++ run.taken).map WriteCompletion.range
              ++ (run.writer.pendingWrite.map PendingWrite.range).toList) := by
  have seen
      : (machine.execute (.new 1) bufferedEvents).map WriterRun.call = some .finished := by
    decide
  obtain ⟨run, executed, finished⟩ := Option.map_eq_some_iff.mp seen
  have start : machine.Reachable (.new 1) := .initial ⟨1, rfl⟩
  obtain ⟨-, -, -, -, -, -, -, -, -, ended, settled⟩ :=
    exactly_once_accounting (start.execute bufferedEvents executed)
  exact ⟨run, executed, finished, (settled (ended finished)).1⟩

end WriterRun

end BoltLoad
