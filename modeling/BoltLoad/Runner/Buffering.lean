import BoltLoad.Runner.Effects

/-! What one step of a runner's loop does to the bytes it holds: where an item is buffered,
cut or carried over, and what polling and handling leave of the byte count and the total.
-/

namespace BoltLoad

/-- The size of every frame. -/
def DataFrame.Sized (frame : DataFrame) : Prop :=
  1 ≤ frame.data.length ∧ frame.data.length ≤ bufferSize

/-- The bytes of the staged frame, until it is pushed. -/
def StreamingState.stagedBytes (state : StreamingState) : Nat :=
  match state.staged with
  | some (⟨some frame, _, _⟩, _) => frame.data.length
  | _ => 0

/-- The bytes buffered, staged ones included. -/
def StreamingState.held (state : StreamingState) : Nat := state.buffer.length + state.stagedBytes

namespace RunnerLoop

/-- The bytes buffered and not pushed yet. -/
def held (loop : RunnerLoop) : Nat :=
  match loop.phase with
  | .streaming state => state.held
  | _ => 0

/-- Downloaded plus buffered bytes have reached the total in force. -/
def Reached (loop : RunnerLoop) : Prop :=
  ∃ total, loop.runner.total = some total ∧ total ≤ loop.runner.downloaded + loop.held

/-- The loop reads no item any more: what it emits is followed by its stop. -/
def Closed (loop : RunnerLoop) : Prop :=
  match loop.phase with
  | .connecting => False
  | .publishingStarted => False
  | .streaming state =>
      ∃ emission continuation,
        state.staged = some (emission, continuation) ∧ continuation ≠ .resumeItem
  | _ => True

/-- Handling a step buffers an item: one just read, or the rest of one. -/
def Buffers (loop : RunnerLoop) : Step → Prop
  | .download (some (.ok _)) => True
  | .emitted (.ok none) =>
      ∃ state emission,
        loop.phase = .streaming state ∧ state.staged = some (emission, .resumeItem)
  | _ => False

variable {usizeSize : Nat} {runner : TaskRunner} {state : StreamingState}
  {loop after : RunnerLoop}

theorem stopping_runner (result : RunResult)
    : (stopping runner result).runner = runner :=
  rfl

theorem stopping_held (result : RunResult)
    : (stopping runner result).held = 0 := by
  unfold stopping held
  cases TaskRunner.shouldWaitDataDrain result <;> rfl

theorem stopping_closed (result : RunResult)
    : (stopping runner result).Closed := by
  unfold stopping Closed
  cases TaskRunner.shouldWaitDataDrain result <;> trivial

-----------------------------------------------------------------------------------------
-- Buffering an item
-----------------------------------------------------------------------------------------

/-- What a flush leaves: the staged buffer, or a stop when there is nothing to emit. -/
inductive Flushed (runner : TaskRunner) (state : StreamingState) (continuation : Continuation)
    : RunnerLoop → Prop
  | stopped (empty : state.buffer = []) (ends : continuation ≠ .resumeItem) (result : RunResult)
    : Flushed runner state continuation (stopping runner result)
  | staged (filled : state.buffer ≠ [])
    : Flushed runner state continuation
        ⟨runner, .streaming {
          state with
          buffer := []
          staged := some (.new state.buffer, continuation) }⟩

theorem flush_cases {continuation : Continuation}
    (flushed : flush ⟨runner, .streaming state⟩ continuation = .ok after)
    : Flushed runner state continuation after := by
  simp only [flush, streaming, Checked.ok_bind] at flushed
  split at flushed
  · rename_i empty
    have empty := List.isEmpty_iff.mp empty
    cases continuation with
    | resumeItem => cases flushed
    | validate =>
        cases flushed
        rw [beginStop_streaming]
        exact .stopped empty (fun never => by cases never) _
    | idleTimeout =>
        cases flushed
        rw [beginStop_streaming]
        exact .stopped empty (fun never => by cases never) _
    | streamError source =>
        cases flushed
        rw [beginStop_streaming]
        exact .stopped empty (fun never => by cases never) _
  · rename_i filled
    cases flushed
    exact .staged (fun empty => filled (List.isEmpty_iff.mpr empty))

/-- A flush keeps the runner and the bytes it holds, unless it stops. -/
theorem Flushed.held {continuation : Continuation}
    (flushed : Flushed runner state continuation after)
    : after.runner = runner ∧ after.held ≤ state.buffer.length := by
  cases flushed with
  | stopped empty ends result => exact ⟨rfl, (stopping_held result).trans_le (Nat.zero_le _)⟩
  | staged filled =>
      refine ⟨rfl, ?_⟩
      simp only [RunnerLoop.held, StreamingState.held, StreamingState.stagedBytes, Emission.new,
        List.length_nil, Nat.zero_add, Nat.le_refl]

/-- A flush that is not followed by more of an item ends the reading. -/
theorem Flushed.closed {continuation : Continuation}
    (flushed : Flushed runner state continuation after) (ends : continuation ≠ .resumeItem)
    : after.Closed := by
  cases flushed with
  | stopped empty _ result => exact stopping_closed result
  | staged filled => exact ⟨_, _, rfl, ends⟩

/-- What buffering the current item leaves, by what there is room for: under the total in
force, and in the buffer.
-/
inductive Buffered (usizeSize : Nat) (runner : TaskRunner) (state : StreamingState)
    : RunnerLoop → Prop
  | full {left : RunnerLoop} (reached : runner.allowance usizeSize state.buffer = 0)
    (flushed : Flushed runner state .validate left)
    : Buffered usizeSize runner state left
  | exhausted (room : runner.allowance usizeSize state.buffer ≠ 0) {cursor : ItemCursor}
    (current : state.item = some cursor) (nothing : cursor.offset = cursor.bytes.length)
    : Buffered usizeSize runner state ⟨runner, .streaming { state with item := none }⟩
  | whole {cursor : ItemCursor} (current : state.item = some cursor)
    (started : cursor.offset ≤ cursor.bytes.length)
    (room : cursor.bytes.length - cursor.offset < runner.allowance usizeSize state.buffer)
    (fits : state.buffer.length + (cursor.bytes.length - cursor.offset) ≤ bufferSize)
    : Buffered usizeSize runner state
        ⟨runner, .streaming {
          state with
          buffer := state.buffer ++ cursor.bytes.drop cursor.offset
          item := none }⟩
  | cut {cursor : ItemCursor} {left : RunnerLoop} (current : state.item = some cursor)
    (room : runner.allowance usizeSize state.buffer ≤ cursor.bytes.length - cursor.offset)
    (fits : state.buffer.length + runner.allowance usizeSize state.buffer ≤ bufferSize)
    (flushed
      : Flushed runner
          { state with
            buffer :=
              state.buffer
                ++ (cursor.bytes.drop cursor.offset).take
                  (runner.allowance usizeSize state.buffer) }
          .validate left)
    : Buffered usizeSize runner state left
  | straddles {cursor : ItemCursor} {left : RunnerLoop} (current : state.item = some cursor)
    (started : cursor.offset ≤ cursor.bytes.length) (filled : state.buffer.length ≤ bufferSize)
    (overflows
      : bufferSize
        < state.buffer.length
          + min (cursor.bytes.length - cursor.offset)
            (runner.allowance usizeSize state.buffer))
    (flushed
      : Flushed runner
          { state with
            buffer :=
              state.buffer
                ++ (cursor.bytes.drop cursor.offset).take (bufferSize - state.buffer.length)
            item := some ⟨cursor.bytes, cursor.offset + (bufferSize - state.buffer.length)⟩ }
          .resumeItem left)
    : Buffered usizeSize runner state left

theorem bufferItem_cases
    (buffered : bufferItem usizeSize ⟨runner, .streaming state⟩ = .ok after)
    : Buffered usizeSize runner state after := by
  simp only [bufferItem, streaming, Checked.ok_bind] at buffered
  split at buffered
  · rename_i reached
    exact .full reached (flush_cases buffered)
  rename_i room
  obtain ⟨cursor, found, buffered⟩ := Checked.bind_eq_ok.mp buffered
  have current : state.item = some cursor := by
    cases item : state.item with
    | none =>
        rw [item] at found
        cases found
    | some other =>
        rw [item] at found
        cases found
        rfl
  split at buffered
  · rename_i nothing
    cases buffered
    exact .exhausted room current nothing
  obtain ⟨remaining, subtracts, buffered⟩ := Checked.bind_eq_ok.mp buffered
  have started : cursor.offset ≤ cursor.bytes.length := by
    unfold Checked.sub at subtracts
    split at subtracts
    · assumption
    · cases subtracts
  rw [Checked.sub_eq started] at subtracts
  cases subtracts
  split at buffered
  · rename_i fits
    split at buffered
    · rename_i cuts
      rw [cuts] at fits buffered
      exact .cut current (min_eq_right_iff.mp cuts) fits (flush_cases buffered)
    · rename_i short
      cases buffered
      have whole : cursor.bytes.length - cursor.offset
          < runner.allowance usizeSize state.buffer := by omega
      rw [Nat.min_eq_left whole.le] at fits ⊢
      rw [List.take_of_length_le (by rw [List.length_drop])]
      exact .whole current started whole fits
  · rename_i overflows
    obtain ⟨take, subtracts, buffered⟩ := Checked.bind_eq_ok.mp buffered
    have filled : state.buffer.length ≤ bufferSize := by
      unfold Checked.sub at subtracts
      split at subtracts
      · assumption
      · cases subtracts
    rw [Checked.sub_eq filled] at subtracts
    cases subtracts
    exact .straddles current started filled (Nat.lt_of_not_le overflows) (flush_cases buffered)

-----------------------------------------------------------------------------------------
-- What buffering keeps
-----------------------------------------------------------------------------------------

/-- The buffer fits, and so does a staged frame, which is not empty. -/
def Sized (loop : RunnerLoop) : Prop :=
  ∀ state,
    loop.phase = .streaming state
    → state.buffer.length ≤ bufferSize
      ∧ ∀ emission continuation frame,
          state.staged = some (emission, continuation)
          → emission.frame = some frame
          → frame.Sized

/-- The last frame carries all that was read, unless the total in force is reached. -/
def Accounts (loop : RunnerLoop) (pushed read : Bytes) : Prop :=
  ∀ state emission continuation frame,
    loop.phase = .streaming state
    → state.staged = some (emission, continuation)
    → emission.frame = some frame
    → continuation ≠ .resumeItem
    → read = pushed ++ frame.data ∨ loop.Reached

/-- Without a streaming phase there is nothing to size. -/
theorem sized_of_not_streaming (quiet : ∀ state, loop.phase ≠ .streaming state)
    : loop.Sized :=
  fun state streams => absurd streams (quiet state)

theorem stopping_quiet (result : RunResult) (state : StreamingState)
    : (stopping runner result).phase ≠ .streaming state := by
  unfold stopping
  cases TaskRunner.shouldWaitDataDrain result <;> exact fun never => by cases never

theorem Flushed.sized {continuation : Continuation}
    (flushed : Flushed runner state continuation after)
    (fits : state.buffer.length ≤ bufferSize)
    : after.Sized := by
  cases flushed with
  | stopped empty ends result => exact sized_of_not_streaming (stopping_quiet result)
  | staged filled =>
      intro staged streams
      cases streams
      refine ⟨Nat.zero_le _, fun emission next frame same framed => ?_⟩
      cases same
      cases framed
      exact ⟨List.length_pos_of_ne_nil filled, fits⟩

theorem Flushed.accounts {continuation : Continuation} {pushed read : Bytes}
    (flushed : Flushed runner state continuation after)
    (whole
      : continuation ≠ .resumeItem
        → read = pushed ++ state.buffer
          ∨ ∃ total, runner.total = some total
              ∧ total ≤ runner.downloaded + state.buffer.length)
    : after.Accounts pushed read := by
  cases flushed with
  | stopped empty ends result =>
      exact fun staged _ _ _ streams => absurd streams (stopping_quiet result staged)
  | staged filled =>
      intro staged emission next frame streams same framed ends
      cases streams
      cases same
      cases framed
      refine (whole ends).imp_right (fun ⟨total, known, reached⟩ => ⟨total, known, ?_⟩)
      simpa only [RunnerLoop.held, StreamingState.held, StreamingState.stagedBytes, Emission.new,
        List.length_nil, Nat.zero_add] using reached

/-- Without a total, only the size of a `usize` limits the allowance. -/
theorem allowance_none {buffer : Bytes} (unknown : runner.total = none)
    : runner.allowance usizeSize buffer = usizeSize - 1 := by
  unfold TaskRunner.allowance
  rw [unknown]

/-- The allowance never reaches past the total. -/
theorem allowance_le {buffer : Bytes} {total : Nat} (known : runner.total = some total)
    : runner.allowance usizeSize buffer ≤ total - (runner.downloaded + buffer.length) := by
  unfold TaskRunner.allowance
  rw [known]
  exact Nat.mod_le _ _

/-- A total that fits a `usize` is met exactly by the allowance. -/
theorem allowance_eq {buffer : Bytes} {total : Nat} (known : runner.total = some total)
    (fits : total < usizeSize)
    : runner.allowance usizeSize buffer = total - (runner.downloaded + buffer.length) := by
  unfold TaskRunner.allowance
  rw [known]
  exact Nat.mod_eq_of_lt ((Nat.sub_le _ _).trans_lt fits)

/-- Buffering an item keeps the runner, and adds at most the allowance to what it holds. -/
theorem Buffered.held (buffered : Buffered usizeSize runner state after)
    (idle : state.staged = none)
    : after.runner = runner
      ∧ after.held ≤ state.buffer.length + runner.allowance usizeSize state.buffer := by
  have unstaged (buffer : Bytes) (item : Option ItemCursor)
      : RunnerLoop.held ⟨runner, .streaming { state with buffer, item }⟩ = buffer.length := by
    simp only [RunnerLoop.held, StreamingState.held, StreamingState.stagedBytes, idle,
      Nat.add_zero]
  cases buffered with
  | full reached flushed =>
      exact ⟨flushed.held.1, flushed.held.2.trans (Nat.le_add_right _ _)⟩
  | exhausted room current nothing =>
      exact ⟨rfl, (unstaged _ _).trans_le (Nat.le_add_right _ _)⟩
  | whole current started room fits =>
      refine ⟨rfl, ?_⟩
      rw [unstaged, List.length_append, List.length_drop]
      omega
  | cut current room fits flushed =>
      refine ⟨flushed.held.1, flushed.held.2.trans ?_⟩
      rw [List.length_append, List.length_take]
      omega
  | straddles current started filled overflows flushed =>
      refine ⟨flushed.held.1, flushed.held.2.trans ?_⟩
      rw [List.length_append, List.length_take]
      omega

theorem Buffered.sized (buffered : Buffered usizeSize runner state after)
    (idle : state.staged = none) (fits : state.buffer.length ≤ bufferSize)
    : after.Sized := by
  have unstaged {buffer : Bytes} (item : Option ItemCursor) (within : buffer.length ≤ bufferSize)
      : RunnerLoop.Sized ⟨runner, .streaming { state with buffer, item }⟩ := by
    intro other streams
    cases streams
    exact ⟨within, fun _ _ _ staged => by cases idle.symm.trans staged⟩
  cases buffered with
  | full reached flushed => exact flushed.sized fits
  | exhausted room current nothing => exact unstaged none fits
  | whole current started room within =>
      refine unstaged none ?_
      rwa [List.length_append, List.length_drop]
  | cut current room within flushed =>
      refine flushed.sized ?_
      simp only [List.length_append, List.length_take]
      omega
  | straddles current started filled overflows flushed =>
      refine flushed.sized ?_
      simp only [List.length_append, List.length_take]
      omega

/-- Once buffering an item reaches the total in force, nothing more is read. -/
theorem Buffered.closed (buffered : Buffered usizeSize runner state after)
    (idle : state.staged = none) (reached : after.Reached)
    : after.Closed := by
  obtain ⟨total, known, reached⟩ := reached
  have known : runner.total = some total := (buffered.held idle).1 ▸ known
  have most
      : runner.allowance usizeSize state.buffer
        ≤ total - (runner.downloaded + state.buffer.length) := allowance_le known
  have unstaged (buffer : Bytes) (item : Option ItemCursor)
      : RunnerLoop.held ⟨runner, .streaming { state with buffer, item }⟩ = buffer.length := by
    simp only [RunnerLoop.held, StreamingState.held, StreamingState.stagedBytes, idle,
      Nat.add_zero]
  cases buffered with
  | full reached flushed => exact flushed.closed (fun never => by cases never)
  | exhausted room current nothing =>
      rw [unstaged] at reached
      dsimp only at reached
      omega
  | whole current started room fits =>
      rw [unstaged, List.length_append, List.length_drop] at reached
      dsimp only at reached
      omega
  | cut current room fits flushed => exact flushed.closed (fun never => by cases never)
  | straddles current started filled overflows flushed =>
      have runner := flushed.held.1
      have held := flushed.held.2
      rw [runner] at reached
      simp only [List.length_append, List.length_take, List.length_drop] at held
      omega

/-- Where a limit cuts an item, everything up to the limit is staged. -/
theorem Buffered.accounts {pushed read : Bytes}
    (buffered : Buffered usizeSize runner state after) (idle : state.staged = none)
    (wide : bufferSize < usizeSize - 1)
    (fits : ∀ total, runner.total = some total → total < usizeSize)
    : after.Accounts pushed read := by
  have unstaged (buffer : Bytes) (item : Option ItemCursor)
      : RunnerLoop.Accounts ⟨runner, .streaming { state with buffer, item }⟩ pushed read := by
    intro other _ _ _ streams staged
    cases streams
    cases idle.symm.trans staged
  cases buffered with
  | full reached flushed =>
      refine flushed.accounts (fun _ => .inr ?_)
      cases known : runner.total with
      | none =>
          rw [allowance_none known] at reached
          omega
      | some total =>
          rw [allowance_eq known (fits total known)] at reached
          exact ⟨total, rfl, Nat.le_of_sub_eq_zero reached⟩
  | exhausted room current nothing => exact unstaged _ _
  | whole current started room within => exact unstaged _ _
  | cut current room within flushed =>
      refine flushed.accounts (fun _ => .inr ?_)
      cases known : runner.total with
      | none =>
          rw [allowance_none known] at within
          omega
      | some total =>
          have exact
              : runner.allowance usizeSize state.buffer
                = total - (runner.downloaded + state.buffer.length) :=
            allowance_eq known (fits total known)
          refine ⟨total, rfl, ?_⟩
          rw [List.length_append, List.length_take, List.length_drop]
          omega
  | straddles current started filled overflows flushed =>
      exact flushed.accounts (fun never => absurd rfl never)

end RunnerLoop

end BoltLoad
