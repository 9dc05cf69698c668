import BoltLoad.FileWriter.Command
import BoltLoad.Library.Segment

/-! Writing a whole buffer at an offset of a file. The operating system may write less than it
was asked to, be interrupted or fail; what the file then holds is one prefix of the buffer, and
the loop ends once the interruptions do.
-/

namespace BoltLoad

/-- `io::ErrorKind`, of the kinds told apart. -/
inductive IoErrorKind
  | interrupted
  | writeZero
  | other (code : Nat)
  deriving DecidableEq, Repr

/-- `io::Error`: its kind and the text it is displayed as. -/
structure IoError where
  kind : IoErrorKind
  message : String
  deriving DecidableEq, Repr

namespace PoolWriter

/-- A file whose writes follow a script: each call writes at most so many bytes, or fails. -/
structure ScriptedFile where
  content : Bytes
  script : Nat → Except IoError Nat
  /-- The calls made so far. -/
  calls : Nat

/-- The content with the values at an offset; writing no values writes nothing. -/
def stored (content : Bytes) (offset : Nat) (values : Bytes) : Bytes :=
  if values.isEmpty then content else Segment.writeAt 0 content offset values

namespace ScriptedFile

/-- The file after a call that wrote the values. -/
def called (file : ScriptedFile) (offset : Nat) (values : Bytes) : ScriptedFile :=
  { file with content := stored file.content offset values, calls := file.calls + 1 }

/-- `WriteAt::write_at`: write a prefix of `buf` at `offset`, returning its length. -/
def writeAt (file : ScriptedFile) (buf : Bytes) (offset : Nat)
    : Except IoError Nat × ScriptedFile :=
  match file.script file.calls with
  | .error error => (.error error, file.called offset [])
  | .ok limit =>
      let written := min limit buf.length
      (.ok written, file.called offset (buf.take written))

/-- Whether a call of the script is interrupted. -/
def Interrupts (file : ScriptedFile) (call : Nat) : Prop :=
  ∃ error, file.script call = .error error ∧ error.kind = .interrupted

end ScriptedFile

/-- Whether the call that answered so is retried with the same arguments. -/
def isInterrupted (error : IoError) : Bool := decide (error.kind = .interrupted)

/-- What is returned when nothing could be written. -/
def writeZero : IoError := ⟨.writeZero, "failed to write whole buffer"⟩

/-- The bytes of a slice from an index on. -/
def sliceFrom (buf : Bytes) (start : Nat) : Checked Bytes :=
  if start ≤ buf.length then .ok (buf.drop start) else .error .bounds

/-- `write_all_at`, for at most `fuel` tests of its loop condition: nothing when that is not
enough, else a panic, or what is returned and the file left.
-/
def writeAllAt (file : ScriptedFile) (buf : Bytes) (offset : Nat)
    : Nat → Option (Checked (Except IoError Unit × ScriptedFile))
  | 0 => none
  | fuel + 1 =>
      if buf.isEmpty then
        some (.ok (.ok (), file))
      else
        match file.writeAt buf offset with
        | (.ok 0, file) => some (.ok (.error writeZero, file))
        | (.ok written, file) =>
            match sliceFrom buf written, Checked.add offset written with
            | .ok buf, .ok offset => writeAllAt file buf offset fuel
            | .error panic, _ => some (.error panic)
            | _, .error panic => some (.error panic)
        | (.error error, file) =>
            if isInterrupted error then
              writeAllAt file buf offset fuel
            else
              some (.ok (.error error, file))

/-- `execute_write`. -/
def executeWrite (file : ScriptedFile) (chunk : Chunk)
    : Nat → Option (Checked (Except IoError Unit × ScriptedFile)) :=
  writeAllAt file chunk.data chunk.range.start

/-! What is stored -/

theorem stored_nil (content : Bytes) (offset : Nat) : stored content offset [] = content := rfl

/-- Storing one part and then the other behind it stores both. -/
theorem stored_append (content : Bytes) (offset : Nat) (front back : Bytes)
    : stored (stored content offset front) (offset + front.length) back
      = stored content offset (front ++ back) := by
  cases front with
  | nil => rfl
  | cons head front =>
      cases back with
      | nil => rw [List.append_nil]; rfl
      | cons byte back =>
          exact Segment.writeAt_append (head :: front) (byte :: back)

/-- The new content holds the values at the offset, and is otherwise as the old one. -/
structure Stores (old new : Bytes) (offset : Nat) (values : Bytes) : Prop where
  covered : ∀ index < values.length, new[offset + index]? = values[index]?
  kept : ∀ index < old.length,
    index < offset ∨ offset + values.length ≤ index → new[index]? = old[index]?
  /-- A file that ends before the offset is filled up to it. -/
  filled : ∀ index, old.length ≤ index → index < offset ∨ offset + values.length ≤ index →
    new[index]? = if values ≠ [] ∧ index < offset then some 0 else none

theorem stored_stores (content : Bytes) (offset : Nat) (values : Bytes)
    : Stores content (stored content offset values) offset values := by
  cases values with
  | nil =>
      refine ⟨fun index within => absurd within (Nat.not_lt_zero _), fun _ _ _ => rfl, ?_⟩
      intro index behind _
      rw [if_neg (by simp), stored_nil, List.getElem?_eq_none behind]
  | cons byte values =>
      refine ⟨fun index within => Segment.getElem?_writeAt_covered within,
        fun index kept apart => Segment.getElem?_writeAt_kept kept apart, ?_⟩
      intro index behind apart
      have uncovered : ¬(offset ≤ index ∧ index < offset + (byte :: values).length) := by omega
      refine Segment.getElem?_writeAt.trans ?_
      rw [if_neg uncovered, if_neg (by omega)]
      simp

/-! The loop -/

/-- How the loop ended: the front of the buffer is in the file and nothing else is, all of it
exactly where no error is returned; an error is that of the last call.
-/
structure Ended (file : ScriptedFile) (buf : Bytes) (offset : Nat)
    (answer : Except IoError Unit) (left : ScriptedFile)
    : Prop where
  calls : file.calls ≤ left.calls
  front : ∃ front back, buf = front ++ back
    ∧ left.content = stored file.content offset front
    ∧ (answer = .ok () ↔ back = [])
  /-- A call that writes nothing is the last one. -/
  zero : ∀ call, file.calls ≤ call → call < left.calls → file.script call = .ok 0 →
    answer = .error writeZero ∧ left.calls = call + 1
  failed : ∀ error, answer = .error error → ∃ call, file.calls ≤ call ∧ left.calls = call + 1
    ∧ (file.script call = .error error ∧ error.kind ≠ .interrupted
      ∨ file.script call = .ok 0 ∧ error = writeZero)

section Loop

variable {file left : ScriptedFile} {buf : Bytes} {offset : Nat} {error : IoError}
  {answer : Except IoError Unit}

theorem Ended.done : Ended file [] offset (.ok ()) file where
  calls := Nat.le_refl _
  front := ⟨[], [], rfl, rfl, iff_of_true rfl rfl⟩
  zero call begun ended := absurd ended (Nat.not_lt.mpr begun)
  failed _ never := by cases never

/-- The call that writes nothing or fails ends the loop with its error. -/
theorem Ended.stopped (nonempty : buf ≠ [])
    (answers : file.script file.calls = .error error ∧ error.kind ≠ .interrupted
      ∨ file.script file.calls = .ok 0 ∧ error = writeZero)
    : Ended file buf offset (.error error) (file.called offset []) where
  calls := Nat.le_succ _
  front := ⟨[], buf, rfl, rfl, iff_of_false (fun never => by cases never) nonempty⟩
  zero call begun ended zero := by
    have only : call = file.calls := Nat.le_antisymm (Nat.le_of_lt_succ ended) begun
    subst only
    rcases answers with ⟨fails, _⟩ | ⟨_, same⟩
    · rw [zero] at fails
      cases fails
    · exact ⟨congrArg Except.error same, rfl⟩
  failed _ same := by
    cases same
    exact ⟨file.calls, Nat.le_refl _, rfl, answers⟩

/-- A call that is neither the last one nor writes nothing leads to the end of the rest. -/
theorem Ended.continued {written : Nat} (within : written ≤ buf.length)
    (answers : file.script file.calls ≠ .ok 0)
    (rest : Ended (file.called offset (buf.take written)) (buf.drop written) (offset + written)
      answer left)
    : Ended file buf offset answer left where
  calls := Nat.le_of_succ_le rest.calls
  front := by
    obtain ⟨front, back, same, content, whole⟩ := rest.front
    have length : (buf.take written).length = written := by
      rw [List.length_take, Nat.min_eq_left within]
    refine ⟨buf.take written ++ front, back, ?_, ?_, whole⟩
    · rw [List.append_assoc, ← same, List.take_append_drop]
    · rw [content, ← stored_append, length]
      rfl
  zero call begun ended zero := by
    rcases Nat.eq_or_lt_of_le begun with first | later
    · subst first
      exact absurd zero answers
    · exact rest.zero call later ended zero
  failed found same := by
    obtain ⟨call, begun, ended, why⟩ := rest.failed found same
    exact ⟨call, Nat.le_of_succ_le begun, ended, why⟩

/-- One turn of the loop ends it, or goes on with what a call left of the buffer. -/
theorem writeAllAt_succ (fits : offset + buf.length < u64Size)
    : (∃ answer left, Ended file buf offset answer left
        ∧ ∀ fuel, writeAllAt file buf offset (fuel + 1) = some (.ok (answer, left)))
      ∨ ∃ written ≤ buf.length,
          file.script file.calls ≠ .ok 0
          ∧ (written = 0 → file.Interrupts file.calls)
          ∧ ∀ fuel, writeAllAt file buf offset (fuel + 1)
            = writeAllAt (file.called offset (buf.take written)) (buf.drop written)
                (offset + written) fuel := by
  cases buf with
  | nil => exact .inl ⟨_, _, .done, fun _ => rfl⟩
  | cons byte rest =>
      cases answers : file.script file.calls with
      | error error =>
          by_cases interrupted : error.kind = .interrupted
          · refine .inr ⟨0, Nat.zero_le _, (fun never => by cases never),
              fun _ => ⟨error, answers, interrupted⟩, fun fuel => ?_⟩
            simp [writeAllAt, ScriptedFile.writeAt, answers, isInterrupted, interrupted]
          · refine .inl ⟨.error error, file.called offset [],
              .stopped (List.cons_ne_nil _ _) (.inl ⟨answers, interrupted⟩), fun fuel => ?_⟩
            simp [writeAllAt, ScriptedFile.writeAt, answers, isInterrupted, interrupted]
      | ok limit =>
          cases limit with
          | zero =>
              refine .inl ⟨.error writeZero, file.called offset [],
                .stopped (List.cons_ne_nil _ _) (.inr ⟨answers, rfl⟩), fun fuel => ?_⟩
              simp [writeAllAt, ScriptedFile.writeAt, answers]
          | succ limit =>
              obtain ⟨written, some⟩ : ∃ written,
                  min (limit + 1) (byte :: rest).length = written + 1 :=
                ⟨min limit rest.length, by rw [List.length_cons]; omega⟩
              have within : written + 1 ≤ (byte :: rest).length := some ▸ Nat.min_le_right _ _
              refine .inr ⟨written + 1, within, (fun never => by cases never),
                (fun never => by cases never), fun fuel => ?_⟩
              have sliced : sliceFrom (byte :: rest) (written + 1)
                  = .ok ((byte :: rest).drop (written + 1)) := if_pos within
              have advanced : Checked.add offset (written + 1) = .ok (offset + (written + 1)) :=
                Checked.add_eq (by omega)
              rw [writeAllAt, if_neg (by simp)]
              simp only [ScriptedFile.writeAt, answers, some, sliced, advanced]

/-- Whenever the loop returns, it has ended as described, by induction on the fuel. -/
theorem writeAllAt_ended {fuel : Nat} {result : Checked (Except IoError Unit × ScriptedFile)}
    (fits : offset + buf.length < u64Size)
    (returns : writeAllAt file buf offset fuel = some result)
    : ∃ answer left, result = .ok (answer, left) ∧ Ended file buf offset answer left := by
  induction fuel generalizing file buf offset with
  | zero => cases returns
  | succ fuel ih =>
      rcases @writeAllAt_succ file _ _ fits with
        ⟨answer, left, ended, ends⟩ | ⟨written, within, nonzero, _, goes⟩
      · rw [ends] at returns
        exact ⟨answer, left, (Option.some.inj returns).symm, ended⟩
      · rw [goes] at returns
        have restFits : offset + written + (buf.drop written).length < u64Size := by
          rw [List.length_drop]
          omega
        obtain ⟨answer, left, same, rest⟩ := ih restFits returns
        exact ⟨answer, left, same, .continued within nonzero rest⟩

/-- The loop returns once no call is interrupted any more: each turn before takes one of the
calls up to there or one byte of the buffer.
-/
theorem writeAllAt_returns {last fuel : Nat} (fits : offset + buf.length < u64Size)
    (calm : ∀ call ≥ last, ¬file.Interrupts call)
    (enough : last - file.calls + buf.length < fuel)
    : ∃ result, ∀ more ≥ fuel, writeAllAt file buf offset more = some result := by
  induction fuel generalizing file buf offset with
  | zero => cases enough
  | succ fuel ih =>
      have succeeds {result : Checked (Except IoError Unit × ScriptedFile)}
          (turns : ∀ more ≥ fuel, writeAllAt file buf offset (more + 1) = some result)
          : ∀ more ≥ fuel + 1, writeAllAt file buf offset more = some result := by
        intro more enough
        obtain ⟨less, rfl⟩ := Nat.exists_eq_add_of_le' (Nat.le_of_add_left_le enough)
        exact turns less (Nat.le_of_succ_le_succ enough)
      rcases @writeAllAt_succ file _ _ fits with
        ⟨answer, left, _, ends⟩ | ⟨written, within, _, stalls, goes⟩
      · exact ⟨_, succeeds fun more _ => ends more⟩
      · have rest : ∃ result, ∀ more ≥ fuel,
            writeAllAt (file.called offset (buf.take written)) (buf.drop written)
              (offset + written) more = some result := by
          refine ih ?_ calm ?_
          · rw [List.length_drop]
            omega
          · have moves : written ≠ 0 ∨ file.calls < last := by
              by_cases stuck : written = 0
              · exact .inr (Nat.lt_of_not_le fun late => calm _ late (stalls stuck))
              · exact .inl stuck
            rw [List.length_drop]
            dsimp only [ScriptedFile.called]
            omega
        obtain ⟨result, returns⟩ := rest
        exact ⟨result, succeeds fun more enough => (goes more).trans (returns more enough)⟩

end Loop

/-- Writing a buffer at an offset: whatever each call of the file writes or fails with, the
buffer is in the file where it returns no error, else a front of it, and nothing else changes;
a call that writes nothing ends it with `WriteZero`; and finitely many interruptions do not
keep it from ending.
-/
theorem writeAllAt_exact (file : ScriptedFile) (buf : Bytes) (offset : Nat)
    (fits : offset + buf.length < u64Size)
    : (∀ fuel result, writeAllAt file buf offset fuel = some result →
        ∃ answer left, result = .ok (answer, left)
          ∧ (answer = .ok () → Stores file.content left.content offset buf)
          ∧ (∀ error, answer = .error error →
              ∃ front, front <+: buf ∧ front ≠ buf
                ∧ Stores file.content left.content offset front)
          ∧ (∀ call, file.calls ≤ call → call < left.calls → file.script call = .ok 0 →
              answer = .error writeZero ∧ left.calls = call + 1)
          ∧ (∀ error, answer = .error error → ∃ call, file.calls ≤ call ∧ left.calls = call + 1
              ∧ (file.script call = .error error ∧ error.kind ≠ .interrupted
                ∨ file.script call = .ok 0 ∧ error = writeZero)))
      ∧ ({ call | file.Interrupts call }.Finite →
          ∃ fuel result, ∀ more ≥ fuel, writeAllAt file buf offset more = some result) := by
  constructor
  · intro fuel result returns
    obtain ⟨answer, left, same, ended⟩ := writeAllAt_ended fits returns
    obtain ⟨front, back, parts, content, whole⟩ := ended.front
    refine ⟨answer, left, same, ?_, ?_, ended.zero, ended.failed⟩
    · intro fine
      rw [content, parts, whole.mp fine, List.append_nil]
      exact stored_stores _ _ _
    · intro error failed
      have remains : back ≠ [] := by
        intro none
        rw [whole.mpr none] at failed
        cases failed
      refine ⟨front, ⟨back, parts.symm⟩, ?_, ?_⟩
      · rw [parts]
        exact fun same => remains (List.self_eq_append_right.mp same)
      · rw [content]
        exact stored_stores _ _ _
  · intro finite
    obtain ⟨last, bound⟩ := finite.bddAbove
    have calm : ∀ call ≥ last + 1, ¬file.Interrupts call :=
      fun call late interrupts => absurd (bound interrupts) (Nat.not_le.mpr late)
    exact ⟨_, writeAllAt_returns fits calm (Nat.lt_succ_self _)⟩

/-- The writes of a file may be short and interrupted, and then complete. -/
theorem writeAllAt_exact_short
    : let file : ScriptedFile := {
        content := List.replicate 12 0
        script := ([.ok 3, .error ⟨.interrupted, "interrupted"⟩, .ok 1, .ok 2].getD · (.ok 10))
        calls := 0 }
      let buf : Bytes := [97, 98, 99, 100, 101, 102, 103, 104, 105, 106]
      (∃ left, writeAllAt file buf 2 6 = some (.ok (.ok (), left))
        ∧ Stores file.content left.content 2 buf)
        ∧ ∃ fuel result, ∀ more ≥ fuel, writeAllAt file buf 2 more = some result := by
  intro file buf
  have exact := writeAllAt_exact file buf 2 (by decide)
  refine ⟨?_, exact.2 ((Set.finite_le_nat 3).subset ?_)⟩
  · obtain ⟨answer, left, same, whole, _⟩ := exact.1 6 _ rfl
    cases same
    exact ⟨_, rfl, whole rfl⟩
  · rintro call ⟨error, fails, _⟩
    by_contra late
    have after : 4 ≤ call := Nat.lt_of_not_le late
    simp [file, List.getD_eq_getElem?_getD, after] at fails

end PoolWriter

end BoltLoad
