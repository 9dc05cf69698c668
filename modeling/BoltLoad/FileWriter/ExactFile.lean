import BoltLoad.FileWriter.Backend

/-! The file a backend leaves. Over every order and interleaving of writes that partition the
file, each byte written stands in its place; the file is exact unless it was opened longer
than it should be.
-/

namespace BoltLoad

/-- Writes whose ranges partition the first `total` bytes. -/
structure Partition (total : Nat) (chunks : List Chunk) : Prop where
  fits : ∀ chunk ∈ chunks, chunk.range.start + chunk.data.length = chunk.range.stop
  within : ∀ chunk ∈ chunks, chunk.range.stop ≤ total
  apart : (chunks.map Chunk.range).Pairwise HalfOpen.Apart
  covers : ∀ point < total, ∃ chunk ∈ chunks, point ∈ chunk.range

/-- The file the writes are to make: as long as it should be, with the bytes written. -/
structure ExactFile (total : Nat) (chunks : List Chunk) (file : Bytes) : Prop where
  length : file.length = total
  content
    : ∀ chunk ∈ chunks,
        ∀ offset < chunk.data.length,
          file[chunk.range.start + offset]? = chunk.data[offset]?

/-- There is one such file, so backends that leave it agree. -/
theorem ExactFile.unique {total : Nat} {chunks : List Chunk} {first second : Bytes}
    (partition : Partition total chunks) (left : ExactFile total chunks first)
    (right : ExactFile total chunks second)
    : first = second := by
  apply List.ext_getElem?
  intro point
  by_cases inside : point < total
  · obtain ⟨chunk, member, starts, stops⟩ := partition.covers point inside
    have fits := partition.fits chunk member
    have offset : point = chunk.range.start + (point - chunk.range.start) := by omega
    rw [offset, left.content chunk member _ (by omega), right.content chunk member _ (by omega)]
  · rw [List.getElem?_eq_none (by rw [left.length]; omega),
      List.getElem?_eq_none (by rw [right.length]; omega)]

/-- How many bytes of a write are known to be in the file. -/
def HandedWrite.written (write : HandedWrite) : Nat :=
  match write.state with
  | .queued => 0
  | .writing written => written
  | .completed true => write.chunk.data.length
  | .completed false => 0

namespace FileRun

variable {usizeSize total : Nat} {opened : Bytes} {chunks : List Chunk} {run : FileRun}

/-- What the executed part of the writes leaves of the file opened. -/
structure Executed (opened : Bytes) (total : Nat) (chunks : List Chunk) (run : FileRun)
    : Prop where
  handed : run.writes.map HandedWrite.chunk = chunks
  grows : opened.length ≤ run.file.length
  bounded : run.file.length ≤ max opened.length total
  started : ∀ write ∈ run.writes, write.written ≤ write.chunk.data.length
  content
    : ∀ (index : Nat) (write : HandedWrite),
        run.writes[index]? = some write
        → ∀ offset < write.written,
            run.file[write.chunk.range.start + offset]? = write.chunk.data[offset]?

theorem Executed.new (kind : FileRangeWriterKind) (opened : Bytes) (total : Nat)
    (chunks : List Chunk)
    : Executed opened total chunks (.new kind opened chunks) where
  handed := by simp only [FileRun.new, List.map_map, Function.comp_def, List.map_id']
  grows := Nat.le_refl _
  bounded := Nat.le_max_left _ _
  started := by
    intro write member
    obtain ⟨chunk, _, same⟩ := List.mem_map.mp member
    subst same
    exact Nat.zero_le _
  content := by
    intro index write found offset some
    simp only [FileRun.new, List.getElem?_map, Option.map_eq_some_iff] at found
    obtain ⟨chunk, _, same⟩ := found
    subst same
    exact absurd some (Nat.not_lt_zero _)

/-- The write at an index is one of those handed over. -/
theorem Executed.member (executed : run.Executed opened total chunks) {index : Nat}
    {write : HandedWrite} (found : run.writes[index]? = some write)
    : write.chunk ∈ chunks :=
  executed.handed ▸ List.mem_map_of_mem (List.mem_of_getElem? found)

/-- Writes at two places of the queue cover no byte in common. -/
theorem Executed.apart (executed : run.Executed opened total chunks)
    (partition : Partition total chunks) {index other : Nat} {write handed : HandedWrite}
    (found : run.writes[index]? = some write) (foundOther : run.writes[other]? = some handed)
    (different : other ≠ index)
    : handed.chunk.range.Apart write.chunk.range := by
  have range {place : Nat} {write : HandedWrite} (found : run.writes[place]? = some write)
      : (chunks.map Chunk.range)[place]? = some write.chunk.range := by
    rw [← executed.handed, List.getElem?_map, List.getElem?_map, found]
    rfl
  have pairwise := List.pairwise_iff_getElem.mp partition.apart
  obtain ⟨isPlace, atPlace⟩ := List.getElem?_eq_some_iff.mp (range found)
  obtain ⟨isOther, atOther⟩ := List.getElem?_eq_some_iff.mp (range foundOther)
  rcases Nat.lt_or_gt_of_ne different with before | after
  · exact atOther ▸ atPlace ▸ pairwise other index isOther isPlace before
  · intro point inside outside
    exact (atOther ▸ atPlace ▸ pairwise index other isPlace isOther after) point outside inside

/-- A write goes on to another state without becoming another one. -/
theorem Executed.handed_set (executed : run.Executed opened total chunks) {index : Nat}
    {write : HandedWrite} (found : run.writes[index]? = some write) (state : WriteState)
    : (run.writes.set index ⟨write.chunk, state⟩).map HandedWrite.chunk = chunks := by
  have same : chunks[index]? = some write.chunk := by
    rw [← executed.handed, List.getElem?_map, found]
    rfl
  obtain ⟨inside, isChunk⟩ := List.getElem?_eq_some_iff.mp same
  rw [List.map_set, executed.handed]
  dsimp only
  rw [← isChunk, List.set_getElem_self]

/-- What is written of a write lies in the file. -/
theorem Executed.present (executed : run.Executed opened total chunks) {index offset : Nat}
    {write : HandedWrite} (found : run.writes[index]? = some write)
    (some : offset < write.written)
    : write.chunk.range.start + offset < run.file.length := by
  have content := executed.content index write found offset some
  have started := executed.started write (List.mem_of_getElem? found)
  rw [List.getElem?_eq_getElem (some.trans_le started)] at content
  exact (List.getElem?_eq_some_iff.mp content).1

/-- A write goes on with no more of it in the file. -/
theorem Executed.progress (executed : run.Executed opened total chunks) {index : Nat}
    {write : HandedWrite} (found : run.writes[index]? = some write) {state : WriteState}
    (less : HandedWrite.written ⟨write.chunk, state⟩ ≤ write.written)
    : (run.progress index write.chunk state).Executed opened total chunks where
  handed := executed.handed_set found state
  grows := executed.grows
  bounded := executed.bounded
  started := by
    intro other member
    rcases List.mem_or_eq_of_mem_set member with earlier | same
    · exact executed.started other earlier
    · subst same
      exact less.trans (executed.started write (List.mem_of_getElem? found))
  content := by
    intro place other foundOther offset some
    simp only [FileRun.progress, List.getElem?_set] at foundOther
    split at foundOther
    · split at foundOther
      · cases foundOther
        exact executed.content index write found offset (some.trans_le less)
      · cases foundOther
    · exact executed.content place other foundOther offset some

/-- A part of a write is stored in its place, after what is there of it already. -/
theorem Executed.stores (executed : run.Executed opened total chunks)
    (partition : Partition total chunks) {index written count : Nat} {write : HandedWrite}
    (found : run.writes[index]? = some write) (before : write.written = written)
    (fits : written + count ≤ write.chunk.data.length) {state : WriteState}
    (after : HandedWrite.written ⟨write.chunk, state⟩ = written + count)
    : ({ run with
        file :=
          Segment.writeAt 0 run.file (write.chunk.range.start + written)
            ((write.chunk.data.drop written).take count) }.progress index write.chunk
        state).Executed opened total chunks := by
  have member := executed.member found
  have covered : ((write.chunk.data.drop written).take count).length = count := by
    rw [List.length_take, List.length_drop]
    omega
  have whole := partition.fits _ member
  have within := partition.within _ member
  constructor
  case handed => exact executed.handed_set found state
  case grows =>
    simp only [FileRun.progress, Segment.length_writeAt]
    exact executed.grows.trans (Nat.le_max_left _ _)
  case bounded =>
    simp only [FileRun.progress, Segment.length_writeAt, covered]
    have bounded := executed.bounded
    omega
  case started =>
    intro other isOther
    rcases List.mem_or_eq_of_mem_set isOther with earlier | same
    · exact executed.started other earlier
    · subst same
      exact after.trans_le fits
  case content =>
    intro place other foundOther offset some
    simp only [FileRun.progress, List.getElem?_set] at foundOther ⊢
    split at foundOther
    · split at foundOther
      case isFalse => cases foundOther
      cases foundOther
      rw [after] at some
      by_cases early : offset < written
      · have early := before ▸ early
        rw [Segment.getElem?_writeAt_kept (executed.present found early) (.inl (by omega))]
        exact executed.content index write found offset early
      · have place : write.chunk.range.start + offset
            = write.chunk.range.start + written + (offset - written) := by omega
        rw [place, Segment.getElem?_writeAt_covered (by omega),
          List.getElem?_take_of_lt (by omega), List.getElem?_drop]
        congr 1
        omega
    · rename_i different
      have started := executed.started other (List.mem_of_getElem? foundOther)
      have fitsOther := partition.fits _ (executed.member foundOther)
      have outside := executed.apart partition found foundOther (Ne.symm different)
        (other.chunk.range.start + offset) ⟨Nat.le_add_right _ _, by omega⟩
      rw [HalfOpen.mem_iff] at outside
      rw [Segment.getElem?_writeAt_kept (executed.present foundOther some)
        (by rw [covered]; omega)]
      exact executed.content place other foundOther offset some

/-- A step of a backend keeps what is executed in place. -/
theorem Executed.next (executed : run.Executed opened total chunks)
    (partition : Partition total chunks)
    (mapped
      : run.kind = .mmap
        → opened.length = total ∧ MmapWriter.isSupported usizeSize total = true)
    {event : FileEvent} (enabled : run.Enabled event)
    : (run.next usizeSize event).Executed opened total chunks := by
  have pends {index : Nat} {asked : Chunk × Nat} (pending : asked ∈ run.pending index)
      : run.writes[index]? = some ⟨asked.1, .writing asked.2⟩ := by
    unfold FileRun.pending at pending
    split at pending
    · rename_i found
      cases pending
      exact found
    · cases pending
  cases event with
  | take index =>
      unfold FileRun.next
      obtain ⟨_, queued⟩ := enabled
      obtain ⟨write, found, _⟩ := Option.map_eq_some_iff.mp queued
      simp only [found]
      exact executed.progress found (Nat.zero_le _)
  | writeAt index answer =>
      obtain ⟨⟨chunk, written⟩, pending, short, fits⟩ := enabled
      have found := pends pending
      have isPending : run.pending index = some (chunk, written) := pending
      simp only [FileRun.next, isPending]
      cases answer with
      | interrupted => exact executed
      | failed => exact executed.progress found (Nat.zero_le _)
      | wrote count =>
          cases count with
          | zero => exact executed.progress found (Nat.zero_le _)
          | succ count =>
              have fits : count + 1 ≤ chunk.data.length - written := of_decide_eq_true fits
              have starts : HandedWrite.written ⟨chunk, .writing written⟩ = written := rfl
              exact executed.stores partition found starts (by dsimp only at short ⊢; omega) rfl
  | written index =>
      obtain ⟨⟨chunk, written⟩, pending, all⟩ := enabled
      have found := pends pending
      have isPending : run.pending index = some (chunk, written) := pending
      simp only [FileRun.next, isPending]
      exact executed.progress found all.ge
  | copy index =>
      obtain ⟨isMapped, queued⟩ := enabled
      obtain ⟨write, found, isQueued⟩ := Option.map_eq_some_iff.mp queued
      simp only [FileRun.next, found]
      obtain ⟨chunk, state⟩ := write
      dsimp only at isQueued
      subst isQueued
      obtain ⟨sized, supported⟩ := mapped isMapped
      have length : run.file.length = total := by
        have grows := executed.grows
        have bounded := executed.bounded
        omega
      have member := executed.member found
      have fits := partition.fits _ member
      have within := partition.within _ member
      dsimp only at fits within
      have copied := MmapWriter.executeWrite_eq (length ▸ supported) fits (length ▸ within)
      have none : HandedWrite.written ⟨chunk, .queued⟩ = 0 := rfl
      have all : HandedWrite.written ⟨chunk, .completed true⟩ = 0 + chunk.data.length :=
        (Nat.zero_add _).symm
      have stored := executed.stores partition found none (Nat.zero_add _).le all
      simp only [FileRun.copy, copied]
      rw [← @Segment.writeAt_eq_overwrite _ 0 _ _ _ (by omega)]
      simpa only [Nat.add_zero, List.drop_zero, List.take_length] using stored
  | finalize =>
      exact ⟨executed.handed, executed.grows, executed.bounded, executed.started,
        executed.content⟩

/-- What a run of one backend keeps: which backend it is, and what is executed. -/
structure ExecutedBy (kind : FileRangeWriterKind) (opened : Bytes) (total : Nat)
    (chunks : List Chunk) (run : FileRun)
    : Prop where
  ofKind : run.kind = kind
  executed : run.Executed opened total chunks

/-- No step turns a backend into another one. -/
theorem next_kind (usizeSize : Nat) (run : FileRun) (event : FileEvent)
    : (run.next usizeSize event).kind = run.kind := by
  cases event with
  | take index =>
      dsimp only [FileRun.next]
      split <;> rfl
  | writeAt index answer =>
      dsimp only [FileRun.next]
      split
      · rcases answer with (_ | count) | _ | _ <;> rfl
      · rfl
  | written index =>
      dsimp only [FileRun.next]
      split <;> rfl
  | copy index =>
      dsimp only [FileRun.next]
      split
      · dsimp only [FileRun.copy]
        split <;> rfl
      · rfl
  | finalize => rfl

/-- Whatever the order and interleaving of the writes, by induction on the run. -/
theorem reachable_executed {kind : FileRangeWriterKind} (partition : Partition total chunks)
    (mapped
      : kind = .mmap
        → opened.length = total ∧ MmapWriter.isSupported usizeSize total = true)
    (reached : ((machine usizeSize).startingAt (.new kind opened chunks)).Reachable run)
    : run.ExecutedBy kind opened total chunks := by
  apply reached.invariant
  · rintro start rfl
    exact ⟨rfl, Executed.new kind opened total chunks⟩
  · intro before event after _ kept step
    cases step.next
    have sameKind := next_kind usizeSize before event
    have mappedHere (isMapped : before.kind = .mmap) := mapped (kept.ofKind.symm.trans isMapped)
    exact ⟨sameKind.trans kept.ofKind, kept.executed.next partition mappedHere step.enabled⟩

/-- Once every write is executed, the file is as long as the longer of the file opened and
the file to make.
-/
theorem Executed.length (executed : run.Executed opened total chunks)
    (partition : Partition total chunks)
    (all : ∀ write ∈ run.writes, write.state = .completed true)
    : run.file.length = max opened.length total := by
  have grows := executed.grows
  have bounded := executed.bounded
  have reaches : total ≤ run.file.length := by
    rcases Nat.eq_zero_or_pos total with empty | some
    · omega
    · obtain ⟨chunk, member, starts, stops⟩ := partition.covers (total - 1) (by omega)
      have fits := partition.fits chunk member
      rw [← executed.handed] at member
      obtain ⟨write, handed, rfl⟩ := List.mem_map.mp member
      obtain ⟨index, found⟩ := List.getElem?_of_mem handed
      have isWritten : write.written = write.chunk.data.length := by
        rw [HandedWrite.written, all write handed]
      have last : total - 1 - write.chunk.range.start < write.written := by omega
      have present := executed.present found last
      omega
  omega

/-- Once every write is executed, the file is exact unless it was opened too long. -/
theorem Executed.exact_iff (executed : run.Executed opened total chunks)
    (partition : Partition total chunks)
    (all : ∀ write ∈ run.writes, write.state = .completed true)
    : ExactFile total chunks run.file ↔ opened.length ≤ total := by
  have length := executed.length partition all
  constructor
  · intro exact
    have sized := exact.length
    omega
  · intro short
    refine ⟨by omega, fun chunk member offset inside => ?_⟩
    rw [← executed.handed] at member
    obtain ⟨write, handed, rfl⟩ := List.mem_map.mp member
    obtain ⟨index, found⟩ := List.getElem?_of_mem handed
    apply executed.content index write found
    rw [HandedWrite.written, all write handed]
    exact inside

/-- `open_file` sets the size of the file, so only the backend that opens the file without
it leaves what an earlier attempt wrote behind the end.
-/
theorem opened_short_iff {kind : FileRangeWriterKind} {prior : Option Bytes}
    (isOpened : openedWithKind usizeSize kind prior total = some opened)
    : opened.length ≤ total
      ↔ (kind = .compio → ∀ content ∈ prior, content.length ≤ total) := by
  cases kind with
  | mmap =>
      unfold openedWithKind at isOpened
      dsimp only at isOpened
      split at isOpened
      · cases isOpened
        exact ⟨(fun _ never => by cases never), fun _ => (Segment.length_resize _ _ _).le⟩
      · cases isOpened
  | pool =>
      cases isOpened
      exact ⟨(fun _ never => by cases never), fun _ => (Segment.length_resize _ _ _).le⟩
  | compio =>
      cases isOpened
      cases prior with
      | none => exact ⟨(fun _ _ _ never => by cases never), fun _ => Nat.zero_le _⟩
      | some content =>
          constructor
          · intro short _ other same
            cases same
            exact short
          · intro short
            exact short rfl content rfl

/-- The file of the mapped backend has its full size from the start. -/
theorem mapped_sized {kind : FileRangeWriterKind} {prior : Option Bytes}
    (isOpened : openedWithKind usizeSize kind prior total = some opened)
    (isMapped : kind = .mmap)
    : opened.length = total ∧ MmapWriter.isSupported usizeSize total = true := by
  subst isMapped
  unfold openedWithKind at isOpened
  dsimp only at isOpened
  split at isOpened
  · rename_i supported
    cases isOpened
    exact ⟨Segment.length_resize _ _ _, supported⟩
  · cases isOpened

/-- Whatever the path held, a file whose writes all completed is the exact one, the same for
every backend, unless it was opened without setting its size and held more than it should.
It is so before the backend is finalized already.
-/
theorem exact_file {kind : FileRangeWriterKind} {prior : Option Bytes}
    (partition : Partition total chunks)
    (isOpened : openedWithKind usizeSize kind prior total = some opened)
    (reached : ((machine usizeSize).startingAt (.new kind opened chunks)).Reachable run)
    (all : ∀ write ∈ run.writes, write.state = .completed true)
    : (ExactFile total chunks run.file ∧ ∀ file, ExactFile total chunks file → file = run.file)
      ↔ (kind = .compio → ∀ content ∈ prior, content.length ≤ total) := by
  have executed := (reachable_executed partition (mapped_sized isOpened) reached).executed
  rw [← opened_short_iff isOpened, ← executed.exact_iff partition all]
  constructor
  · exact And.left
  · intro exact
    exact ⟨exact, fun file other => other.unique partition exact⟩

/-- Two chunks that partition three bytes. -/
def twoChunks : List Chunk := [⟨⟨0, 2⟩, [1, 2]⟩, ⟨⟨2, 3⟩, [3]⟩]

theorem twoChunks_partition : Partition 3 twoChunks where
  fits := by decide
  within := by decide
  apart := by
    rw [twoChunks, List.map, List.map, List.map, List.pairwise_pair]
    intro point inside outside
    exact absurd (Nat.lt_of_lt_of_le inside.2 outside.1) (Nat.lt_irrefl _)
  covers := by decide

/-- The writes executed out of order, one of them in two parts. -/
def twoChunksEvents : List FileEvent :=
  [.take 1, .take 0, .writeAt 0 (.wrote 1), .writeAt 1 (.wrote 1), .writeAt 0 .interrupted,
    .written 1, .writeAt 0 (.wrote 1), .written 0, .finalize]

/-- What an earlier attempt left behind the end is cut off. -/
theorem exact_file_pool
    : ∃ run,
        (machine u64Size).execute (.new .pool [9, 9, 9] twoChunks) twoChunksEvents = some run
        ∧ run.finalized = true
        ∧ ExactFile 3 twoChunks run.file := by
  obtain ⟨run, executed, finalized, all⟩
      : ∃ run,
          ((machine u64Size).startingAt (.new .pool [9, 9, 9] twoChunks)).execute
            (.new .pool [9, 9, 9] twoChunks) twoChunksEvents
          = some run
          ∧ run.finalized = true
          ∧ ∀ write ∈ run.writes, write.state = .completed true := by
    refine ⟨_, rfl, ?_⟩
    decide
  have opened : openedWithKind u64Size .pool (some [9, 9, 9, 9, 9]) 3 = some [9, 9, 9] := rfl
  have reached := Machine.Reachable.execute (.initial rfl) twoChunksEvents executed
  have exact := exact_file twoChunks_partition opened reached all
  exact ⟨run, executed, finalized, (exact.mpr (fun never => by cases never)).1⟩

/-- The same writes, over a longer file opened without setting its size: its end stays. -/
theorem exact_file_longer
    : Partition 3 twoChunks
      ∧ openedWithKind u64Size .compio (some [9, 9, 9, 9, 9]) 3 = some [9, 9, 9, 9, 9]
      ∧ ∃ run,
          ((machine u64Size).startingAt (.new .compio [9, 9, 9, 9, 9] twoChunks)).Reachable run
          ∧ run.finalized = true
          ∧ (∀ write ∈ run.writes, write.state = .completed true)
          ∧ run.file = [1, 2, 3, 9, 9]
          ∧ ¬ ExactFile 3 twoChunks run.file := by
  obtain ⟨run, executed, finalized, all, file⟩
      : ∃ run,
          ((machine u64Size).startingAt (.new .compio [9, 9, 9, 9, 9] twoChunks)).execute
            (.new .compio [9, 9, 9, 9, 9] twoChunks) twoChunksEvents
          = some run
          ∧ run.finalized = true
          ∧ (∀ write ∈ run.writes, write.state = .completed true)
          ∧ run.file = [1, 2, 3, 9, 9] := by
    refine ⟨_, rfl, ?_⟩
    decide
  have reached := Machine.Reachable.execute (.initial rfl) twoChunksEvents executed
  refine ⟨twoChunks_partition, rfl, run, reached, finalized, all, file, ?_⟩
  intro exact
  have sized := exact.length
  rw [file] at sized
  cases sized

end FileRun

end BoltLoad
