import BoltLoad.ChunkPlanner.Model

/-! The representation invariant of the chunk planner and the four ways its operations
change the chunks: replacing one in place, releasing its runner, removing one and adding
one. Each keeps the invariant once, and the operations follow.
-/

namespace BoltLoad

open OrderedMap

namespace ChunkState

/-- A chunk is nonempty, lies within the file, and is downloaded from its start on. -/
structure Shaped (chunk : ChunkState) (total : Nat) : Prop where
  nonempty : chunk.allocated.start < chunk.allocated.stop
  inside : chunk.allocated.stop ≤ total
  anchored : chunk.downloaded.start = chunk.allocated.start
  started : chunk.downloaded.start ≤ chunk.downloaded.stop
  bounded : chunk.downloaded.stop ≤ chunk.allocated.stop

theorem Shaped.remaining_eq {chunk : ChunkState} {total : Nat} (shaped : chunk.Shaped total)
    : chunk.remaining = .ok (chunk.allocated.stop - chunk.downloaded.stop) :=
  Checked.sub_eq shaped.bounded

/-- A chunk is complete exactly when it is downloaded up to the end of its allocation. -/
theorem Shaped.isComplete_iff {chunk : ChunkState} {total : Nat}
    (shaped : chunk.Shaped total)
    : chunk.isComplete = true ↔ chunk.downloaded.stop = chunk.allocated.stop := by
  have bounded := shaped.bounded
  simp only [isComplete, decide_eq_true_eq, ge_iff_le]
  omega

/-- A new chunk of a nonempty range within the file is shaped. -/
theorem shaped_new {range : Range} {total : Nat} (nonempty : range.start < range.stop)
    (inside : range.stop ≤ total) (runnerId : Option RunnerId) (status : ChunkStatus)
    : (ChunkState.new range runnerId status).Shaped total where
  nonempty := nonempty
  inside := inside
  anchored := rfl
  started := le_refl _
  bounded := nonempty.le

end ChunkState

namespace ChunkPlanner

/-- The representation invariant: chunks are keyed by their start, shaped and in order;
mapped runners point at chunks of theirs, active chunks are mapped, and the accepted
bytes are those of all chunks together.
-/
structure WellFormed (planner : ChunkPlanner) : Prop where
  representable : planner.total < u64Size
  keyed : ∀ {start chunk}, planner.chunks.get? start = some chunk → chunk.allocated.start = start
  shaped : ∀ {start chunk}, planner.chunks.get? start = some chunk → chunk.Shaped planner.total
  apart
    : ∀ {first left second right},
        planner.chunks.get? first = some left
        → planner.chunks.get? second = some right
        → first < second
        → left.allocated.stop ≤ second
  mapped
    : ∀ {runnerId start},
        planner.runnerToChunk.get? runnerId = some start
        → ∃ chunk, planner.chunks.get? start = some chunk ∧ chunk.runnerId = some runnerId
  active
    : ∀ {start chunk},
        planner.chunks.get? start = some chunk
        → chunk.status.isActive = true
        → ∃ runnerId,
            chunk.runnerId = some runnerId ∧ planner.runnerToChunk.get? runnerId = some start
  accounted : planner.acceptedBytes = planner.chunks.sumBy (fun chunk => chunk.downloaded.len)

/-- A planner over any representable total starts out well formed. -/
theorem WellFormed.new {total : Nat} (representable : total < u64Size)
    : (ChunkPlanner.new total).WellFormed where
  representable := representable
  keyed found := by cases found
  shaped found := by cases found
  apart found := by cases found
  mapped found := by cases found
  active found := by cases found
  accounted := rfl

-----------------------------------------------------------------------------------------
-- Reading a well-formed planner
-----------------------------------------------------------------------------------------

/-- The allocated ranges, in key order, ascend within the file. -/
theorem WellFormed.ascending {planner : ChunkPlanner} (wf : planner.WellFormed)
    : HalfOpen.Ascending 0 planner.total (planner.chunks.values.map ChunkState.allocated) := by
  refine HalfOpen.ascending_of_pairwise (Nat.zero_le _) ?_ ?_
  · intro range member
    obtain ⟨chunk, listed, rfl⟩ := List.mem_map.mp member
    obtain ⟨start, found⟩ := mem_values_iff.mp listed
    have shaped := wf.shaped found
    exact ⟨Nat.zero_le _, shaped.nonempty, shaped.inside⟩
  · simp only [values, List.map_map, List.pairwise_map]
    refine planner.chunks.ordered.imp_of_mem (fun leftMember rightMember less => ?_)
    have left := get?_eq_some_iff.mpr leftMember
    have right := get?_eq_some_iff.mpr rightMember
    exact (wf.apart left right less).trans (wf.keyed right).ge

/-- Accepted bytes never exceed the file: they are parts of ascending ranges within it. -/
theorem WellFormed.acceptedBytes_le {planner : ChunkPlanner} (wf : planner.WellFormed)
    : planner.acceptedBytes ≤ planner.total := by
  have bound := wf.ascending.sum_le planner.chunks.values ChunkState.allocated
    (fun chunk => chunk.downloaded.len) rfl (fun chunk member => by
      obtain ⟨start, found⟩ := mem_values_iff.mp member
      have shaped := wf.shaped found
      have anchored := shaped.anchored
      have bounded := shaped.bounded
      simp only [HalfOpen.len]
      omega)
  rw [wf.accounted, sumBy]
  simpa [values, Function.comp_def] using bound

/-- A chunk is determined by any point its allocation holds. -/
theorem WellFormed.start_unique {planner : ChunkPlanner} (wf : planner.WellFormed)
    {first second : Nat} {left right : ChunkState}
    (leftFound : planner.chunks.get? first = some left)
    (rightFound : planner.chunks.get? second = some right)
    {point : Nat} (inLeft : point ∈ left.allocated) (inRight : point ∈ right.allocated)
    : first = second := by
  have leftKey := wf.keyed leftFound
  have rightKey := wf.keyed rightFound
  simp only [HalfOpen.mem_iff] at inLeft inRight
  rcases lt_trichotomy first second with less | same | greater
  · have := wf.apart leftFound rightFound less
    omega
  · exact same
  · have := wf.apart rightFound leftFound greater
    omega

/-- The chunk the planner maps a runner to. -/
structure Owns (planner : ChunkPlanner) (runnerId : RunnerId) (chunk : ChunkState) : Prop where
  mapped : planner.runnerToChunk.get? runnerId = some chunk.allocated.start
  found : planner.chunks.get? chunk.allocated.start = some chunk

/-- Every mapped runner owns a chunk that names it. -/
theorem WellFormed.owns {planner : ChunkPlanner} (wf : planner.WellFormed)
    {runnerId : RunnerId} {start : Nat}
    (mapped : planner.runnerToChunk.get? runnerId = some start)
    : ∃ chunk,
        planner.Owns runnerId chunk ∧ chunk.allocated.start = start ∧ chunk.runnerId = some runnerId := by
  obtain ⟨chunk, found, named⟩ := wf.mapped mapped
  have key := wf.keyed found
  exact ⟨chunk, ⟨key.symm ▸ mapped, key.symm ▸ found⟩, key, named⟩

theorem Owns.unique {planner : ChunkPlanner} {runnerId : RunnerId} {left right : ChunkState}
    (leftOwned : planner.Owns runnerId left) (rightOwned : planner.Owns runnerId right)
    : left = right := by
  have sameStart := Option.some.inj (leftOwned.mapped.symm.trans rightOwned.mapped)
  have found := leftOwned.found
  rw [sameStart] at found
  exact Option.some.inj (found.symm.trans rightOwned.found)

theorem Owns.named {planner : ChunkPlanner} (wf : planner.WellFormed) {runnerId : RunnerId}
    {chunk : ChunkState} (owned : planner.Owns runnerId chunk)
    : chunk.runnerId = some runnerId := by
  obtain ⟨other, found, named⟩ := wf.mapped owned.mapped
  exact Option.some.inj (found.symm.trans owned.found) ▸ named

/-- A runner's state is the chunk it owns. -/
theorem getRunnerState_eq_some_iff {planner : ChunkPlanner} (wf : planner.WellFormed)
    {runnerId : RunnerId} {chunk : ChunkState}
    : planner.getRunnerState runnerId = some chunk ↔ planner.Owns runnerId chunk := by
  unfold getRunnerState
  constructor
  · intro state
    obtain ⟨start, mapped, found⟩ := Option.bind_eq_some_iff.mp state
    have key := wf.keyed found
    exact ⟨key.symm ▸ mapped, key.symm ▸ found⟩
  · intro owned
    exact Option.bind_eq_some_iff.mpr ⟨_, owned.mapped, owned.found⟩

/-- Two runners never own the same chunk: the chunk names its runner. -/
theorem WellFormed.runner_unique {planner : ChunkPlanner} (wf : planner.WellFormed)
    {left right : RunnerId} {start : Nat}
    (leftMapped : planner.runnerToChunk.get? left = some start)
    (rightMapped : planner.runnerToChunk.get? right = some start)
    : left = right := by
  obtain ⟨leftChunk, leftFound, leftNamed⟩ := wf.mapped leftMapped
  obtain ⟨rightChunk, rightFound, rightNamed⟩ := wf.mapped rightMapped
  cases Option.some.inj (leftFound.symm.trans rightFound)
  exact Option.some.inj (leftNamed.symm.trans rightNamed)

-----------------------------------------------------------------------------------------
-- Changing one chunk
-----------------------------------------------------------------------------------------

section Replace

variable {planner : ChunkPlanner} {chunk replacement : ChunkState}

/-- `replacement` may stand where `chunk` stood: it starts there, ends no later, and
counts its own downloaded bytes in `accepted`.
-/
structure Replaces (planner : ChunkPlanner) (chunk replacement : ChunkState)
    (accepted : Nat)
    : Prop where
  found : planner.chunks.get? chunk.allocated.start = some chunk
  shaped : replacement.Shaped planner.total
  start : replacement.allocated.start = chunk.allocated.start
  stop : replacement.allocated.stop ≤ chunk.allocated.stop
  accounted : accepted + chunk.downloaded.len = planner.acceptedBytes + replacement.downloaded.len

/-- Replacing a chunk in place changes no other lookup. -/
theorem get?_replace {start : Nat} {found : ChunkState}
    : (planner.chunks.insert chunk.allocated.start replacement).get? start = some found
      ↔ (start = chunk.allocated.start ∧ replacement = found)
        ∨ (start ≠ chunk.allocated.start ∧ planner.chunks.get? start = some found) := by
  rw [get?_insert]
  split
  · rename_i same
    simp [same]
  · rename_i distinct
    simp [distinct]

theorem Replaces.accounted_eq {accepted : Nat} (wf : planner.WellFormed)
    (fits : planner.Replaces chunk replacement accepted)
    : accepted
      = (planner.chunks.insert chunk.allocated.start replacement).sumBy
          (fun chunk => chunk.downloaded.len) := by
  have total := sumBy_of_get? fits.found (fun chunk => chunk.downloaded.len)
  have inserted := sumBy_insert planner.chunks chunk.allocated.start replacement
    (fun chunk => chunk.downloaded.len)
  have accounted := fits.accounted
  have before := wf.accounted
  omega

/-- Replacing a chunk keeps the invariant when its runner still owns it if it is active,
and every runner still mapped is named by its chunk.
-/
theorem WellFormed.replace {accepted : Nat} {runnerToChunk : OrderedMap RunnerId Nat}
    (wf : planner.WellFormed) (fits : planner.Replaces chunk replacement accepted)
    (mapped
      : ∀ {runnerId start},
          runnerToChunk.get? runnerId = some start
          → planner.runnerToChunk.get? runnerId = some start
            ∧ (start = chunk.allocated.start → replacement.runnerId = some runnerId))
    (kept
      : ∀ {runnerId start},
          planner.runnerToChunk.get? runnerId = some start
          → start ≠ chunk.allocated.start ∨ replacement.status.isActive = true
          → runnerToChunk.get? runnerId = some start)
    (active
      : replacement.status.isActive = true
        → ∃ runnerId,
            replacement.runnerId = some runnerId
            ∧ planner.runnerToChunk.get? runnerId = some chunk.allocated.start)
    : ChunkPlanner.WellFormed
        { planner with
          chunks := planner.chunks.insert chunk.allocated.start replacement
          runnerToChunk
          acceptedBytes := accepted } where
  representable := wf.representable
  keyed found := by
    rcases get?_replace.mp found with ⟨same, rfl⟩ | ⟨-, old⟩
    · exact fits.start.trans same.symm
    · exact wf.keyed old
  shaped found := by
    rcases get?_replace.mp found with ⟨-, rfl⟩ | ⟨-, old⟩
    · exact fits.shaped
    · exact wf.shaped old
  apart leftFound rightFound less := by
    rcases get?_replace.mp leftFound with ⟨leftSame, rfl⟩ | ⟨-, leftOld⟩
    · rcases get?_replace.mp rightFound with ⟨rightSame, -⟩ | ⟨-, rightOld⟩
      · exact absurd (leftSame.trans rightSame.symm) less.ne
      · exact fits.stop.trans (wf.apart (leftSame ▸ fits.found) rightOld less)
    · rcases get?_replace.mp rightFound with ⟨rightSame, -⟩ | ⟨-, rightOld⟩
      · exact wf.apart leftOld (rightSame ▸ fits.found) less
      · exact wf.apart leftOld rightOld less
  mapped {runnerId start} found := by
    obtain ⟨old, named⟩ := mapped found
    by_cases same : start = chunk.allocated.start
    · exact ⟨replacement, get?_replace.mpr (.inl ⟨same, rfl⟩), named same⟩
    · obtain ⟨other, stored, otherNamed⟩ := wf.mapped old
      exact ⟨other, get?_replace.mpr (.inr ⟨same, stored⟩), otherNamed⟩
  active found isActive := by
    rcases get?_replace.mp found with ⟨same, rfl⟩ | ⟨distinct, old⟩
    · obtain ⟨runnerId, named, owner⟩ := active isActive
      exact ⟨runnerId, named, (kept owner (.inr isActive)).trans (congrArg some same.symm)⟩
    · obtain ⟨runnerId, named, owner⟩ := wf.active old isActive
      exact ⟨runnerId, named, kept owner (.inl distinct)⟩
  accounted := fits.accounted_eq wf

/-- Replacing a runner's chunk by one of the same runner keeps the invariant. -/
theorem WellFormed.replaceOwned {accepted : Nat} {runnerId : RunnerId}
    (wf : planner.WellFormed) (owned : planner.Owns runnerId chunk)
    (fits : planner.Replaces chunk replacement accepted)
    (named : replacement.runnerId = chunk.runnerId)
    : ChunkPlanner.WellFormed
        { planner with
          chunks := planner.chunks.insert chunk.allocated.start replacement
          acceptedBytes := accepted } := by
  have owner := named.trans (owned.named wf)
  refine wf.replace fits (fun found => ⟨found, ?_⟩) (fun found _ => found)
    (fun _ => ⟨runnerId, owner, owned.mapped⟩)
  rintro rfl
  exact wf.runner_unique owned.mapped found ▸ owner

/-- Replacing a runner's chunk by an inactive one and forgetting the runner keeps the
invariant.
-/
theorem WellFormed.replaceReleased {accepted : Nat} {runnerId : RunnerId}
    (wf : planner.WellFormed) (owned : planner.Owns runnerId chunk)
    (fits : planner.Replaces chunk replacement accepted)
    (inactive : replacement.status.isActive = false)
    : ChunkPlanner.WellFormed
        { planner with
          chunks := planner.chunks.insert chunk.allocated.start replacement
          runnerToChunk := planner.runnerToChunk.erase runnerId
          acceptedBytes := accepted } := by
  refine wf.replace fits ?_ ?_ (fun isActive => by simp [inactive] at isActive)
  · intro other start found
    rw [get?_erase] at found
    split at found
    · cases found
    · rename_i distinct
      refine ⟨found, ?_⟩
      rintro rfl
      exact absurd (wf.runner_unique found owned.mapped) distinct
  · intro other start found keeps
    have distinct : other ≠ runnerId := by
      rintro rfl
      rcases keeps with moved | isActive
      · exact moved (Option.some.inj (found.symm.trans owned.mapped))
      · simp [inactive] at isActive
    exact (get?_erase_of_ne _ distinct).trans found

end Replace

/-- Removing a runner's chunk of which nothing is downloaded, and forgetting the runner,
keeps the invariant.
-/
theorem WellFormed.remove {planner : ChunkPlanner} {runnerId : RunnerId} {chunk : ChunkState}
    (wf : planner.WellFormed) (owned : planner.Owns runnerId chunk)
    (untouched : chunk.downloaded.start = chunk.downloaded.stop)
    : ChunkPlanner.WellFormed
        { planner with
          chunks := planner.chunks.erase chunk.allocated.start
          runnerToChunk := planner.runnerToChunk.erase runnerId } := by
  have old {start found} (stored : (planner.chunks.erase chunk.allocated.start).get? start = some found)
      : start ≠ chunk.allocated.start ∧ planner.chunks.get? start = some found := by
    rw [get?_erase] at stored
    split at stored
    · cases stored
    · rename_i distinct
      exact ⟨distinct, stored⟩
  refine {
    representable := wf.representable
    keyed := fun found => wf.keyed (old found).2
    shaped := fun found => wf.shaped (old found).2
    apart := fun left right => wf.apart (old left).2 (old right).2
    mapped := ?_
    active := ?_
    accounted := ?_
  }
  · intro other start found
    rw [get?_erase] at found
    split at found
    · cases found
    · rename_i distinct
      obtain ⟨kept, stored, named⟩ := wf.mapped found
      have moved : start ≠ chunk.allocated.start := by
        rintro rfl
        exact distinct (wf.runner_unique found owned.mapped)
      exact ⟨kept, (get?_erase_of_ne _ moved).trans stored, named⟩
  · intro start found stored isActive
    obtain ⟨distinct, kept⟩ := old stored
    obtain ⟨owner, named, mapped⟩ := wf.active kept isActive
    have other : owner ≠ runnerId := by
      rintro rfl
      exact distinct (Option.some.inj (mapped.symm.trans owned.mapped))
    exact ⟨owner, named, (get?_erase_of_ne _ other).trans mapped⟩
  · have total := sumBy_of_get? owned.found (fun chunk => chunk.downloaded.len)
    have accounted := wf.accounted
    simp only [HalfOpen.len, untouched, Nat.sub_self, Nat.zero_add] at total accounted ⊢
    omega

/-- A range no chunk reaches into. -/
structure Free (planner : ChunkPlanner) (range : Range) : Prop where
  nonempty : range.start < range.stop
  inside : range.stop ≤ planner.total
  apart
    : ∀ {start chunk},
        planner.chunks.get? start = some chunk
        → chunk.allocated.stop ≤ range.start ∨ range.stop ≤ start

/-- Adding a chunk of a free range keeps the invariant, for a runner not mapped yet or for
none.
-/
theorem WellFormed.add {planner : ChunkPlanner} (wf : planner.WellFormed) {range : Range}
    (free : planner.Free range) (runnerId : Option RunnerId) (status : ChunkStatus)
    (fresh : ∀ id, runnerId = some id → planner.runnerToChunk.get? id = none)
    (owner : status.isActive = true → runnerId.isSome = true)
    : (planner.addChunk range runnerId status).WellFormed := by
  have vacant {start chunk} (found : planner.chunks.get? start = some chunk)
      : start ≠ range.start := by
    rintro rfl
    have key := wf.keyed found
    have nonempty := (wf.shaped found).nonempty
    have apart := free.apart found
    have range_nonempty := free.nonempty
    omega
  have cases_of {start found} (stored
      : (planner.chunks.insert range.start (ChunkState.new range runnerId status)).get? start
        = some found)
      : (start = range.start ∧ ChunkState.new range runnerId status = found)
        ∨ planner.chunks.get? start = some found := by
    rw [get?_insert] at stored
    split at stored
    · rename_i same
      exact .inl ⟨same, Option.some.inj stored⟩
    · exact .inr stored
  have keep {start found} (stored : planner.chunks.get? start = some found)
      : (planner.chunks.insert range.start (ChunkState.new range runnerId status)).get? start
        = some found :=
    (get?_insert_of_ne _ _ (vacant stored)).trans stored
  refine {
    representable := wf.representable
    keyed := ?_
    shaped := ?_
    apart := ?_
    mapped := ?_
    active := ?_
    accounted := ?_
  }
  · intro start found stored
    rcases cases_of stored with ⟨same, rfl⟩ | old
    · exact same.symm
    · exact wf.keyed old
  · intro start found stored
    rcases cases_of stored with ⟨-, rfl⟩ | old
    · exact ChunkState.shaped_new free.nonempty free.inside _ _
    · exact wf.shaped old
  · intro first left second right leftStored rightStored less
    rcases cases_of leftStored with ⟨leftSame, rfl⟩ | leftOld
    · rcases cases_of rightStored with ⟨rightSame, -⟩ | rightOld
      · exact absurd (leftSame.trans rightSame.symm) less.ne
      · have shaped := wf.shaped rightOld
        have key := wf.keyed rightOld
        have nonempty := shaped.nonempty
        have apart := free.apart rightOld
        simp only [ChunkState.new]
        omega
    · rcases cases_of rightStored with ⟨rightSame, -⟩ | rightOld
      · have apart := free.apart leftOld
        have nonempty := free.nonempty
        omega
      · exact wf.apart leftOld rightOld less
  · intro id start found
    cases runnerId with
    | none =>
        obtain ⟨chunk, stored, named⟩ := wf.mapped found
        exact ⟨chunk, keep stored, named⟩
    | some new =>
        simp only [addChunk, get?_insert] at found
        split at found
        · rename_i same
          cases found
          exact ⟨_, get?_insert_self _ _ _, same ▸ rfl⟩
        · obtain ⟨chunk, stored, named⟩ := wf.mapped found
          exact ⟨chunk, keep stored, named⟩
  · intro start found stored isActive
    rcases cases_of stored with ⟨same, rfl⟩ | old
    · obtain ⟨id, named⟩ := Option.isSome_iff_exists.mp (owner isActive)
      subst named
      exact ⟨id, rfl, same ▸ get?_insert_self _ _ _⟩
    · obtain ⟨id, named, mapped⟩ := wf.active old isActive
      refine ⟨id, named, ?_⟩
      cases runnerId with
      | none => exact mapped
      | some new =>
          have distinct : id ≠ new := by
            rintro rfl
            simp [fresh id rfl] at mapped
          exact (get?_insert_of_ne _ _ distinct).trans mapped
  · have missing : planner.chunks.get? range.start = none := by
      cases stored : planner.chunks.get? range.start with
      | none => rfl
      | some chunk => exact absurd rfl (vacant stored)
    have inserted := sumBy_insert planner.chunks range.start
      (ChunkState.new range runnerId status) (fun chunk => chunk.downloaded.len)
    rw [erase_of_get?_none missing] at inserted
    have accounted := wf.accounted
    simp only [addChunk, ChunkState.new, HalfOpen.len, Nat.sub_self, Nat.zero_add]
      at inserted accounted ⊢
    omega

end ChunkPlanner

end BoltLoad
