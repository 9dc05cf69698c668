import BoltLoad.Library.Machine
import BoltLoad.RunnerManager.Generator

/-! The identifier generator over every history of its calls. A ghost list holds the live
identifiers: those that `next` returned and that were not released since. The bits, the hint
and the count of the generator always agree with it.
-/

namespace BoltLoad

/-- A generator with the identifiers that are live. -/
structure GeneratorRun where
  generator : Generator
  live : List RunnerId
  deriving DecidableEq

inductive GeneratorCall
  | next
  /-- Any identifier may be released, whether it is live or not. -/
  | release (id : RunnerId)
  deriving DecidableEq

namespace GeneratorRun

def new (capacity : Nat) : GeneratorRun := ⟨.new capacity, []⟩

def step (run : GeneratorRun) : GeneratorCall → Checked GeneratorRun
  | .next =>
    match run.generator.next with
    | some (id, generator) => pure ⟨generator, id :: run.live⟩
    | none => pure run
  | .release id => do
    let (_, generator) ← run.generator.release id
    pure ⟨generator, run.live.erase id⟩

/-- Every history of calls. -/
def machine (capacity : Nat) : Machine GeneratorRun GeneratorCall Panic where
  Initial run := run = .new capacity
  Enabled _ _ := True
  next := step

instance (capacity : Nat) (run : GeneratorRun) (call : GeneratorCall)
    : Decidable ((machine capacity).Enabled run call) :=
  inferInstanceAs (Decidable True)

-----------------------------------------------------------------------------------------
-- What every history keeps
-----------------------------------------------------------------------------------------

/-- The generator agrees with the live identifiers. -/
structure Tracks (capacity : Nat) (run : GeneratorRun) : Prop where
  bits : run.generator.capacity = capacity
  consistent : run.generator.Consistent
  /-- Without a capacity, the hint stays zero. -/
  hint : run.generator.nextFreeHint < max capacity 1
  distinct : run.live.Nodup
  live : ∀ id, id ∈ run.live ↔ run.generator.isAllocated id = true

variable {capacity : Nat} {run after : GeneratorRun} {id : RunnerId}

theorem Tracks.new (capacity : Nat) : (new capacity).Tracks capacity where
  bits := Generator.capacity_new capacity
  consistent := Generator.consistent_new capacity
  hint := lt_max_of_lt_right Nat.zero_lt_one
  distinct := List.nodup_nil
  live id := by simp [GeneratorRun.new, Generator.isAllocated_new]

/-- The hint follows the identifier that was found. -/
theorem next_hint {generator after : Generator} (allocates : generator.next = some (id, after))
    : after.nextFreeHint < generator.capacity := by
  unfold Generator.next at allocates
  split at allocates
  · cases allocates
  · rename_i room
    obtain ⟨round, -, same⟩ := Option.map_eq_some_iff.mp allocates
    cases same
    exact Nat.mod_lt _ (Nat.zero_lt_of_lt (not_le.mp room))

/-- A found identifier was free, and only its allocation changed. -/
theorem Tracks.found (tracks : run.Tracks capacity) {generator : Generator}
    (allocates : run.generator.next = some (id, generator))
    : run.generator.Allocates id generator ∧ id < capacity ∧ id ∉ run.live := by
  have room : run.generator.allocatedCount < run.generator.capacity := by
    by_contra full
    rw [Generator.next_of_full (not_lt.mp full)] at allocates
    cases allocates
  obtain ⟨_, _, same, allocated⟩ := Generator.next_of_room tracks.consistent room
  cases allocates.symm.trans same
  refine ⟨allocated, ?_, ?_⟩
  · have inside := Generator.lt_capacity_of_isAllocated ((allocated.allocated id).mpr (Or.inl rfl))
    rwa [allocated.capacity, tracks.bits] at inside
  · rw [tracks.live, allocated.free]
    exact Bool.false_ne_true

theorem Tracks.next (tracks : run.Tracks capacity) {generator : Generator}
    (allocates : run.generator.next = some (id, generator))
    : (⟨generator, id :: run.live⟩ : GeneratorRun).Tracks capacity := by
  obtain ⟨allocated, -, dead⟩ := tracks.found allocates
  refine ⟨allocated.capacity.trans tracks.bits, allocated.consistent, ?_,
    List.nodup_cons.mpr ⟨dead, tracks.distinct⟩, fun other => ?_⟩
  · exact lt_max_of_lt_left (tracks.bits ▸ next_hint allocates)
  · rw [allocated.allocated, List.mem_cons, tracks.live]

theorem Tracks.release (tracks : run.Tracks capacity) (isLive : id ∈ run.live)
    : (⟨run.generator.released id, run.live.erase id⟩ : GeneratorRun).Tracks capacity := by
  have allocated := (tracks.live id).mp isLive
  obtain ⟨-, releases⟩ := Generator.release_of_allocated tracks.consistent allocated
  refine ⟨releases.capacity.trans tracks.bits, releases.consistent, ?_,
    tracks.distinct.erase id, fun other => ?_⟩
  · have hint := tracks.hint
    dsimp only [Generator.released]
    split
    · rename_i earlier
      exact earlier.trans hint
    · exact hint
  · rw [releases.allocated, tracks.distinct.mem_erase_iff, tracks.live]

/-- Every call of a tracked generator succeeds and keeps it tracked. -/
theorem Tracks.step (tracks : run.Tracks capacity) (call : GeneratorCall)
    : ∃ after, run.step call = .ok after ∧ after.Tracks capacity := by
  cases call with
  | next =>
      cases allocates : run.generator.next with
      | none => exact ⟨run, by simp only [GeneratorRun.step, allocates]; rfl, tracks⟩
      | some found =>
          exact ⟨_, by simp only [GeneratorRun.step, allocates]; rfl, tracks.next allocates⟩
  | release id =>
      by_cases isLive : id ∈ run.live
      · have allocated := (tracks.live id).mp isLive
        obtain ⟨released, -⟩ := Generator.release_of_allocated tracks.consistent allocated
        exact ⟨_, by simp only [GeneratorRun.step, released]; rfl, tracks.release isLive⟩
      · have free : run.generator.isAllocated id = false := by
          rw [← Bool.not_eq_true, ← tracks.live]
          exact isLive
        refine ⟨run, ?_, tracks⟩
        simp only [GeneratorRun.step, Generator.release_of_free free, List.erase_of_not_mem isLive]
        rfl

/-- By induction on the history. -/
theorem reachable_tracks (reached : (machine capacity).Reachable run) : run.Tracks capacity := by
  induction reached with
  | initial start =>
      cases start
      exact .new capacity
  | @step before call after earlier step ih =>
      obtain ⟨later, stepped, tracks⟩ := ih.step call
      cases step.next.symm.trans stepped
      exact tracks

-----------------------------------------------------------------------------------------
-- What its callers see
-----------------------------------------------------------------------------------------

/-- A generator that hands out free identifiers and takes back live ones. -/
structure Allocates (capacity : Nat) (run : GeneratorRun) : Prop where
  counted : run.generator.allocatedCount = run.generator.bitvec.count true
  bits : run.generator.bitvec.length = capacity
  hint : 0 < capacity → run.generator.nextFreeHint < capacity
  unique : run.live.Nodup
  exhausted : run.generator.next = none ↔ ∀ id < capacity, id ∈ run.live
  found
    : ∀ id after, run.generator.next = some (id, after) → id < capacity ∧ id ∉ run.live
  /-- The count never underflows. -/
  released
    : ∀ id ∈ run.live,
        ∃ after,
          run.generator.release id = .ok (true, after)
          ∧ after.allocatedCount + 1 = run.generator.allocatedCount
  ignored : ∀ id ∉ run.live, run.generator.release id = .ok (false, run.generator)

/-- Whatever the history, the generator keeps its identifiers apart. -/
theorem allocates_distinct (reached : (machine capacity).Reachable run)
    : run.Allocates capacity := by
  have tracks := reachable_tracks reached
  have dead {id : RunnerId} (notLive : id ∉ run.live)
      : run.generator.isAllocated id = false := by
    rw [← Bool.not_eq_true, ← tracks.live]
    exact notLive
  refine {
    counted := tracks.consistent
    bits := tracks.bits
    hint := fun positive => by have hint := tracks.hint; omega
    unique := tracks.distinct
    exhausted := ⟨fun nothing id inside => ?_, fun every => ?_⟩
    found := fun id after allocates => (tracks.found allocates).2
    released := fun id isLive => ?_
    ignored := fun id notLive => Generator.release_of_free (dead notLive) }
  · by_contra notLive
    have inside : id < run.generator.capacity := tracks.bits.symm ▸ inside
    have room := Generator.room_of_free tracks.consistent inside (dead notLive)
    obtain ⟨_, _, found, -⟩ := Generator.next_of_room tracks.consistent room
    cases nothing.symm.trans found
  · refine Generator.next_of_full (not_lt.mp (fun room => ?_))
    obtain ⟨id, inside, free⟩ := Generator.exists_free tracks.consistent room
    have allocated := (tracks.live id).mp (every id (tracks.bits ▸ inside))
    cases free.symm.trans allocated
  · have allocated := (tracks.live id).mp isLive
    obtain ⟨released, releases⟩ := Generator.release_of_allocated tracks.consistent allocated
    exact ⟨_, released, releases.counted⟩

/-- A generator without capacity has no identifier its hint could stay below. -/
theorem allocates_distinct_empty
    : ¬ (∀ capacity run,
          (machine capacity).Reachable run → run.generator.nextFreeHint < capacity) :=
  fun below => absurd (below 0 (.new 0) (.initial rfl)) (by decide)

/-- Released in between, the first identifier is the third one found. -/
theorem allocates_distinct_reuses
    : (⟨⟨[true, true], 1, 2⟩, [0, 1]⟩ : GeneratorRun).Allocates 2 := by
  have executed
      : (machine 2).execute (.new 2) [.next, .next, .release 0, .release 7, .next]
        = some ⟨⟨[true, true], 1, 2⟩, [0, 1]⟩ := by
    decide
  exact allocates_distinct (.execute (.initial rfl) _ executed)

end GeneratorRun

end BoltLoad
