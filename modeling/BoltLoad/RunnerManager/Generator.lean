import BoltLoad.Rust.Checked

/-! The identifier generator: a bit per identifier, a hint where to search, and a count. -/

namespace BoltLoad

structure Generator where
  bitvec : List Bool
  nextFreeHint : Nat
  allocatedCount : Nat
  deriving DecidableEq, Repr

namespace Generator

def new (capacity : Nat) : Generator where
  bitvec := List.replicate capacity false
  nextFreeHint := 0
  allocatedCount := 0

def capacity (generator : Generator) : Nat := generator.bitvec.length

def isAllocated (generator : Generator) (id : RunnerId) : Bool :=
  generator.bitvec[id]?.getD false

/-- The index looked at in round `i` of the search from the hint. -/
def probe (generator : Generator) (i : Nat) : Nat :=
  (generator.nextFreeHint + i) % generator.capacity

/-- The next free identifier, if any; without one the generator does not change. -/
def next (generator : Generator) : Option (RunnerId × Generator) :=
  if generator.allocatedCount ≥ generator.capacity then
    none
  else
    ((List.range generator.capacity).find?
      (fun i => !generator.isAllocated (generator.probe i))).map
      (fun i =>
        let index := generator.probe i
        (index,
          { bitvec := generator.bitvec.set index true
            nextFreeHint := (index + 1) % generator.capacity
            allocatedCount := generator.allocatedCount + 1 }))

/-- Whether the identifier was allocated, which it is not any more. -/
def release (generator : Generator) (id : RunnerId) : Checked (Bool × Generator) :=
  if generator.isAllocated id then do
    let allocatedCount ← Checked.sub generator.allocatedCount 1
    pure (true,
      { bitvec := generator.bitvec.set id false
        nextFreeHint := if id < generator.nextFreeHint then id else generator.nextFreeHint
        allocatedCount })
  else
    pure (false, generator)

/-- The generator once an allocated identifier was released. -/
def released (generator : Generator) (id : RunnerId) : Generator where
  bitvec := generator.bitvec.set id false
  nextFreeHint := if id < generator.nextFreeHint then id else generator.nextFreeHint
  allocatedCount := generator.allocatedCount - 1

/-- The count is that of the bits set. -/
def Consistent (generator : Generator) : Prop :=
  generator.allocatedCount = generator.bitvec.count true

theorem consistent_new (capacity : Nat) : (new capacity).Consistent := by
  simp [Consistent, new, List.count_replicate]

theorem isAllocated_new (capacity : Nat) (id : RunnerId)
    : (new capacity).isAllocated id = false := by
  simp only [isAllocated, new, List.getElem?_replicate]
  split <;> rfl

@[simp] theorem capacity_new (capacity : Nat) : (new capacity).capacity = capacity :=
  List.length_replicate

theorem lt_capacity_of_isAllocated {generator : Generator} {id : RunnerId}
    (allocated : generator.isAllocated id = true)
    : id < generator.capacity := by
  by_contra outside
  have missing : generator.bitvec[id]? = none := List.getElem?_eq_none (not_lt.mp outside)
  simp [isAllocated, missing] at allocated

/-- Setting one bit changes the allocation of that identifier only. -/
theorem isAllocated_set {generator : Generator} {id other : RunnerId} {bit : Bool}
    {hint count : Nat} (inside : id < generator.capacity)
    : isAllocated ⟨generator.bitvec.set id bit, hint, count⟩ other
      = if other = id then bit else generator.isAllocated other := by
  simp only [isAllocated, List.getElem?_set]
  by_cases same : id = other
  · subst same
    have within : id < generator.bitvec.length := inside
    simp [within]
  · simp [same, Ne.symm same]

theorem count_set {generator : Generator} {id : RunnerId} {bit : Bool}
    (inside : id < generator.capacity)
    : (generator.bitvec.set id bit).count true
      = generator.bitvec.count true - (if generator.isAllocated id then 1 else 0)
        + (if bit then 1 else 0) := by
  have within : id < generator.bitvec.length := inside
  simp [List.count_set within, isAllocated, within]

/-- An identifier is free exactly while the count is below the capacity. -/
theorem exists_free {generator : Generator} (consistent : generator.Consistent)
    (room : generator.allocatedCount < generator.capacity)
    : ∃ id, id < generator.capacity ∧ generator.isAllocated id = false := by
  by_contra full
  push Not at full
  have every : ∀ bit ∈ generator.bitvec, true = bit := by
    intro bit member
    obtain ⟨id, within, rfl⟩ := List.getElem_of_mem member
    have allocated := full id within
    simp only [isAllocated, List.getElem?_eq_getElem within, Option.getD_some, ne_eq,
      Bool.not_eq_false] at allocated
    exact allocated.symm
  have count := List.count_eq_length.mpr every
  rw [Consistent] at consistent
  simp only [capacity] at room
  omega

/-- A free identifier keeps the count below the capacity. -/
theorem room_of_free {generator : Generator} (consistent : generator.Consistent)
    {id : RunnerId} (inside : id < generator.capacity)
    (isFree : generator.isAllocated id = false)
    : generator.allocatedCount < generator.capacity := by
  have within : id < generator.bitvec.length := inside
  have bit : generator.bitvec[id] = false := by
    simpa [isAllocated, List.getElem?_eq_getElem within] using isFree
  have bounded : generator.bitvec.count true ≤ generator.bitvec.length := List.count_le_length
  rw [consistent, capacity]
  refine lt_of_le_of_ne bounded (fun full => ?_)
  have set := List.count_eq_length.mp full _ (List.getElem_mem within)
  rw [bit] at set
  cases set

/-- The count is positive exactly while some identifier is allocated. -/
theorem allocatedCount_pos_iff {generator : Generator} (consistent : generator.Consistent)
    : 0 < generator.allocatedCount ↔ ∃ id, generator.isAllocated id = true := by
  rw [consistent, List.count_pos_iff]
  constructor
  · intro member
    obtain ⟨id, within, set⟩ := List.getElem_of_mem member
    exact ⟨id, by simp [isAllocated, within, set]⟩
  · rintro ⟨id, allocated⟩
    have within : id < generator.bitvec.length := lt_capacity_of_isAllocated allocated
    simp only [isAllocated, List.getElem?_eq_getElem within, Option.getD_some] at allocated
    exact allocated ▸ List.getElem_mem within

/-- A search from the hint passes every identifier. -/
theorem exists_probe {generator : Generator} {id : RunnerId} (inside : id < generator.capacity)
    : ∃ i, i < generator.capacity ∧ generator.probe i = id := by
  have positive : 0 < generator.capacity := Nat.zero_lt_of_lt inside
  have bound := Nat.mod_lt generator.nextFreeHint positive
  have split := Nat.div_add_mod generator.nextFreeHint generator.capacity
  have around
      : generator.nextFreeHint
          + (id + (generator.capacity - generator.nextFreeHint % generator.capacity))
        = id + generator.capacity * (generator.nextFreeHint / generator.capacity + 1) := by
    rw [Nat.mul_add, Nat.mul_one]
    omega
  refine ⟨(id + (generator.capacity - generator.nextFreeHint % generator.capacity))
    % generator.capacity, Nat.mod_lt _ positive, ?_⟩
  rw [probe, Nat.add_mod_mod, around, Nat.add_mul_mod_self_left, Nat.mod_eq_of_lt inside]

/-- An allocated identifier was free, and is the only one whose allocation changed. -/
structure Allocates (before : Generator) (id : RunnerId) (after : Generator) : Prop where
  free : before.isAllocated id = false
  allocated : ∀ other, after.isAllocated other = true ↔ other = id ∨ before.isAllocated other = true
  counted : after.allocatedCount = before.allocatedCount + 1
  capacity : after.capacity = before.capacity
  consistent : after.Consistent

/-- While the count is below the capacity, the next identifier is a free one. -/
theorem next_of_room {generator : Generator} (consistent : generator.Consistent)
    (room : generator.allocatedCount < generator.capacity)
    : ∃ id after, generator.next = some (id, after) ∧ generator.Allocates id after := by
  obtain ⟨free, inside, isFree⟩ := exists_free consistent room
  obtain ⟨round, early, probed⟩ := exists_probe inside
  have found : ((List.range generator.capacity).find?
      (fun i => !generator.isAllocated (generator.probe i))).isSome = true := by
    rw [List.find?_isSome]
    exact ⟨round, List.mem_range.mpr early, by simp [probed, isFree]⟩
  obtain ⟨i, search⟩ := Option.isSome_iff_exists.mp found
  have unallocated : generator.isAllocated (generator.probe i) = false := by
    simpa using List.find?_some search
  have within : generator.probe i < generator.capacity :=
    Nat.mod_lt _ (Nat.zero_lt_of_lt room)
  refine ⟨_, _, by rw [next, if_neg (by omega), search]; rfl, ?_⟩
  refine ⟨unallocated, ?_, rfl, by simp [capacity], ?_⟩
  · intro other
    rw [isAllocated_set within]
    by_cases same : other = generator.probe i <;> simp [same]
  · rw [Consistent] at consistent ⊢
    simp [count_set within, unallocated, consistent]

/-- At full capacity there is no next identifier. -/
theorem next_of_full {generator : Generator}
    (full : generator.capacity ≤ generator.allocatedCount)
    : generator.next = none :=
  if_pos full

/-- A released identifier was allocated, and is the only one whose allocation changed. -/
structure Releases (before : Generator) (id : RunnerId) (after : Generator) : Prop where
  allocated
    : ∀ other, after.isAllocated other = true ↔ other ≠ id ∧ before.isAllocated other = true
  counted : after.allocatedCount + 1 = before.allocatedCount
  capacity : after.capacity = before.capacity
  consistent : after.Consistent

theorem release_of_allocated {generator : Generator} (consistent : generator.Consistent)
    {id : RunnerId} (allocated : generator.isAllocated id = true)
    : generator.release id = .ok (true, generator.released id)
      ∧ generator.Releases id (generator.released id) := by
  have within := lt_capacity_of_isAllocated allocated
  have bit : generator.bitvec[id]? = some true := by
    rw [isAllocated] at allocated
    cases found : generator.bitvec[id]? with
    | none => simp [found] at allocated
    | some value => simpa [found] using allocated
  have positive : 0 < generator.allocatedCount :=
    consistent ▸ List.count_pos_iff.mpr (List.mem_of_getElem? bit)
  refine ⟨?_, ?_, ?_, by simp [capacity, released], ?_⟩
  · rw [release, if_pos allocated, Checked.sub_eq (Nat.succ_le_of_lt positive)]
    rfl
  · intro other
    rw [released, isAllocated_set within]
    by_cases same : other = id <;> simp [same]
  · simp only [released]
    omega
  · rw [Consistent] at consistent ⊢
    simp [released, count_set within, allocated, consistent]

theorem release_of_free {generator : Generator} {id : RunnerId}
    (free : generator.isAllocated id = false)
    : generator.release id = .ok (false, generator) := by
  rw [release, if_neg (by simp [free])]
  rfl

end Generator

end BoltLoad
