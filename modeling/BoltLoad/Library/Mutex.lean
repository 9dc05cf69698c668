import Mathlib

/-! A lock with at most one holder, which is whoever is inside the section it guards. -/

universe u

/-- The lock is held by exactly the party inside the section it guards. -/
def Guards {Party : Type u} (lock : Option Party) (inside : Party → Prop) : Prop :=
  ∀ party, lock = some party ↔ inside party

namespace Guards

variable {Party : Type u} {lock : Option Party} {inside later : Party → Prop} {party : Party}

/-- Two parties inside are the same. -/
theorem alone {other : Party} (guards : Guards lock inside) (first : inside party)
    (second : inside other)
    : party = other :=
  Option.some.inj (((guards party).mpr first).symm.trans ((guards other).mpr second))

/-- Nobody is inside while the lock is free. -/
theorem free (guards : Guards none inside)
    : ¬inside party :=
  fun entered => by cases (guards party).mpr entered

/-- Nobody enters or leaves. -/
theorem keeps (guards : Guards lock inside) (same : ∀ other, later other ↔ inside other)
    : Guards lock later :=
  fun other => (guards other).trans (same other).symm

/-- A party takes the free lock and enters. -/
theorem takes (guards : Guards none inside) (enters : later party)
    (others : ∀ other, other ≠ party → (later other ↔ inside other))
    : Guards (some party) later := by
  intro other
  constructor
  · intro same
    cases same
    exact enters
  · intro entered
    by_contra apart
    have apart : other ≠ party := fun same => apart (by rw [same])
    exact guards.free ((others other apart).mp entered)

/-- The holder leaves and gives the lock back. -/
theorem gives (guards : Guards lock inside) (was : inside party) (leaves : ¬later party)
    (others : ∀ other, other ≠ party → (later other ↔ inside other))
    : Guards none later := by
  intro other
  constructor
  · intro never
    cases never
  · intro entered
    by_cases same : other = party
    · exact absurd (same ▸ entered) leaves
    · exact absurd (guards.alone ((others other same).mp entered) was) same

end Guards
