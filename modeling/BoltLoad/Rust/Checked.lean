import BoltLoad.Library.HalfOpen

/-! The parts of the source language every module uses: panics and checked `u64` arithmetic.
A panicking computation ends in the panic it reaches, so that a function proved to return
`.ok` neither panics nor overflows.
-/

namespace BoltLoad

/-- How a computation panics. -/
inductive Panic
  /-- `expect` on `None` or `Err`, with its message. -/
  | expect (message : String)
  /-- `unreachable!`, with its message. -/
  | unreachable (message : String)
  /-- A failed `assert!`, with its message. -/
  | assertion (message : String)
  /-- An arithmetic operation out of the range of its type. -/
  | overflow
  /-- Slicing or copying with bounds that do not fit. -/
  | bounds
  deriving DecidableEq, Repr

/-- A computation that may panic. -/
abbrev Checked (α : Type) := Except Panic α

/-- `Range<u64>`: the bytes from `start` on, without `stop` (the source's `end`). -/
abbrev Range := HalfOpen Nat

/-- Received or written bytes. -/
abbrev Bytes := List UInt8

/-- The identifier of an allocated runner. -/
abbrev RunnerId := Nat

/-- The number of `u64` values. -/
def u64Size : Nat := 2 ^ 64

namespace Checked

/-- `Option::expect`. -/
def expect {α : Type} (value : Option α) (message : String) : Checked α :=
  match value with
  | some value => .ok value
  | none => .error (.expect message)

/-- `Result::expect`. -/
def expectOk {α ε : Type} (result : Except ε α) (message : String) : Checked α :=
  match result with
  | .ok value => .ok value
  | .error _ => .error (.expect message)

/-- `u64` addition. -/
def add (left right : Nat) : Checked Nat :=
  if left + right < u64Size then .ok (left + right) else .error .overflow

/-- `u64` subtraction. -/
def sub (left right : Nat) : Checked Nat :=
  if right ≤ left then .ok (left - right) else .error .overflow

/-- `u64` multiplication. -/
def mul (left right : Nat) : Checked Nat :=
  if left * right < u64Size then .ok (left * right) else .error .overflow

/-- `u64::checked_add`. -/
def checkedAdd (left right : Nat) : Option Nat :=
  if left + right < u64Size then some (left + right) else none

@[simp] theorem expect_some {α : Type} (value : α) (message : String)
    : expect (some value) message = .ok value :=
  rfl

@[simp] theorem expect_none {α : Type} (message : String)
    : expect (none : Option α) message = .error (.expect message) :=
  rfl

theorem expect_eq_ok {α : Type} {value : Option α} {found : α} {message : String}
    : expect value message = .ok found ↔ value = some found := by
  cases value with
  | none => exact ⟨(fun never => by cases never), (fun never => by cases never)⟩
  | some other => exact ⟨fun same => congrArg some (Except.ok.inj same), fun same => by cases same; rfl⟩

@[simp] theorem expectOk_ok {α ε : Type} (value : α) (message : String)
    : expectOk (.ok value : Except ε α) message = .ok value :=
  rfl

@[simp] theorem expectOk_error {α ε : Type} (error : ε) (message : String)
    : expectOk (.error error : Except ε α) message = .error (.expect message) :=
  rfl

theorem add_eq {left right : Nat} (fits : left + right < u64Size)
    : add left right = .ok (left + right) :=
  if_pos fits

theorem sub_eq {left right : Nat} (fits : right ≤ left)
    : sub left right = .ok (left - right) :=
  if_pos fits

theorem sub_eq_ok {left right difference : Nat}
    : sub left right = .ok difference ↔ right ≤ left ∧ left - right = difference := by
  unfold sub
  split
  · rename_i fits
    exact ⟨fun same => ⟨fits, Except.ok.inj same⟩, fun ⟨_, same⟩ => congrArg _ same⟩
  · rename_i early
    exact ⟨(fun never => by cases never), fun ⟨fits, _⟩ => absurd fits early⟩

theorem mul_eq {left right : Nat} (fits : left * right < u64Size)
    : mul left right = .ok (left * right) :=
  if_pos fits

/-- A sequence of computations succeeds when each of them does. -/
theorem bind_eq_ok {α β : Type} {first : Checked α} {next : α → Checked β} {result : β}
    : (first >>= next) = .ok result ↔ ∃ value, first = .ok value ∧ next value = .ok result := by
  cases first with
  | ok value => exact ⟨fun h => ⟨value, rfl, h⟩, fun ⟨_, same, h⟩ => by cases same; exact h⟩
  | error panic =>
      constructor
      · intro h
        cases h
      · rintro ⟨_, h, _⟩
        cases h

@[simp] theorem ok_bind {α β : Type} (value : α) (next : α → Checked β)
    : ((.ok value : Checked α) >>= next) = next value :=
  rfl

@[simp] theorem error_bind {α β : Type} (panic : Panic) (next : α → Checked β)
    : ((.error panic : Checked α) >>= next) = .error panic :=
  rfl

/-- What is seen of a computation from a found value, with that value and the result. -/
theorem exists_of_map_map {α β γ : Type} {found : Option α} {step : α → Checked β}
    {view : α → β → γ} {seen : γ}
    (shows : found.map (fun value => (step value).map (view value)) = some (.ok seen))
    : ∃ value result,
        found = some value ∧ step value = .ok result ∧ view value result = seen := by
  obtain ⟨value, present, shown⟩ := Option.map_eq_some_iff.mp shows
  cases steps : step value with
  | error panic =>
      rw [steps] at shown
      cases shown
  | ok result =>
      rw [steps] at shown
      exact ⟨value, result, present, steps, Except.ok.inj shown⟩

/-- Filtering by a check that never panics is an ordinary filter. -/
theorem filterM_eq_ok {α : Type} {items : List α} {check : α → Checked Bool} {keep : α → Bool}
    (total : ∀ item ∈ items, check item = .ok (keep item))
    : items.filterM check = .ok (items.filter keep) := by
  have accumulates (kept : List α)
      : items.filterAuxM check kept = .ok ((items.filter keep).reverse ++ kept) := by
    induction items generalizing kept with
    | nil => rfl
    | cons head rest ih =>
        have restTotal : ∀ item ∈ rest, check item = .ok (keep item) :=
          fun item member => total item (List.mem_cons_of_mem _ member)
        simp only [List.filterAuxM, total head List.mem_cons_self, ok_bind, ih restTotal]
        cases isKept : keep head <;> simp [isKept]
  simp only [List.filterM, accumulates, List.append_nil, ok_bind, List.reverse_reverse]
  rfl

/-- Mapping a function that never panics is an ordinary map. -/
theorem mapM_eq_ok {α β : Type} {items : List α} {step : α → Checked β} {result : α → β}
    (total : ∀ item ∈ items, step item = .ok (result item))
    : items.mapM step = .ok (items.map result) := by
  induction items with
  | nil => rfl
  | cons head rest ih =>
      have restTotal := ih (fun item member => total item (List.mem_cons_of_mem _ member))
      simp only [List.mapM_cons, total head List.mem_cons_self, restTotal, ok_bind, List.map_cons]
      rfl

end Checked

end BoltLoad
