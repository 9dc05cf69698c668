import BoltLoad.Runner.Event
import BoltLoad.Rust.Text

/-! Parsing `Content-Range`: the single range a response carries, or the complete length of
one that cannot be satisfied.
-/

namespace BoltLoad

namespace ContentRange

/-- `byte_range`: the part after the `bytes` unit. -/
def byteRange (value : Text) : Option Text := do
  let (unit, range) ← value.trim.splitOnce Text.isAsciiWhitespace
  if unit.eqIgnoreAsciiCase "bytes".toList then some range else none

/-- `number`. -/
def number (value : Text) : Option Nat :=
  let value := value.trim
  if value.isEmpty || !value.all Char.isDigit then none else value.parseU64

/-- The complete length in a `Content-Range`: a number, or `*` for an unknown one. -/
def completeLength (complete : Text) : Option (Option Nat) :=
  if complete.trim = "*".toList then some none else (number complete.trim).map some

/-- `ContentRange::from_str`; `none` is `InvalidContentRange`. -/
def fromStr (value : String) : Option ContentRange := do
  let range ← byteRange value.toList
  let (span, complete) ← range.splitOnce (· == '/')
  let (first, last) ← span.splitOnce (· == '-')
  let first ← number first
  let last ← number last
  let complete ← completeLength complete
  if first > last || complete.any (fun complete => last ≥ complete) then
    none
  else
    some ⟨first, last, complete⟩

/-- `ContentRange::unsatisfied_complete`. -/
def unsatisfiedComplete (value : String) : Option Nat := do
  let range ← byteRange value.toList
  let (star, complete) ← range.splitOnce (· == '/')
  if star.trim = "*".toList then number complete else none

/-- A range that is not empty, of 64-bit offsets, and within a known complete length. -/
structure WellFormed (range : ContentRange) : Prop where
  ordered : range.first ≤ range.last
  fits : range.last < u64Size
  within : ∀ complete, range.complete = some complete → range.last < complete

theorem number_lt {value : Text} {parsed : Nat} (number : number value = some parsed)
    : parsed < u64Size := by
  unfold ContentRange.number at number
  dsimp only at number
  split at number
  · cases number
  · exact Text.parseU64_lt number

/-- What `from_str` accepts is well formed. -/
theorem wellFormed_of_fromStr {value : String} {range : ContentRange}
    (accepted : fromStr value = some range)
    : range.WellFormed := by
  unfold fromStr at accepted
  simp only [Option.bind_eq_bind, Option.bind_eq_some_iff] at accepted
  obtain ⟨_, _, ⟨span, complete⟩, _, ⟨first, last⟩, _, low, _, high, isHigh, length, _, checked⟩ :=
    accepted
  split at checked
  · cases checked
  · rename_i valid
    cases checked
    simp only [gt_iff_lt, ge_iff_le, Bool.or_eq_true, decide_eq_true_eq, not_or, not_lt] at valid
    refine ⟨valid.1, number_lt isHigh, fun total known => ?_⟩
    dsimp only at known
    rw [known] at valid
    simpa using valid.2

end ContentRange

end BoltLoad
