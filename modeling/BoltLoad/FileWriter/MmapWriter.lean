import BoltLoad.FileWriter.Command
import BoltLoad.Library.Segment

/-! Writing to the mapped file. Offsets are cast to `usize`, which keeps them as long as the
file is small enough to be mapped at all.
-/

namespace BoltLoad

namespace MmapWriter

/-- `MmapWriterBuilder::is_supported`: at most `isize::MAX` bytes, for a `usize` of
`usizeSize` values.
-/
def isSupported (usizeSize fileSize : Nat) : Bool := decide (fileSize ≤ usizeSize / 2 - 1)

/-- `execute_write`: slicing panics out of bounds, and copying between slices of different
lengths. Giving back the pages of the range only logs its errors, after a checked subtraction.
-/
def executeWrite (usizeSize : Nat) (mmap : Bytes) (chunk : Chunk) : Checked Bytes := do
  let start := chunk.range.start % usizeSize
  let stop := chunk.range.stop % usizeSize
  if start ≤ stop ∧ stop ≤ mmap.length then
    if chunk.data.length = stop - start then do
      let written := Segment.overwrite mmap start chunk.data
      let _ ← Checked.sub chunk.range.stop chunk.range.start
      pure written
    else
      .error .bounds
  else
    .error .bounds

/-- A write within a file that can be mapped does not panic, and overwrites its range. -/
theorem executeWrite_eq {usizeSize : Nat} {mmap : Bytes} {chunk : Chunk}
    (supported : isSupported usizeSize mmap.length = true)
    (fits : chunk.range.start + chunk.data.length = chunk.range.stop)
    (inside : chunk.range.stop ≤ mmap.length)
    : executeWrite usizeSize mmap chunk
      = .ok (Segment.overwrite mmap chunk.range.start chunk.data) := by
  have small : mmap.length ≤ usizeSize / 2 - 1 := of_decide_eq_true supported
  have ordered : chunk.range.start ≤ chunk.range.stop := by omega
  have sized : chunk.data.length = chunk.range.stop - chunk.range.start := by omega
  -- Either the file is empty, and so is the write, or its offsets are below `usize::MAX`.
  by_cases none : chunk.range.stop = 0
  · have start : chunk.range.start = 0 := by omega
    simp only [executeWrite, none, start, Nat.zero_mod, le_refl, Nat.zero_le, and_self, if_true,
      sized, Nat.sub_self, Checked.sub_eq, Checked.ok_bind]
    rfl
  · have stop : chunk.range.stop % usizeSize = chunk.range.stop := Nat.mod_eq_of_lt (by omega)
    have start : chunk.range.start % usizeSize = chunk.range.start := Nat.mod_eq_of_lt (by omega)
    simp only [executeWrite, stop, start, ordered, inside, and_self, if_true, sized,
      Checked.sub_eq ordered, Checked.ok_bind]
    rfl

end MmapWriter

end BoltLoad
