import BoltLoad.Rust.Checked

/-! What is handed to a backend for writing, and how its end is reported. -/

namespace BoltLoad

/-- A write: as many bytes as its range is long. -/
structure Chunk where
  range : Range
  data : Bytes
  deriving DecidableEq, Repr

/-- A failed write, with the text it is displayed as. -/
structure FileWriterError where
  message : String
  deriving DecidableEq, Repr

/-- The end of a write. -/
structure WriteCompletion where
  range : Range
  result : Except FileWriterError Unit
  deriving DecidableEq

/-- Whether the write failed. -/
def WriteCompletion.failed (completion : WriteCompletion) : Bool :=
  match completion.result with
  | .ok _ => false
  | .error _ => true

end BoltLoad
