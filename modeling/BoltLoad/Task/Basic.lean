import BoltLoad.Runner.Event

/-! How far a task got, why it does not finish, and why it downloads over one connection. -/

namespace BoltLoad

inductive FallbackReason
  | rangeIgnored
  | contentCoded
  deriving DecidableEq, Repr

/-- `PathBuf`. -/
abbrev Path := String

/-- The file operation of an I/O error. -/
inductive IoOp
  | inspect
  | create
  | allocate
  | write
  | flush
  | rename
  deriving DecidableEq, Repr

/-- Why a task did not finish. -/
inductive DownloadError
  | cancelled
  | metadata (source : AdapterError)
  | transfer (source : TaskError)
  | rangeUnsupported (reason : FallbackReason) (source : AdapterError)
  | io (op : IoOp) (path : Path) (source : String)
  | invalidDestination (path : Path) (reason : String)
  | invalidFilename (name : String)
  | missingFilename
  | runtime (message : String)
  | panicked (message : String)
  | aborted
  deriving DecidableEq, Repr

namespace DownloadError

/-- `DownloadError::transfer`: a cancellation is not a failed transfer. -/
def ofTaskError : TaskError → DownloadError
  | .cancelled => .cancelled
  | source => .transfer source

def other (message : String) : DownloadError := ofTaskError (.other message)

end DownloadError

/-- The progress of a download. -/
structure Progress where
  total : Option Nat
  downloaded : Nat
  downloadedChunks : List Range
  deriving DecidableEq, Repr

end BoltLoad
