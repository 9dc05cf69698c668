import BoltLoad.Rust.Checked

/-! What runners report and receive: adapter and task errors, lifecycle events, data frames
and control signals. Only the parts of an error some function inspects or returns are kept;
an I/O error is its message.
-/

namespace BoltLoad

/-- A parsed `Content-Range`. -/
structure ContentRange where
  first : Nat
  last : Nat
  complete : Option Nat
  deriving DecidableEq, Repr

inductive RetryableError
  | io (message : String)
  | status (status : Nat)
  deriving DecidableEq, Repr

inductive UnretryableError
  | unauthorized (status : Nat) (message : String)
  | notFound (status : Nat)
  | congestion (status : Nat) (retryAfter : Option Nat)
  | status (status : Nat)
  | rangeIgnored
  | rangeMismatch (requested : Range) (got : Option ContentRange)
  | rangeContentCoded (coding : String)
  | rangeBodyTooLong (got : ContentRange)
  | rangeBodyTooShort (got : ContentRange) (received : Nat)
  | bodyUndecodable (message : String)
  | contentCoded (coding : String)
  | rangeNotSatisfiable (total : Option Nat)
  | internal (message : String)
  | cancelled
  | io (message : String)
  | rangeStreamNotSupported
  | whatever (message : String)
  deriving DecidableEq, Repr

inductive AdapterError
  | retryable (source : RetryableError)
  | unretryable (source : UnretryableError)
  deriving DecidableEq, Repr

/-- Why a runner or the whole task failed. -/
inductive TaskError
  | cancelled
  | timeout
  | empty
  | channelClosed
  | exceededTotalSize
  | smallerThanTotalSize
  | streamError (source : AdapterError)
  | noProgress (timeout : Nat)
  | retryLimitExceeded (limit : Nat) (source : TaskError)
  | other (message : String)
  deriving DecidableEq, Repr

namespace TaskError

def isRetryable : TaskError → Bool
  | streamError (.retryable _) => true
  | timeout => true
  | _ => false

def isCancelled : TaskError → Bool
  | cancelled => true
  | _ => false

end TaskError

/-- Why a runner stopped. -/
inductive StoppedReason
  | finished
  | failed (error : TaskError)
  deriving DecidableEq, Repr

inductive LifecycleEvent
  | started
  | stopped (reason : StoppedReason)
  deriving DecidableEq, Repr

/-- Received bytes on their way to the writer. -/
structure DataFrame where
  data : Bytes
  deriving DecidableEq, Repr

/-- Why a run ends without having delivered what it was asked for. -/
inductive TaskRunError
  | cancelled
  | failed (error : TaskError)
  deriving DecidableEq, Repr

/-- `Result<(), TaskRunError>`. -/
abbrev RunResult := Except TaskRunError Unit

/-- A signal from the manager to one runner. -/
inductive ControlEvent
  | limitTotal (newTotal : Nat)
  deriving DecidableEq, Repr

/-- `BUFFER_SIZE`: 32 KiB. -/
def bufferSize : Nat := 32 * 1024

/-- `LIFECYCLE_CHANNEL_CAPACITY`. -/
def lifecycleChannelCapacity : Nat := 2

/-- `DATA_FRAME_CHANNEL_CAPACITY`. -/
def dataFrameChannelCapacity : Nat := 32

end BoltLoad
