import BoltLoad.FileWriter.Command
import BoltLoad.Library.Machine

/-! Dispatching writes with a bounded number in flight and one buffered write behind them.
The backend holds the dispatched writes until it completes them, in any order; the completion
channel holds the completions until an operation takes them.
-/

namespace BoltLoad

structure PendingWrite where
  range : Range
  bytes : Bytes
  deriving DecidableEq, Repr

def PendingWrite.chunk (write : PendingWrite) : Chunk := ⟨write.range, write.bytes⟩

inductive WriteStatus
  | dispatched
  | pending
  deriving DecidableEq, Repr

structure WriterFullError where
  pendingWrite : PendingWrite
  deriving DecidableEq, Repr

/-- How a dispatched write may end before the dispatch returns: a closed queue or a rejected
task reports it at once.
-/
abbrev Immediate := Option (Except FileWriterError Unit)

structure PendingWriter where
  capacity : Nat
  inFlight : Nat
  /-- The completion channel, of `capacity + 1` slots. -/
  completions : List WriteCompletion
  pendingWrite : Option PendingWrite
  sawError : Bool
  /-- Every write dispatched so far, oldest first. -/
  dispatched : List Chunk
  /-- The dispatched writes the backend has not completed yet. -/
  outstanding : List Chunk

namespace PendingWriter

def new (capacity : Nat) : PendingWriter where
  capacity := max capacity 1
  inFlight := 0
  completions := []
  pendingWrite := none
  sawError := false
  dispatched := []
  outstanding := []

def isFull (writer : PendingWriter) : Bool := decide (writer.inFlight ≥ writer.capacity)

def hasPendingWrite (writer : PendingWriter) : Bool := writer.pendingWrite.isSome

def isIdle (writer : PendingWriter) : Bool :=
  decide (writer.inFlight = 0) && !writer.hasPendingWrite

/-- Whether a write is accepted now. -/
def canWrite (writer : PendingWriter) : Bool := !writer.isFull || !writer.hasPendingWrite

/-- The message of a completion without room in the channel. -/
def channelMessage : String := "completion channel must cover every in-flight write"

/-- `publish`: a completion is sent without waiting; a full channel is a broken invariant. -/
def publish (writer : PendingWriter) (completion : WriteCompletion) : Checked PendingWriter :=
  if writer.completions.length < writer.capacity + 1 then
    .ok { writer with completions := writer.completions ++ [completion] }
  else
    .error (.assertion channelMessage)

/-- The write is counted before the backend can complete it. -/
def dispatchWrite (writer : PendingWriter) (chunk : Chunk) (immediate : Immediate)
    : Checked PendingWriter :=
  let writer :=
    { writer with
      inFlight := writer.inFlight + 1
      dispatched := writer.dispatched ++ [chunk] }
  match immediate with
  | some result => writer.publish ⟨chunk.range, result⟩
  | none => .ok { writer with outstanding := writer.outstanding ++ [chunk] }

def writeRange (writer : PendingWriter) (range : Range) (data : Bytes) (immediate : Immediate)
    : Checked (Except WriterFullError WriteStatus × PendingWriter) :=
  if !writer.isFull then do
    let writer ← writer.dispatchWrite ⟨range, data⟩ immediate
    pure (.ok .dispatched, writer)
  else if writer.pendingWrite.isNone then
    pure (.ok .pending, { writer with pendingWrite := some ⟨range, data⟩ })
  else
    pure (.error ⟨⟨range, data⟩⟩, writer)

def completionsHaveError (completions : List WriteCompletion) : Bool :=
  completions.any WriteCompletion.failed

/-- The message of more completions than writes in flight. -/
def underflowMessage : String :=
  "in_flight underflow: more completions drained than dispatched"

def ackCompletions (writer : PendingWriter) (count : Nat) : Checked PendingWriter := do
  let inFlight ← Checked.expect
    (if count ≤ writer.inFlight then some (writer.inFlight - count) else none) underflowMessage
  pure { writer with inFlight }

/-- Dispatch the buffered write into a free slot. -/
def tryFlushPending (writer : PendingWriter) (immediate : Immediate) : Checked PendingWriter :=
  if writer.isFull then
    .ok writer
  else
    match writer.pendingWrite with
    | some write => dispatchWrite { writer with pendingWrite := none } write.chunk immediate
    | none => .ok writer

/-- The message of a buffered write that nothing will flush. -/
def behindMessage : String := "a pending write must wait behind a write in flight"

/-- The `debug_assert!` of `settle`. -/
def assertBehind (writer : PendingWriter) : Checked PendingWriter :=
  if writer.pendingWrite.isNone || writer.sawError || decide (writer.inFlight > 0) then
    .ok writer
  else
    .error (.assertion behindMessage)

/-- Free the slots of the completions, note any error, and dispatch the buffered write unless
an error was seen.
-/
def settle (writer : PendingWriter) (completions : List WriteCompletion) (immediate : Immediate)
    : Checked PendingWriter := do
  let acked ← writer.ackCompletions completions.length
  let noted := { acked with sawError := acked.sawError || completionsHaveError completions }
  let flushed ← (if noted.sawError then .ok noted else noted.tryFlushPending immediate)
  flushed.assertBehind

/-- Take the completions already available. -/
def tryTick (writer : PendingWriter) (immediate : Immediate)
    : Checked (List WriteCompletion × PendingWriter) := do
  let completions := writer.completions
  let writer ← settle { writer with completions := [] } completions immediate
  pure (completions, writer)

/-- At least one completion, and the others already available; `none` is `Pending`. The
channel never ends while the writer holds a sender.
-/
def pollCompletions (writer : PendingWriter) (immediate : Immediate)
    : Checked (Option (List WriteCompletion) × PendingWriter) :=
  if writer.inFlight = 0 then
    pure (none, writer)
  else if writer.completions.isEmpty then
    pure (none, writer)
  else do
    let (completions, writer) ← writer.tryTick immediate
    pure (some completions, writer)

/-- The backend completes one of the writes it holds. -/
def complete (writer : PendingWriter) (index : Nat) (result : Except FileWriterError Unit)
    : Checked PendingWriter :=
  match writer.outstanding[index]? with
  | some chunk =>
    publish { writer with outstanding := writer.outstanding.eraseIdx index }
      ⟨chunk.range, result⟩
  | none => .ok writer

/-- One turn of the loop of `flush`: `none` once nothing is in flight. -/
def flushStep (writer : PendingWriter) (immediate : Immediate)
    : Checked (Option (List WriteCompletion) × PendingWriter) :=
  if writer.inFlight > 0 then do
    let (polled, writer) ← writer.pollCompletions immediate
    pure (some (polled.getD []), writer)
  else
    pure (none, writer)

end PendingWriter

end BoltLoad
