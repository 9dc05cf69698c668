import BoltLoad.Library.OrderedMap
import BoltLoad.Rust.Checked

/-! The chunk planner: which runner owns which range of the file, and how much of each
range was accepted. Every operation takes the planner and returns its result with the
planner it leaves behind.
-/

namespace BoltLoad

/-- What a chunk is waiting for. -/
inductive ChunkStatus
  | idle
  | running
  | pending
  | finished
  | failed
  deriving DecidableEq, Repr

/-- A runner is connecting or downloading for the chunk. -/
def ChunkStatus.isActive : ChunkStatus → Bool
  | .running | .pending => true
  | _ => false

/-- The allocation and the download progress of one chunk. -/
structure ChunkState where
  allocated : Range
  downloaded : Range
  runnerId : Option RunnerId
  status : ChunkStatus
  deriving DecidableEq, Repr

namespace ChunkState

/-- A chunk of which nothing is downloaded yet. -/
def new (allocated : Range) (runnerId : Option RunnerId) (status : ChunkStatus)
    : ChunkState where
  allocated := allocated
  downloaded := ⟨allocated.start, allocated.start⟩
  runnerId := runnerId
  status := status

def newIdle (allocated : Range) : ChunkState := new allocated none .idle

def newRunning (allocated : Range) (runnerId : RunnerId) : ChunkState :=
  new allocated (some runnerId) .running

def fromRunnerId (allocated : Range) : Option RunnerId → ChunkState
  | some runnerId => newRunning allocated runnerId
  | none => newIdle allocated

/-- The bytes still to download. -/
def remaining (chunk : ChunkState) : Checked Nat :=
  Checked.sub chunk.allocated.stop chunk.downloaded.stop

def incompleteRange (chunk : ChunkState) : Range :=
  ⟨chunk.downloaded.stop, chunk.allocated.stop⟩

def isComplete (chunk : ChunkState) : Bool :=
  decide (chunk.downloaded.stop ≥ chunk.allocated.stop)

end ChunkState

/-- The planner. `minChunkSize` and `maxChunkCount` are public and may be set at any time. -/
structure ChunkPlanner where
  total : Nat
  minChunkSize : Nat
  maxChunkCount : Option Nat
  chunks : OrderedMap Nat ChunkState
  runnerToChunk : OrderedMap RunnerId Nat
  acceptedBytes : Nat

namespace ChunkPlanner

/-- `DEFAULT_MIN_CHUNK_SIZE`: one mebibyte. -/
def defaultMinChunkSize : Nat := 1024 * 1024

inductive Error
  | runnerNotFound (runnerId : RunnerId)
  | chunkNotFound (runnerId : RunnerId)
  | invalidSplitPosition (position : Nat)
  | invalidResize (runnerId : RunnerId) (newSize : Nat)
  deriving DecidableEq, Repr

/-- The outcome of `resizeRunnerState`. -/
inductive Resize
  | unchanged
  | shrunk (limit : Nat)
  deriving DecidableEq, Repr

def new (total : Nat) : ChunkPlanner where
  total := total
  minChunkSize := defaultMinChunkSize
  maxChunkCount := none
  chunks := ∅
  runnerToChunk := ∅
  acceptedBytes := 0

def getChunksCount (planner : ChunkPlanner) : Nat := planner.chunks.size

def getActiveRunnersCount (planner : ChunkPlanner) : Nat :=
  (planner.chunks.values.filter (fun chunk => chunk.status.isActive)).length

/-- Whether the chunk count has reached its maximum, when there is one. -/
def chunkCountReached (planner : ChunkPlanner) : Bool :=
  planner.maxChunkCount.any (fun maximum => decide (planner.getChunksCount ≥ maximum))

/-- Whether the last chunk starting before the end of `range` reaches into it. Chunks
never overlap, so no other chunk can.
-/
def overlapsPredecessor (planner : ChunkPlanner) (range : Range) : Bool :=
  (planner.chunks.lastBelow range.stop).any
    (fun pred => decide (pred.2.allocated.stop > range.start))

/-- Insert a chunk of which nothing is downloaded yet, and map its runner, if any, to it. -/
def addChunk (planner : ChunkPlanner) (range : Range) (runnerId : Option RunnerId)
    (status : ChunkStatus)
    : ChunkPlanner :=
  { planner with
    chunks := planner.chunks.insert range.start (ChunkState.new range runnerId status)
    runnerToChunk :=
      match runnerId with
      | some id => planner.runnerToChunk.insert id range.start
      | none => planner.runnerToChunk }

def allocateChunkInner (planner : ChunkPlanner) (range : Range)
    (runnerId : Option RunnerId) (status : ChunkStatus)
    : Bool × ChunkPlanner :=
  if range.start ≥ range.stop || range.stop > planner.total then
    (false, planner)
  else if planner.chunkCountReached then
    (false, planner)
  else if planner.overlapsPredecessor range then
    (false, planner)
  else
    (true, planner.addChunk range runnerId status)

def allocatePendingChunk (planner : ChunkPlanner) (range : Range) (runnerId : RunnerId)
    : Bool × ChunkPlanner :=
  planner.allocateChunkInner range (some runnerId) .pending

def allocateIdleChunk (planner : ChunkPlanner) (range : Range) : Bool × ChunkPlanner :=
  planner.allocateChunkInner range none .idle

def allocateChunk (planner : ChunkPlanner) (range : Range) : Option RunnerId → Bool × ChunkPlanner
  | some runnerId => planner.allocatePendingChunk range runnerId
  | none => planner.allocateIdleChunk range

/-- Accept at most the chunk's remaining length; the accepted range is returned. -/
def updateProgress (planner : ChunkPlanner) (runnerId : RunnerId) (bytesDownloaded : Nat)
    : Checked (Except String Range × ChunkPlanner) :=
  match planner.runnerToChunk.get? runnerId with
  | none => .ok (.error s!"Runner {runnerId} not found", planner)
  | some start =>
    match planner.chunks.get? start with
    | none => .ok (.error s!"Chunk for runner {runnerId} not found", planner)
    | some chunk => do
      let remaining ← chunk.remaining
      let newEnd ← Checked.add chunk.downloaded.stop (min bytesDownloaded remaining)
      let previousEnd := chunk.downloaded.stop
      let accepted ← Checked.sub newEnd previousEnd
      let acceptedBytes ← Checked.add planner.acceptedBytes accepted
      let chunk := { chunk with downloaded := ⟨chunk.downloaded.start, newEnd⟩ }
      let chunk := if chunk.isComplete then { chunk with status := .finished } else chunk
      pure (.ok ⟨previousEnd, newEnd⟩,
        { planner with chunks := planner.chunks.insert start chunk, acceptedBytes })

/-- The `debug_assert!` that the chunk is pending is compiled out of release builds. -/
def markRunning (planner : ChunkPlanner) (runnerId : RunnerId) : Except Error Unit × ChunkPlanner :=
  match planner.runnerToChunk.get? runnerId with
  | none => (.error (.runnerNotFound runnerId), planner)
  | some start =>
    match planner.chunks.get? start with
    | none => (.error (.chunkNotFound runnerId), planner)
    | some chunk =>
      (.ok (), { planner with chunks := planner.chunks.insert start { chunk with status := .running } })

/-- The runner is forgotten even when its chunk is missing. -/
def markFinished (planner : ChunkPlanner) (runnerId : RunnerId)
    : Except Error Unit × ChunkPlanner :=
  match planner.runnerToChunk.get? runnerId with
  | none => (.error (.runnerNotFound runnerId), planner)
  | some start =>
    let planner := { planner with runnerToChunk := planner.runnerToChunk.erase runnerId }
    match planner.chunks.get? start with
    | none => (.error (.chunkNotFound runnerId), planner)
    | some chunk =>
      (.ok (), { planner with chunks := planner.chunks.insert start { chunk with status := .finished } })

/-- Release the unfinished part of the runner's chunk; its downloaded part, if any, stays
as a finished chunk.
-/
def markFailed (planner : ChunkPlanner) (runnerId : RunnerId) : Except Error Range × ChunkPlanner :=
  match planner.runnerToChunk.get? runnerId with
  | none => (.error (.runnerNotFound runnerId), planner)
  | some start =>
    let planner := { planner with runnerToChunk := planner.runnerToChunk.erase runnerId }
    match planner.chunks.get? start with
    | none => (.error (.chunkNotFound runnerId), planner)
    | some chunk =>
      let chunks := planner.chunks.erase start
      let unfinished : Range := ⟨chunk.downloaded.stop, chunk.allocated.stop⟩
      if chunk.downloaded.start = chunk.downloaded.stop then
        (.ok chunk.allocated, { planner with chunks })
      else
        let kept : ChunkState :=
          { chunk with
            allocated := ⟨chunk.allocated.start, chunk.downloaded.stop⟩
            status := .finished
            runnerId := none }
        (.ok unfinished, { planner with chunks := chunks.insert start kept })

/-- Give the part of the runner's chunk from `splitPos` on to a new runner. -/
def splitChunk (planner : ChunkPlanner) (runnerId : RunnerId) (splitPos : Nat)
    (newRunnerId : RunnerId)
    : Except Error Range × ChunkPlanner :=
  match planner.runnerToChunk.get? runnerId with
  | none => (.error (.runnerNotFound runnerId), planner)
  | some start =>
    let runnerToChunk := planner.runnerToChunk.erase runnerId
    match planner.chunks.get? start with
    | none => (.error (.chunkNotFound runnerId), { planner with runnerToChunk })
    | some chunk =>
      let chunks := planner.chunks.erase start
      if splitPos ≤ chunk.downloaded.stop || splitPos ≥ chunk.allocated.stop then
        (.error (.invalidSplitPosition splitPos),
          { planner with
            chunks := chunks.insert start chunk
            runnerToChunk := runnerToChunk.insert runnerId start })
      else
        let firstRange : Range := ⟨chunk.allocated.start, splitPos⟩
        let secondRange : Range := ⟨splitPos, chunk.allocated.stop⟩
        let firstChunk := { chunk with allocated := firstRange }
        let secondChunk := ChunkState.fromRunnerId secondRange (some newRunnerId)
        (.ok secondRange,
          { planner with
            chunks := (chunks.insert firstRange.start firstChunk).insert splitPos secondChunk
            runnerToChunk :=
              (runnerToChunk.insert runnerId firstRange.start).insert newRunnerId splitPos })

/-- One turn of the loop of `getAvailableRanges`: the ranges found and the cursor. -/
def availableStep (found : List Range × Nat) (chunk : ChunkState) : List Range × Nat :=
  (if found.2 < chunk.allocated.start then
      found.1 ++ [⟨found.2, chunk.allocated.start⟩]
    else
      found.1,
    chunk.allocated.stop)

/-- The ranges not allocated to any chunk. -/
def getAvailableRanges (planner : ChunkPlanner) : List Range :=
  let (ranges, cursor) := planner.chunks.values.foldl availableStep ([], 0)
  if cursor < planner.total then ranges ++ [⟨cursor, planner.total⟩] else ranges

/-- One turn of the loop of `mergeAdjacentRanges`, on the merged ranges in reverse. -/
def mergeStep (merged : List Range) (range : Range) : List Range :=
  match merged with
  | [] => [range]
  | last :: earlier =>
    if last.stop ≥ range.start then
      ⟨last.start, max last.stop range.stop⟩ :: earlier
    else
      range :: last :: earlier

def mergeAdjacentRanges (ranges : List Range) : List Range :=
  match ranges.insertionSort (fun left right => left.start ≤ right.start) with
  | [] => []
  | first :: rest => (rest.foldl mergeStep [first]).reverse

/-- All downloaded ranges, for progress reporting. -/
def getDownloadedRanges (planner : ChunkPlanner) : List Range :=
  let ranges :=
    (planner.chunks.values.filter
      (fun chunk => decide (chunk.downloaded.start < chunk.downloaded.stop))).map
      ChunkState.downloaded
  mergeAdjacentRanges (ranges.insertionSort (fun left right => left.start ≤ right.start))

def getTotalDownloaded (planner : ChunkPlanner) : Nat := planner.acceptedBytes

/-- Whether a chunk may be split: downloading, and with at least the asked size left. The
size, twice the minimal chunk size or more, is computed for downloading chunks only.
-/
def splittable (planner : ChunkPlanner) (minChunkSize : Option Nat) (chunk : ChunkState)
    : Checked Bool :=
  if chunk.status = .running ∧ chunk.downloaded.stop < chunk.allocated.stop then do
    let remaining ← chunk.remaining
    let twice ← Checked.mul 2 planner.minChunkSize
    let asked :=
      match minChunkSize with
      | some size => max size twice
      | none => twice
    pure (decide (remaining ≥ asked))
  else
    pure false

/-- The incomplete ranges of the running runners that may be split. -/
def getIncompleteStates (planner : ChunkPlanner) (minChunkSize : Option Nat)
    : Checked (List (RunnerId × Range)) := do
  let chunks ← planner.chunks.values.filterM (planner.splittable minChunkSize)
  chunks.mapM (fun chunk => do
    let runnerId ← Checked.expect chunk.runnerId "runner id should be some if not finished"
    pure (runnerId, chunk.incompleteRange))

/-- One turn of the search for an available range: `.inl` once one is long enough. -/
def fittingStep (requiredSize : Nat) (best : Option Range) (range : Range)
    : Checked (Range ⊕ Option Range) := do
  let length ← Checked.sub range.stop range.start
  if length ≥ requiredSize then
    let stop ← Checked.add range.start requiredSize
    pure (.inl ⟨range.start, stop⟩)
  else
    match best with
    | none => pure (.inr (some range))
    | some previous =>
      let previousLength ← Checked.sub previous.stop previous.start
      pure (.inr (some (if previousLength > length then previous else range)))

/-- The first available range that is long enough, else the last longest one. -/
def fittingRange (requiredSize : Nat) : Option Range → List Range → Checked (Option Range)
  | best, [] => pure best
  | best, range :: rest => do
    match ← fittingStep requiredSize best range with
    | .inl fitting => pure (some fitting)
    | .inr best => fittingRange requiredSize best rest

/-- The chunks a split may take from: downloading, with at least the minimal size left. -/
def splitCandidate (planner : ChunkPlanner) (chunk : ChunkState) : Checked Bool :=
  if chunk.status = .running ∧ chunk.runnerId.isSome then do
    let remaining ← chunk.remaining
    pure (decide (remaining ≥ planner.minChunkSize))
  else
    pure false

/-- `max_by_key` on the remaining bytes: the last chunk among those with the most. -/
def mostRemaining : List ChunkState → Checked (Option ChunkState)
  | [] => pure none
  | chunk :: rest => do
    let later ← mostRemaining rest
    match later with
    | none => pure (some chunk)
    | some other =>
      let remaining ← chunk.remaining
      let otherRemaining ← other.remaining
      pure (some (if remaining > otherRemaining then chunk else other))

/-- A range of the asked size to give to another runner: an available one, else a part of
the chunk with the most left to download.
-/
def findChunkToSplit (planner : ChunkPlanner) (requiredSize : Nat)
    : Checked (Option (Option RunnerId × Range)) := do
  match ← fittingRange requiredSize none planner.getAvailableRanges with
  | some available => pure (some (none, available))
  | none =>
    let candidates ← planner.chunks.values.filterM planner.splitCandidate
    match ← mostRemaining candidates with
    | some chunk =>
      let splitPos ← Checked.add chunk.downloaded.stop requiredSize
      pure (some (chunk.runnerId, ⟨chunk.downloaded.stop, splitPos⟩))
    | none => pure none

def getRunnerState (planner : ChunkPlanner) (runnerId : RunnerId) : Option ChunkState :=
  (planner.runnerToChunk.get? runnerId).bind planner.chunks.get?

/-- Shrink the runner's chunk to end `newSize` bytes after its downloaded part. -/
def resizeRunnerState (planner : ChunkPlanner) (runnerId : RunnerId) (newSize : Nat)
    : Checked (Except Error Resize × ChunkPlanner) :=
  match planner.runnerToChunk.get? runnerId with
  | none => .ok (.error (.runnerNotFound runnerId), planner)
  | some start =>
    match planner.chunks.get? start with
    | none => .ok (.error (.chunkNotFound runnerId), planner)
    | some state =>
      match Checked.checkedAdd state.downloaded.stop newSize with
      | none => .ok (.error (.invalidResize runnerId newSize), planner)
      | some newEnd =>
        if newEnd = state.allocated.stop then
          .ok (.ok .unchanged, planner)
        else if state.allocated.start < newEnd ∧ newEnd < state.allocated.stop then do
          let state := { state with allocated := ⟨state.allocated.start, newEnd⟩ }
          let limit ← Checked.sub newEnd state.allocated.start
          pure (.ok (.shrunk limit), { planner with chunks := planner.chunks.insert start state })
        else
          .ok (.error (.invalidResize runnerId newSize), planner)

/-- Whether every chunk is finished and nothing is left to allocate. -/
def isComplete (planner : ChunkPlanner) : Bool :=
  !planner.chunks.entries.isEmpty
    && planner.chunks.values.all (fun chunk => chunk.status == .finished)
    && planner.getAvailableRanges.isEmpty

end ChunkPlanner

end BoltLoad
