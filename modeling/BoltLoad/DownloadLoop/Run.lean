import BoltLoad.DownloadLoop.Model

/-! One run of the download loop as a machine: turns of the loop, turns and deaths of the
runners and completions of the backend in any order, until `run` returns and `finish` has
flushed the writer. A ghost field records every completion the loop or its flush took.
-/

namespace BoltLoad

/-- Where an attempt stands. -/
inductive LoopStage
  | running
  /-- `run` returned; `finish` waits for the runners. -/
  | joining (result : Except DownloadError Unit) (progress : Progress)
  /-- `finish` flushes the writer, with what the flush took so far. -/
  | flushing (result : Except DownloadError Unit) (progress : Progress)
    (completions : List WriteCompletion)
  | finished (result : Except DownloadError Unit) (progress : Progress)
  deriving DecidableEq

namespace LoopStage

def isJoining : LoopStage → Bool
  | joining _ _ => true
  | _ => false

def isFlushing : LoopStage → Bool
  | flushing _ _ _ => true
  | _ => false

theorem isJoining_iff {stage : LoopStage}
    : stage.isJoining = true ↔ ∃ result progress, stage = .joining result progress := by
  cases stage <;> simp [isJoining]

theorem isFlushing_iff {stage : LoopStage}
    : stage.isFlushing = true
      ↔ ∃ result progress completions, stage = .flushing result progress completions := by
  cases stage <;> simp [isFlushing]

end LoopStage

structure LoopRun where
  loop : DownloadLoop
  stage : LoopStage
  reported : List WriteCompletion

inductive LoopRunEvent
  /-- The loop is polled. -/
  | poll (sources : LoopSources)
  | turn (port : Port) (sources : Sources)
  | vanish (port : Port)
  /-- The backend completes one of the writes it holds. -/
  | complete (index : Nat) (result : Except FileWriterError Unit)
  /-- The runners are gone, and the flush begins. -/
  | join (immediate : Immediate)
  /-- The flush is polled. -/
  | flushStep (immediate : Immediate)

/-- The progress `finish` records. -/
def DownloadLoop.progress (loop : DownloadLoop) : Progress where
  total := some loop.manager.chunkPlanner.total
  downloaded := loop.manager.chunkPlanner.getTotalDownloaded
  downloadedChunks := loop.manager.chunkPlanner.getDownloadedRanges

/-- What the loop took from the writer. -/
def LoopEvent.completions : LoopEvent → List WriteCompletion
  | .writerCompleted (some completions) => completions
  | _ => []

namespace LoopRun

def new (total maxConcurrency : Nat) (options : TaskOptions) (now : Instant) : LoopRun where
  loop := .new total maxConcurrency options now
  stage := .running
  reported := []

def transfer (run : LoopRun) : Transfer := run.loop.transfer

def Enabled (run : LoopRun) : LoopRunEvent → Prop
  | .poll sources =>
    run.stage = .running
    ∧ (sources.deadline = true → run.loop.deadlineAt ≤ sources.now)
    ∧ run.transfer.Enabled
        (.tick sources.now run.loop.writer.canWrite sources.lifecycle sources.data)
  | .turn port sources => run.stage = .running ∧ run.transfer.Enabled (.turn port sources)
  | .vanish port => run.stage = .running ∧ run.transfer.Enabled (.vanish port)
  | .complete index _ => index < run.loop.writer.outstanding.length
  | .join _ => run.stage.isJoining = true
  | .flushStep _ => run.stage.isFlushing = true

instance (run : LoopRun) : (event : LoopRunEvent) → Decidable (run.Enabled event)
  | .poll _ => inferInstanceAs (Decidable (_ ∧ _ ∧ _))
  | .turn _ _ => inferInstanceAs (Decidable (_ ∧ _))
  | .vanish _ => inferInstanceAs (Decidable (_ ∧ _))
  | .complete _ _ => inferInstanceAs (Decidable (_ < _))
  | .join _ => inferInstanceAs (Decidable (_ = _))
  | .flushStep _ => inferInstanceAs (Decidable (_ = _))

/-- Where a handled event leads. -/
def stageAfter (loop : DownloadLoop) : Except DownloadError ControlFlow → LoopStage
  | .ok .continues => .running
  | .ok .breaks => .joining (.ok ()) loop.progress
  | .error error => .joining (.error error) loop.progress

def poll (run : LoopRun) (sources : LoopSources) : Checked LoopRun := do
  match ← run.loop.pollEvent sources with
  | (none, loop) => pure { run with loop }
  | (some event, loop) => do
    let (result, loop) ← loop.handleEvent sources event
    pure {
      loop
      stage := stageAfter loop result
      reported := run.reported ++ event.completions }

/-- `transfer_result.and(flush_result)`: the first error takes precedence. -/
def finalResult : Except DownloadError Unit → Except DownloadError Nat → Except DownloadError Unit
  | .ok (), flushResult => flushResult.map (fun _ => ())
  | .error error, _ => .error error

/-- The writer's flush starts with what is already available. -/
def join (run : LoopRun) (result : Except DownloadError Unit) (progress : Progress)
    (immediate : Immediate)
    : Checked LoopRun := do
  let (completions, writer) ← run.loop.writer.tryTick immediate
  pure {
    loop := { run.loop with writer }
    stage := .flushing result progress completions
    reported := run.reported ++ completions }

/-- A turn of the flush, after which `finish` returns once nothing is in flight. -/
def flushStep (run : LoopRun) (result : Except DownloadError Unit) (progress : Progress)
    (completions : List WriteCompletion) (immediate : Immediate)
    : Checked LoopRun := do
  match ← run.loop.writer.flushStep immediate with
  | (some batch, writer) =>
    pure {
      loop := { run.loop with writer }
      stage := .flushing result progress (completions ++ batch)
      reported := run.reported ++ batch }
  | (none, writer) => do
    let flushResult ← DownloadLoop.checkCompletions completions
    pure { run with
      loop := { run.loop with writer }
      stage := .finished (finalResult result flushResult) progress }

def next (usizeSize : Nat) (run : LoopRun) : LoopRunEvent → Checked LoopRun
  | .poll sources => run.poll sources
  | .turn port sources => do
    let transfer ← run.transfer.turn usizeSize port sources
    pure { run with loop := { run.loop with transfer } }
  | .vanish port => do
    let transfer ← run.transfer.next usizeSize (.vanish port)
    pure { run with loop := { run.loop with transfer } }
  | .complete index result => do
    let writer ← run.loop.writer.complete index result
    pure { run with loop := { run.loop with writer } }
  | .join immediate =>
    match run.stage with
    | .joining result progress => run.join result progress immediate
    | _ => pure run
  | .flushStep immediate =>
    match run.stage with
    | .flushing result progress completions =>
      run.flushStep result progress completions immediate
    | _ => pure run

/-- The attempts at a file whose size is a `u64`, with at least one runner allowed. -/
def machine (usizeSize : Nat) : Machine LoopRun LoopRunEvent Panic where
  Initial run :=
    ∃ total maxConcurrency options now,
      total < u64Size ∧ 0 < maxConcurrency ∧ run = .new total maxConcurrency options now
  Enabled := Enabled
  next := next usizeSize

instance (usizeSize : Nat) (run : LoopRun) (event : LoopRunEvent)
    : Decidable ((machine usizeSize).Enabled run event) :=
  inferInstanceAs (Decidable (run.Enabled event))

end LoopRun

end BoltLoad
