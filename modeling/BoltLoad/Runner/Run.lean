import BoltLoad.Library.Machine
import BoltLoad.Runner.RunLoop

/-! One run of a freshly built runner as a machine: the task driving its loop, the two rings
it pushes to, and the consumer taking from them. A turn's observations are free, except that
a ring cannot be seen otherwise than it is. Three ghost fields record what the runner pushed,
what it read, and whether a limit ever failed to apply.
-/

namespace BoltLoad

/-- Something a runner pushed to one of its rings. -/
inductive Pushed
  | lifecycle (event : LifecycleEvent)
  | data (frame : DataFrame)
  deriving DecidableEq, Repr

/-- The task driving a loop: `run`, or `run_after_started` before it published `Started`
and while it awaits `ready`.
-/
inductive Driver
  | run
  | untilStarted
  | awaitingReady
  deriving DecidableEq, Repr

structure RunnerRun where
  driver : Driver
  loop : RunnerLoop
  /-- The events the consumer has not taken yet, oldest first. -/
  lifecycle : List LifecycleEvent
  /-- The frames the consumer has not taken yet, oldest first. -/
  data : List DataFrame
  lifecycleGone : Bool
  dataGone : Bool
  history : List Pushed
  read : Bytes
  refused : Bool

inductive RunnerEvent
  /-- The loop is polled once, with these observations. -/
  | turn (sources : Sources)
  /-- The future `run_after_started` awaits is ready. -/
  | ready
  | takeLifecycle
  | takeData
  | dropLifecycle
  | dropData

/-- Everything pushed to the data ring. -/
def framesOf (history : List Pushed) : List DataFrame :=
  history.filterMap (fun entry =>
    match entry with
    | .data frame => some frame
    | .lifecycle _ => none)

/-- Everything pushed to the lifecycle ring. -/
def eventsOf (history : List Pushed) : List LifecycleEvent :=
  history.filterMap (fun entry =>
    match entry with
    | .lifecycle event => some event
    | .data _ => none)

def bytesOf (frames : List DataFrame) : Bytes :=
  frames.flatMap DataFrame.data

namespace RunnerRun

/-- A freshly built runner. -/
def new (driver : Driver) (total : Option Nat) (input : RunnerInput) : RunnerRun where
  driver := driver
  loop := .new { total, downloaded := 0, input, dataOpen := true }
  lifecycle := []
  data := []
  lifecycleGone := false
  dataGone := false
  history := []
  read := []
  refused := false

/-- The bytes pushed to the data ring. -/
def pushed (run : RunnerRun) : Bytes :=
  bytesOf (framesOf run.history)

/-- Whether the observations of a turn can be made in this state of the rings. A stale
`pending` is allowed everywhere.
-/
def Allows (run : RunnerRun) (sources : Sources) : Prop :=
  (sources.lifecycleReady = some true
    → run.lifecycleGone = false ∧ run.lifecycle.length < lifecycleChannelCapacity)
  ∧ (sources.lifecycleReady = some false → run.lifecycleGone = true)
  ∧ (sources.dataReady = some true
    → run.dataGone = false ∧ run.data.length < dataFrameChannelCapacity)
  ∧ (sources.dataReady = some false → run.dataGone = true)
  ∧ (sources.drained = true → run.data = [] ∨ run.dataGone = true)

instance (run : RunnerRun) (sources : Sources) : Decidable (run.Allows sources) :=
  inferInstanceAs (Decidable (_ ∧ _ ∧ _ ∧ _ ∧ _))

/-- Whether `apply_control` fails on a signal. -/
def refuses (total : Option Nat) (signal : ControlEvent) : Bool :=
  match TaskRunner.applyControl total signal with
  | .ok _ => false
  | .error _ => true

/-- What a turn does to the rings; the only producer saw a vacant slot. -/
def apply (run : RunnerRun) : Effect → Checked RunnerRun
  | .none => pure run
  | .takeControl signal =>
    pure { run with refused := run.refused || refuses run.loop.runner.total signal }
  | .readStream item => pure { run with read := run.read ++ item }
  | .pushLifecycle event =>
    if run.lifecycle.length < lifecycleChannelCapacity then
      pure { run with
        lifecycle := run.lifecycle ++ [event], history := run.history ++ [.lifecycle event] }
    else
      .error (.unreachable "a vacant slot was filled by another producer")
  | .pushData frame =>
    if run.data.length < dataFrameChannelCapacity then
      pure { run with data := run.data ++ [frame], history := run.history ++ [.data frame] }
    else
      .error (.unreachable "a vacant slot was filled by another producer")

/-- Whether `poll_until_started` returns on a step instead of handling it. -/
def returnsOn (driver : Driver) : Step → Bool
  | .started (.ok ()) => driver = .untilStarted
  | _ => false

/-- Poll the loop once and handle the event it selected. -/
def turn (usizeSize : Nat) (run : RunnerRun) (sources : Sources) : Checked RunnerRun := do
  let polled ← run.loop.pollStep sources
  let run ← run.apply polled.effect
  match polled.step with
  | none => pure { run with loop := polled.loop }
  | some step =>
    if returnsOn run.driver step then
      pure { run with driver := .awaitingReady, loop := polled.loop }
    else do
      let loop ← polled.loop.handleStep usizeSize step
      pure { run with loop }

/-- `run_after_started` goes on after `ready`. -/
def resume (usizeSize : Nat) (run : RunnerRun) : Checked RunnerRun := do
  let loop ← run.loop.handleStep usizeSize (.started (.ok ()))
  pure { run with driver := .run, loop }

def Enabled (run : RunnerRun) : RunnerEvent → Prop
  | .turn sources =>
    run.driver ≠ .awaitingReady ∧ run.loop.isStopped = false ∧ run.Allows sources
  | .ready => run.driver = .awaitingReady
  | .takeLifecycle => run.lifecycleGone = false ∧ run.lifecycle ≠ []
  | .takeData => run.dataGone = false ∧ run.data ≠ []
  | .dropLifecycle => True
  | .dropData => True

instance (run : RunnerRun) : (event : RunnerEvent) → Decidable (run.Enabled event)
  | .turn _ => inferInstanceAs (Decidable (_ ∧ _ ∧ _))
  | .ready => inferInstanceAs (Decidable (_ = _))
  | .takeLifecycle => inferInstanceAs (Decidable (_ ∧ _))
  | .takeData => inferInstanceAs (Decidable (_ ∧ _))
  | .dropLifecycle => .isTrue trivial
  | .dropData => .isTrue trivial

def next (usizeSize : Nat) (run : RunnerRun) : RunnerEvent → Checked RunnerRun
  | .turn sources => run.turn usizeSize sources
  | .ready => run.resume usizeSize
  | .takeLifecycle => pure { run with lifecycle := run.lifecycle.tail }
  | .takeData => pure { run with data := run.data.tail }
  | .dropLifecycle => pure { run with lifecycleGone := true }
  | .dropData => pure { run with dataGone := true }

/-- The runs of a freshly built runner, connected or not, with a total or without. -/
def machine (usizeSize : Nat) : Machine RunnerRun RunnerEvent Panic where
  Initial run :=
    ∃ driver total input,
      driver ≠ .awaitingReady ∧ input ≠ .abandoned ∧ run = .new driver total input
  Enabled := Enabled
  next := next usizeSize

instance (usizeSize : Nat) (run : RunnerRun) (event : RunnerEvent)
    : Decidable ((machine usizeSize).Enabled run event) :=
  inferInstanceAs (Decidable (run.Enabled event))

end RunnerRun

end BoltLoad
