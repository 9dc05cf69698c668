import BoltLoad.Runner.Effects
import BoltLoad.RunnerManager.Run

/-! The manager together with the runners it spawned: the rings they push to, the mailboxes
their limits arrive in, and the streams they read. A runner's turn, its death and a step of the
manager come in any order; a poll of the manager finds what the rings hold.
-/

namespace BoltLoad

open OrderedMap

/-- A spawned runner with its ends of the channels. -/
structure Instance where
  run : RunnerRun
  /-- The range it was spawned for. -/
  requested : Range
  /-- The limit it has not read yet. -/
  mailbox : Option Nat
  /-- The limits sent so far, oldest first. -/
  sent : List Nat
  /-- Whether its task was dropped, after it returned or before. -/
  gone : Bool

/-- The state of one download attempt. -/
structure Transfer where
  managed : ManagerRun
  instances : OrderedMap Port Instance

inductive TransferEvent
  | spawn (range : Range) (outcome : Except SpawnFailed Unit)
  | resize (runnerId : RunnerId) (newSize : Nat)
  | tick (now : Instant) (dataEnabled : Bool) (lifecycle : Option LifecycleStreamEvent)
    (data : Option DataStreamEvent)
  | takeMetersSnapshot
  | observeOutcomes (sampler : RunnerOutcomeSampler)
  /-- A runner is polled once, with these observations. -/
  | turn (port : Port) (sources : Sources)
  /-- A runner's task is dropped. -/
  | vanish (port : Port)

namespace Instance

/-- `RunnerSpawner::spawn`: the runner connects to the range itself. -/
def new (range : Range) : Instance where
  run := .new .run (some (range.stop - range.start)) .connecting
  requested := range
  mailbox := none
  sent := []
  gone := false

/-- A limit replaces the unread one. -/
def receive (inst : Instance) (limit : Nat) : Instance :=
  { inst with mailbox := some limit, sent := inst.sent ++ [limit] }

/-- Taking a limit empties the mailbox. -/
def mailboxAfter (inst : Instance) : Effect → Option Nat
  | .takeControl _ => none
  | _ => inst.mailbox

/-- The consumer takes the oldest event. -/
def takeLifecycle (inst : Instance) : Instance :=
  { inst with run := { inst.run with lifecycle := inst.run.lifecycle.tail } }

/-- The consumer takes the oldest frame. -/
def takeData (inst : Instance) : Instance :=
  { inst with run := { inst.run with data := inst.run.data.tail } }

/-- Its rings once the manager took what it handles. -/
def consumed (inst : Instance) (manager : RunnerManager) (cause : Option RunnerManager.Cause)
    (port : Port)
    : Instance :=
  match cause with
  | some (.lifecycle (.event runnerId _)) =>
    if manager.lifecycleAggregator.get? runnerId = some port then inst.takeLifecycle else inst
  | some (.data (.data runnerId _)) =>
    if manager.dataAggregator.get? runnerId = some port then inst.takeData else inst
  | _ => inst

/-- The rings lose the consumers the manager dropped. -/
def settle (inst : Instance) (manager : RunnerManager) (port : Port) : Instance :=
  { inst with
    run :=
      { inst.run with
        lifecycleGone :=
          inst.run.lifecycleGone || !decide (port ∈ manager.lifecycleAggregator.values)
        dataGone :=
          inst.run.dataGone
            || !decide (port ∈ manager.connectingData.values
              ∨ port ∈ manager.dataAggregator.values) } }

/-- Whether no more frames will be pushed: the runner dropped its sender. -/
def dataClosed (inst : Instance) : Bool := inst.gone || !inst.run.loop.runner.dataOpen

end Instance

namespace Transfer

def new (total maxConcurrency : Nat) : Transfer where
  managed := .new total maxConcurrency
  instances := ∅

/-- What the rings let a poll of the manager find. -/
def Offers (transfer : Transfer) : RunnerManager.Cause → Prop
  | .spawnFailure _ _ => True
  | .lifecycle (.event runnerId item) =>
    ∃ port ∈ transfer.managed.manager.lifecycleAggregator.get? runnerId,
      ∃ inst ∈ transfer.instances.get? port, inst.run.lifecycle.head? = some item
  | .lifecycle (.closed runnerId) =>
    ∃ port ∈ transfer.managed.manager.lifecycleAggregator.get? runnerId,
      ∃ inst ∈ transfer.instances.get? port, inst.run.lifecycle = [] ∧ inst.gone = true
  | .data (.data runnerId item) =>
    ∃ port ∈ transfer.managed.manager.dataAggregator.get? runnerId,
      ∃ inst ∈ transfer.instances.get? port, inst.run.data.head? = some item
  | .data (.closed runnerId) =>
    ∃ port ∈ transfer.managed.manager.dataAggregator.get? runnerId,
      ∃ inst ∈ transfer.instances.get? port, inst.run.data = [] ∧ inst.dataClosed = true

instance (transfer : Transfer) : (cause : RunnerManager.Cause) → Decidable (transfer.Offers cause)
  | .spawnFailure _ _ => .isTrue trivial
  | .lifecycle (.event _ _) => inferInstanceAs (Decidable (∃ _ ∈ _, ∃ _ ∈ _, _))
  | .lifecycle (.closed _) => inferInstanceAs (Decidable (∃ _ ∈ _, ∃ _ ∈ _, _))
  | .data (.data _ _) => inferInstanceAs (Decidable (∃ _ ∈ _, ∃ _ ∈ _, _))
  | .data (.closed _) => inferInstanceAs (Decidable (∃ _ ∈ _, ∃ _ ∈ _, _))

/-- Whether a runner can see its mailbox so: a limit only if there is an unread one, and the
closed mailbox only once that was read and the manager dropped the sender.
-/
def Sees (transfer : Transfer) (port : Port) (inst : Instance) (sources : Sources) : Prop :=
  match sources.control with
  | none => True
  | some (some (.limitTotal limit)) => inst.mailbox = some limit
  | some none => inst.mailbox = none ∧ port ∉ transfer.managed.manager.limitSenders.values

instance (transfer : Transfer) (port : Port) (inst : Instance) (sources : Sources)
    : Decidable (transfer.Sees port inst sources) := by
  unfold Sees
  split <;> infer_instance

def Enabled (transfer : Transfer) : TransferEvent → Prop
  | .tick _ dataEnabled lifecycle data =>
    ∀ cause ∈ transfer.managed.manager.selected dataEnabled lifecycle data,
      transfer.Offers cause
  | .turn port sources =>
    ∃ inst ∈ transfer.instances.get? port,
      inst.gone = false
      ∧ inst.run.loop.isStopped = false
      ∧ inst.run.Allows sources
      ∧ transfer.Sees port inst sources
  | .vanish port => ∃ inst, inst ∈ transfer.instances.get? port
  | _ => True

instance (transfer : Transfer) : (event : TransferEvent) → Decidable (transfer.Enabled event)
  | .tick _ _ _ _ => inferInstanceAs (Decidable (∀ _ ∈ _, _))
  | .turn _ _ => inferInstanceAs (Decidable (∃ _ ∈ _, _))
  | .vanish port => decidable_of_iff ((transfer.instances.get? port).isSome = true)
      Option.isSome_iff_exists
  | .spawn _ _ => .isTrue trivial
  | .resize _ _ => .isTrue trivial
  | .takeMetersSnapshot => .isTrue trivial
  | .observeOutcomes _ => .isTrue trivial

/-- The instances once one of them changed. -/
def update (transfer : Transfer) (port : Port) (change : Instance → Instance)
    : OrderedMap Port Instance :=
  match transfer.instances.get? port with
  | some inst => transfer.instances.insert port (change inst)
  | none => transfer.instances

/-- An accepted spawn starts a runner; its port is the one the manager gave out. -/
def spawn (transfer : Transfer) (range : Range) (outcome : Except SpawnFailed Unit)
    : Checked Transfer := do
  let (result, managed) ← transfer.managed.spawn range outcome
  pure {
    managed
    instances :=
      if result.isSome ∧ outcome.isOk then
        transfer.instances.insert transfer.managed.nextPort (.new range)
      else
        transfer.instances }

/-- Whether the mailbox of a runner still has its receiver. -/
def receives (transfer : Transfer) (runnerId : RunnerId) : Bool :=
  ((transfer.managed.manager.limitSenders.get? runnerId).bind transfer.instances.get?).any
    (fun inst => !inst.gone)

/-- A resize puts its limit into the runner's mailbox. -/
def resize (transfer : Transfer) (runnerId : RunnerId) (newSize : Nat) : Checked Transfer := do
  let (_, sent, managed) ←
    transfer.managed.resize runnerId newSize (transfer.receives runnerId)
  pure {
    managed
    instances :=
      match sent with
      | some (port, limit) => transfer.update port (fun inst => inst.receive limit)
      | none => transfer.instances }

def tick (transfer : Transfer) (now : Instant) (dataEnabled : Bool)
    (lifecycle : Option LifecycleStreamEvent) (data : Option DataStreamEvent)
    : Checked (Option RunnerTick × Transfer) := do
  let cause := transfer.managed.manager.selected dataEnabled lifecycle data
  let (tick, managed) ← transfer.managed.tick now dataEnabled lifecycle data
  pure (tick,
    { managed
      instances :=
        transfer.instances.mapValues (fun port inst =>
          (inst.consumed transfer.managed.manager cause port).settle managed.manager port) })

/-- One turn of a runner. -/
def turn (usizeSize : Nat) (transfer : Transfer) (port : Port) (sources : Sources)
    : Checked Transfer :=
  match transfer.instances.get? port with
  | none => .error (.unreachable "a turn of no runner")
  | some inst => do
    let polled ← inst.run.loop.pollStep sources
    let run ← inst.run.turn usizeSize sources
    pure { transfer with
      instances :=
        transfer.instances.insert port
          { inst with run, mailbox := inst.mailboxAfter polled.effect } }

def next (usizeSize : Nat) (transfer : Transfer) : TransferEvent → Checked Transfer
  | .spawn range outcome => transfer.spawn range outcome
  | .resize runnerId newSize => transfer.resize runnerId newSize
  | .tick now dataEnabled lifecycle data =>
    (transfer.tick now dataEnabled lifecycle data).map Prod.snd
  | .takeMetersSnapshot =>
    .ok { transfer with
      managed :=
        { transfer.managed with manager := transfer.managed.manager.takeMetersSnapshot.2 } }
  | .observeOutcomes sampler =>
    .ok { transfer with
      managed :=
        { transfer.managed with
          manager := { transfer.managed.manager with runnerOutcomeSampler := sampler } } }
  | .turn port sources => transfer.turn usizeSize port sources
  | .vanish port =>
    .ok { transfer with instances := transfer.update port (fun inst => { inst with gone := true }) }

/-- The download attempts for a file whose size is a `u64`. -/
def machine (usizeSize : Nat) : Machine Transfer TransferEvent Panic where
  Initial transfer :=
    ∃ total maxConcurrency, total < u64Size ∧ transfer = .new total maxConcurrency
  Enabled := Enabled
  next := next usizeSize

instance (usizeSize : Nat) (transfer : Transfer) (event : TransferEvent)
    : Decidable ((machine usizeSize).Enabled transfer event) :=
  inferInstanceAs (Decidable (transfer.Enabled event))

/-- An enabled event that does not panic leads on. -/
theorem reachable_next {usizeSize : Nat} {transfer after : Transfer}
    (reached : (machine usizeSize).Reachable transfer) (event : TransferEvent)
    (enabled : transfer.Enabled event) (next : transfer.next usizeSize event = .ok after)
    : (machine usizeSize).Reachable after :=
  reached.step ⟨enabled, next⟩

end Transfer

end BoltLoad
