import BoltLoad.RunnerManager.Runs

/-! One run of the manager as a machine: spawns, resizes, snapshots, reads of the outcomes
and ticks in any order, under runners that keep to their protocol. Ghost fields record whose `Started` was delivered,
what was handed out for writing, and whether a tick reported the task finished.
-/

namespace BoltLoad

open OrderedMap

structure ManagerRun where
  manager : RunnerManager
  /-- The ports whose `Started` was delivered. -/
  announced : List Port
  /-- The port of the next runner to be spawned. -/
  nextPort : Port
  written : List DownloadedChunk
  reportedFinished : Bool

inductive ManagerEvent
  | spawn (range : Range) (outcome : Except SpawnFailed Unit)
  /-- A resize; `receiving` is whether the runner's mailbox still has its receiver. -/
  | resize (runnerId : RunnerId) (newSize : Nat) (receiving : Bool)
  /-- A poll; the aggregators offer `lifecycle` and `data`. -/
  | tick (now : Instant) (dataEnabled : Bool) (lifecycle : Option LifecycleStreamEvent)
    (data : Option DataStreamEvent)
  | takeMetersSnapshot
  /-- The strategies read the outcomes through `runner_outcome_sampler_mut`, which may leave
  any sampler behind.
  -/
  | observeOutcomes (sampler : RunnerOutcomeSampler)

namespace ManagerRun

def new (total maxConcurrency : Nat) : ManagerRun where
  manager := .new total maxConcurrency
  announced := []
  nextPort := 0
  written := []
  reportedFinished := false

/-- Every spawn gets channels of its own. -/
def spawn (run : ManagerRun) (range : Range) (outcome : Except SpawnFailed Unit)
    : Checked (Option Unit × ManagerRun) := do
  let (result, manager) ←
    run.manager.spawnRunnerWithChunk range run.nextPort (RunnerManager.spawnWith outcome)
  pure (result, { run with manager, nextPort := run.nextPort + 1 })

def resize (run : ManagerRun) (runnerId : RunnerId) (newSize : Nat) (receiving : Bool)
    : Checked (Except ResizeError Unit × Option (Port × Nat) × ManagerRun) := do
  let (result, sent, manager) ← run.manager.resizeRunner runnerId newSize receiving
  pure (result, sent, { run with manager })

/-- The ports announced once a cause was handled. -/
def announcedAfter (run : ManagerRun) : Option RunnerManager.Cause → List Port
  | some (.lifecycle (.event runnerId .started)) =>
    (run.manager.lifecycleAggregator.get? runnerId).toList ++ run.announced
  | _ => run.announced

def tick (run : ManagerRun) (now : Instant) (dataEnabled : Bool)
    (lifecycle : Option LifecycleStreamEvent) (data : Option DataStreamEvent)
    : Checked (Option RunnerTick × ManagerRun) := do
  let (tick, manager) ← run.manager.pollTick now dataEnabled lifecycle data
  pure (tick,
    { run with
      manager
      announced := run.announcedAfter (run.manager.selected dataEnabled lifecycle data)
      written := run.written ++ (tick.bind RunnerTick.downloaded).toList
      reportedFinished :=
        run.reportedFinished || tick.any (fun tick => tick.state == .finished) })

/-- What the runner protocol lets a poll deliver: of registered members only, and `Started`
at most once for each.
-/
def Delivers (run : ManagerRun) : RunnerManager.Cause → Prop
  | .spawnFailure _ _ => True
  | .lifecycle (.event runnerId .started) =>
    ∃ port ∈ run.manager.lifecycleAggregator.get? runnerId, port ∉ run.announced
  | .lifecycle (.event runnerId (.stopped _)) =>
    runnerId ∈ run.manager.lifecycleAggregator.keys
  | .lifecycle (.closed runnerId) => runnerId ∈ run.manager.lifecycleAggregator.keys
  | .data (.data runnerId _) => runnerId ∈ run.manager.dataAggregator.keys
  | .data (.closed runnerId) => runnerId ∈ run.manager.dataAggregator.keys

instance (run : ManagerRun) : (cause : RunnerManager.Cause) → Decidable (run.Delivers cause)
  | .spawnFailure _ _ => .isTrue trivial
  | .lifecycle (.event _ .started) => inferInstanceAs (Decidable (∃ _ ∈ _, _))
  | .lifecycle (.event _ (.stopped _)) => inferInstanceAs (Decidable (_ ∈ _))
  | .lifecycle (.closed _) => inferInstanceAs (Decidable (_ ∈ _))
  | .data (.data _ _) => inferInstanceAs (Decidable (_ ∈ _))
  | .data (.closed _) => inferInstanceAs (Decidable (_ ∈ _))

def Enabled (run : ManagerRun) : ManagerEvent → Prop
  | .tick _ dataEnabled lifecycle data =>
    ∀ cause ∈ run.manager.selected dataEnabled lifecycle data, run.Delivers cause
  | _ => True

instance (run : ManagerRun) : (event : ManagerEvent) → Decidable (run.Enabled event)
  | .tick _ _ _ _ => inferInstanceAs (Decidable (∀ _ ∈ _, _))
  | .spawn _ _ => .isTrue trivial
  | .resize _ _ _ => .isTrue trivial
  | .takeMetersSnapshot => .isTrue trivial
  | .observeOutcomes _ => .isTrue trivial

def next (run : ManagerRun) : ManagerEvent → Checked ManagerRun
  | .spawn range outcome => (run.spawn range outcome).map Prod.snd
  | .resize runnerId newSize receiving =>
    (run.resize runnerId newSize receiving).map (fun resized => resized.2.2)
  | .tick now dataEnabled lifecycle data =>
    (run.tick now dataEnabled lifecycle data).map Prod.snd
  | .takeMetersSnapshot => .ok { run with manager := run.manager.takeMetersSnapshot.2 }
  | .observeOutcomes sampler =>
    .ok { run with manager := { run.manager with runnerOutcomeSampler := sampler } }

/-- The runs of a manager over a file whose size is a `u64`. -/
def machine : Machine ManagerRun ManagerEvent Panic where
  Initial run := ∃ total maxConcurrency, total < u64Size ∧ run = .new total maxConcurrency
  Enabled := Enabled
  next := next

instance (run : ManagerRun) (event : ManagerEvent) : Decidable (machine.Enabled run event) :=
  inferInstanceAs (Decidable (run.Enabled event))

/-- An enabled event that does not panic leads on. -/
theorem reachable_next {run after : ManagerRun} (reached : machine.Reachable run)
    (event : ManagerEvent) (enabled : run.Enabled event) (next : run.next event = .ok after)
    : machine.Reachable after :=
  reached.step ⟨enabled, next⟩

end ManagerRun

end BoltLoad
