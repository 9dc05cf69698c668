import BoltLoad.ChunkPlanner.Available
import BoltLoad.Library.Machine
import BoltLoad.Strategy.Steps

/-! The level of concurrency over the runs of the concurrency control. The loop owns the level
and changes it as the actions ask for; the strategy keeps a copy of its own while it is
degraded or recovering.
-/

namespace BoltLoad

namespace StrategyAction

/-- The level once the loop applied an action. -/
def level (current : Nat) : StrategyAction → Nat
  | changeMaxConcurrency maxConcurrency => maxConcurrency
  | _ => current

def created? : StrategyAction → Option Range
  | createTask range => some range
  | _ => none

/-- The level once the loop applied all actions of a step. -/
def levelAfter (actions : List StrategyAction) (current : Nat) : Nat :=
  actions.foldl level current

/-- The ranges that the actions of a step create tasks for. -/
def created (actions : List StrategyAction) : List Range := actions.filterMap created?

/-- Creating tasks leaves the level alone, by induction on the ranges. -/
theorem levelAfter_createTasks (ranges : List Range) (current : Nat)
    : levelAfter (ranges.map createTask) current = current := by
  induction ranges with
  | nil => rfl
  | cons range rest ih => exact ih

theorem created_createTasks (ranges : List Range)
    : created (ranges.map createTask) = ranges := by
  induction ranges with
  | nil => rfl
  | cons range rest ih =>
      simp only [created, List.map_cons, List.filterMap_cons, created?] at ih ⊢
      rw [ih]

end StrategyAction

namespace StrategyState

/-- The level the strategy keeps while it is degraded or recovering. -/
def recorded : StrategyState → Option Nat
  | normal => none
  | degraded targetConcurrency _ => some targetConcurrency
  | recovering trialConcurrency _ _ => some trialConcurrency

def isDegraded : StrategyState → Bool
  | degraded _ _ => true
  | _ => false

end StrategyState

open StrategyAction ConcurrencyControlStrategy

-----------------------------------------------------------------------------------------
-- Runs of the concurrency control
-----------------------------------------------------------------------------------------

/-- What a step sees besides the level. -/
structure Observation where
  activeRunners : Nat
  sampler : RunnerOutcomeSampler
  availableChunks : List Range
  clock : StepClock

/-- The concurrency control, and the level the loop owns. -/
structure ControlRun where
  strategy : ConcurrencyControlStrategy
  maxConcurrency : Nat

namespace ControlRun

def new (config : ConcurrencyControlConfig) (initialMaxConcurrency : Nat) : ControlRun :=
  ⟨.new config initialMaxConcurrency, initialMaxConcurrency⟩

def context (run : ControlRun) (observation : Observation) : ConcurrencyControlContext where
  maxConcurrency := run.maxConcurrency
  activeRunners := observation.activeRunners
  sampler := observation.sampler
  availableChunks := observation.availableChunks

def next (run : ControlRun) (observation : Observation) : Checked ControlRun := do
  let (actions, strategy, _) ←
    run.strategy.step (run.context observation) observation.clock
  pure ⟨strategy, levelAfter actions run.maxConcurrency⟩

/-- Steps of the strategy whose actions the loop applies, whatever the steps observe. -/
def machine (config : ConcurrencyControlConfig) (initialMaxConcurrency : Nat)
    : Machine ControlRun Observation Panic where
  Initial run := 0 < initialMaxConcurrency ∧ run = .new config initialMaxConcurrency
  Enabled _ _ := True
  next := next

instance (config : ConcurrencyControlConfig) (initialMaxConcurrency : Nat) (run : ControlRun)
    (observation : Observation)
    : Decidable ((machine config initialMaxConcurrency).Enabled run observation) :=
  inferInstanceAs (Decidable True)

variable {config : ConcurrencyControlConfig} {initialMaxConcurrency : Nat}
  {run after : ControlRun} {observation : Observation}

/-- Everything a step can make of the strategy and the level. -/
inductive Steps (run : ControlRun) (observation : Observation) : ControlRun → Prop
  | first (first : run.strategy.firstExecute = true)
    : Steps run observation ⟨{ run.strategy with firstExecute := false }, run.maxConcurrency⟩
  | degrades (started : run.strategy.firstExecute = false)
    : Steps run observation
        ⟨{ run.strategy with
            state :=
              .degraded (run.strategy.degradedLevel (run.context observation))
                observation.clock.now },
          run.strategy.degradedLevel (run.context observation)⟩
  | moves {stats : OutcomeStats} {actions : List StrategyAction} {state : StrategyState}
    (started : run.strategy.firstExecute = false)
    (moves
      : run.strategy.Moves (run.context observation) stats observation.clock.now actions state)
    : Steps run observation
        ⟨{ run.strategy with state }, levelAfter actions run.maxConcurrency⟩

theorem levelAfter_refill (context : ConcurrencyControlContext) (current : Nat)
    : levelAfter (refill context) current = current := by
  unfold refill createTasks
  split
  · exact levelAfter_createTasks _ _
  · rfl

theorem next_steps (goes : run.next observation = .ok after) : run.Steps observation after := by
  obtain ⟨⟨actions, strategy, sampler⟩, stepped, same⟩ := Checked.bind_eq_ok.mp goes
  cases same
  have steps := step_steps stepped
  clear stepped
  cases steps with
  | first first =>
      simp only [createTasks, levelAfter_createTasks]
      exact .first first
  | degrades started recent => exact .degrades started
  | @moves _ _ _ actions _ started quiet counts handled moves =>
      have level
          : levelAfter (if actions.isEmpty then refill (run.context observation) else actions)
              run.maxConcurrency
            = levelAfter actions run.maxConcurrency := by
        cases actions with
        | nil => exact levelAfter_refill _ _
        | cons action rest => rfl
      rw [level]
      exact .moves started moves

-----------------------------------------------------------------------------------------
-- The strategy's copy of the level
-----------------------------------------------------------------------------------------

/-- While the strategy keeps a copy of the level, the loop has the same; it is at least the
minimal concurrency. A strategy that has not started keeps none.
-/
structure Tracks (config : ConcurrencyControlConfig) (initialMaxConcurrency : Nat)
    (run : ControlRun)
    : Prop where
  config : run.strategy.config = config
  initial : run.strategy.initialMaxConcurrency = initialMaxConcurrency
  unstarted : run.strategy.firstExecute = true → run.strategy.state = .normal
  recorded
    : ∀ level ∈ run.strategy.state.recorded,
        run.maxConcurrency = level ∧ run.strategy.config.minConcurrency ≤ level

theorem Tracks.step (tracks : run.Tracks config initialMaxConcurrency)
    (steps : run.Steps observation after)
    : after.Tracks config initialMaxConcurrency := by
  have started {state : StrategyState} (started : run.strategy.firstExecute = false)
      : run.strategy.firstExecute = true → state = .normal := by
    intro first
    cases first.symm.trans started
  cases steps with
  | first =>
      exact {
        config := tracks.config
        initial := tracks.initial
        unstarted := fun never => by cases never
        recorded := tracks.recorded }
  | degrades later =>
      refine ⟨tracks.config, tracks.initial, started later, ?_⟩
      intro level member
      cases member
      exact ⟨rfl, (le_max_right _ _).trans (le_max_left _ _)⟩
  | moves later moves =>
      refine ⟨tracks.config, tracks.initial, started later, ?_⟩
      intro level member
      cases moves with
      | stays => exact tracks.recorded level member
      | stepsDown normal steps =>
          cases member
          exact ⟨rfl, steps ▸ le_max_right _ _⟩
      | tries degraded waited quiet goesOn more =>
          cases member
          have target := (tracks.recorded _ (by rw [degraded]; rfl)).2
          exact ⟨rfl, target.trans more.le⟩
      | restored => cases member
      | trialEnds recovering ends =>
          have trial := (tracks.recorded _ (by rw [recovering]; rfl)).2
          cases ends with
          | rollsBackAtOnce fallsBack =>
              cases member
              exact ⟨rfl, fallsBack ▸ le_max_right _ _⟩
          | rollsBack fallsBack =>
              cases member
              exact ⟨rfl, fallsBack ▸ le_max_right _ _⟩
          | advances goesOn calm observed stable below =>
              cases member
              refine ⟨rfl, trial.trans ?_⟩
              rw [goesOn]
              exact le_min (Nat.le_add_right _ _) below.le
          | returns => cases member

theorem reachable_tracks (reached : (machine config initialMaxConcurrency).Reachable run)
    : run.Tracks config initialMaxConcurrency := by
  induction reached with
  | initial start =>
      obtain ⟨-, same⟩ := start
      subst same
      exact ⟨rfl, rfl, fun _ => rfl, fun level never => by cases never⟩
  | step earlier step ih => exact ih.step (next_steps step.next)

-----------------------------------------------------------------------------------------
-- The level stays in range
-----------------------------------------------------------------------------------------

/-- What a planner with at most as many active runners as the initial maximum shows; before
the first step no runner is active.
-/
def Shows (initialMaxConcurrency : Nat) (run : ControlRun) (observation : Observation) : Prop :=
  ∃ planner : ChunkPlanner,
    planner.WellFormed
    ∧ observation.activeRunners = planner.getActiveRunnersCount
    ∧ observation.availableChunks = planner.getAvailableRanges
    ∧ observation.activeRunners ≤ initialMaxConcurrency
    ∧ (run.strategy.firstExecute = true → observation.activeRunners = 0)

structure InRange (initialMaxConcurrency : Nat) (run : ControlRun) : Prop where
  positive : 1 ≤ run.maxConcurrency
  bounded : run.maxConcurrency ≤ initialMaxConcurrency
  agrees : run.maxConcurrency = run.strategy.state.recorded.getD initialMaxConcurrency

/-- A change of the level that the strategy records. -/
theorem inRange_change {state : StrategyState} {target current : Nat} (positive : 1 ≤ target)
    (bounded : target ≤ initialMaxConcurrency) (recorded : state.recorded = some target)
    : InRange initialMaxConcurrency
        ⟨{ run.strategy with state }, levelAfter [.changeMaxConcurrency target] current⟩ where
  positive := positive
  bounded := bounded
  agrees := by
    simp only [recorded, Option.getD_some]
    rfl

/-- A step of the default configuration, by cases on what it does. -/
theorem InRange.step (inRange : run.InRange initialMaxConcurrency)
    (tracks : run.Tracks .default initialMaxConcurrency)
    (few : observation.activeRunners ≤ initialMaxConcurrency)
    (steps : run.Steps observation after)
    : after.InRange initialMaxConcurrency := by
  have positive := inRange.positive
  have bounded := inRange.bounded
  have agrees := inRange.agrees
  have initial := tracks.initial
  have minConcurrency : run.strategy.config.minConcurrency = 1 := by rw [tracks.config]; rfl
  have degradationStep : run.strategy.config.degradationStep = 1 := by rw [tracks.config]; rfl
  have recoveryStep : run.strategy.config.recoveryStep = 1 := by rw [tracks.config]; rfl
  cases steps with
  | first => exact ⟨positive, bounded, agrees⟩
  | degrades =>
      have active : (run.context observation).activeRunners = observation.activeRunners := rfl
      exact {
        positive := le_max_right _ _
        bounded := by
          simp only [degradedLevel]
          omega
        agrees := rfl }
  | moves started moves =>
      cases moves with
      | stays => exact ⟨positive, bounded, agrees⟩
      | stepsDown normal steps =>
          have current : (run.context observation).maxConcurrency = run.maxConcurrency := rfl
          exact inRange_change (by omega) (by omega) rfl
      | tries degraded waited quiet goesOn more =>
          exact inRange_change (by omega) (by omega) rfl
      | restored degraded waited quiet full =>
          rw [degraded] at agrees
          -- Only the initial maximum itself is not below the next trial.
          have target : run.maxConcurrency = initialMaxConcurrency := by
            simp only [StrategyState.recorded, Option.getD_some] at agrees
            omega
          exact ⟨positive, bounded, target⟩
      | trialEnds recovering ends =>
          rw [recovering] at agrees
          simp only [StrategyState.recorded, Option.getD_some] at agrees
          cases ends with
          | rollsBackAtOnce fallsBack => exact inRange_change (by omega) (by omega) rfl
          | rollsBack fallsBack => exact inRange_change (by omega) (by omega) rfl
          | advances goesOn calm observed stable below =>
              exact inRange_change (by omega) (by omega) rfl
          | returns calm observed stable full =>
              have trial : run.maxConcurrency = initialMaxConcurrency := by omega
              exact ⟨positive, bounded, trial⟩

/-- By induction on the run. -/
theorem reachable_inRange
    (reached
      : ((machine .default initialMaxConcurrency).restrict
          (Shows initialMaxConcurrency)).Reachable run)
    : run.InRange initialMaxConcurrency := by
  induction reached with
  | initial start =>
      obtain ⟨positive, same⟩ := start
      subst same
      exact ⟨positive, le_refl _, rfl⟩
  | step earlier step ih =>
      obtain ⟨planner, -, -, -, few, -⟩ := step.enabled.2
      exact ih.step (reachable_tracks earlier.of_restrict) few (next_steps step.next)

-----------------------------------------------------------------------------------------
-- The tasks a step creates
-----------------------------------------------------------------------------------------

/-- The tasks created are for distinct available ranges, as many as may start at most. -/
structure CreatesAvailable (run : ControlRun) (observation : Observation)
    (actions : List StrategyAction)
    : Prop where
  distinct : (created actions).Nodup
  available : ∀ range ∈ created actions, range ∈ observation.availableChunks
  few : (created actions).length ≤ run.maxConcurrency - observation.activeRunners

theorem createsAvailable_take {count : Nat} (distinct : observation.availableChunks.Nodup)
    (few : count ≤ run.maxConcurrency - observation.activeRunners)
    : run.CreatesAvailable observation (createTasks (run.context observation) count) := by
  have same
      : created (createTasks (run.context observation) count)
        = observation.availableChunks.take count :=
    created_createTasks _
  refine ⟨?_, ?_, ?_⟩
  · rw [same]
    exact distinct.sublist (List.take_sublist _ _)
  · rw [same]
    exact fun range member => List.mem_of_mem_take member
  · rw [same]
    exact (List.length_take_le _ _).trans few

theorem createsAvailable_of_created_nil {actions : List StrategyAction}
    (nothing : created actions = [])
    : run.CreatesAvailable observation actions := by
  refine ⟨?_, ?_, ?_⟩ <;> rw [nothing] <;> simp

theorem created_moves {context : ConcurrencyControlContext} {stats : OutcomeStats}
    {now : Instant} {actions : List StrategyAction} {state : StrategyState}
    {strategy : ConcurrencyControlStrategy}
    (moves : strategy.Moves context stats now actions state)
    : created actions = [] := by
  cases moves with
  | trialEnds recovering ends => cases ends <;> rfl
  | _ => rfl

theorem createsAvailable_step {clock : StepClock} {actions : List StrategyAction}
    {strategy : ConcurrencyControlStrategy} {sampler : RunnerOutcomeSampler}
    (distinct : observation.availableChunks.Nodup)
    (unstarted : run.strategy.firstExecute = true → observation.activeRunners = 0)
    (steps : run.strategy.Steps (run.context observation) clock actions strategy sampler)
    : run.CreatesAvailable observation actions := by
  cases steps with
  | first first =>
      refine createsAvailable_take distinct ?_
      rw [unstarted first]
      exact le_refl _
  | degrades => exact createsAvailable_of_created_nil rfl
  | @moves _ _ _ actions _ started quiet counts handled moves =>
      cases actions with
      | cons action rest => exact createsAvailable_of_created_nil (created_moves moves)
      | nil =>
          simp only [List.isEmpty_nil, if_true, refill]
          split
          · exact createsAvailable_take distinct (le_refl _)
          · exact createsAvailable_of_created_nil rfl

theorem getAvailableRanges_nodup {planner : ChunkPlanner} (wf : planner.WellFormed)
    : planner.getAvailableRanges.Nodup := by
  rw [ChunkPlanner.getAvailableRanges_eq]
  have separated := wf.ascending.gaps_separated
  refine separated.apart.imp_of_mem (fun leftMember _ before same => ?_)
  have nonempty := separated.nonempty _ leftMember
  rw [same] at nonempty before
  exact absurd (nonempty.trans before) (lt_irrefl _)

/-- In every run of the default configuration the level stays between one and the initial
maximum, is the one the strategy keeps while it is degraded or recovering, and the initial
maximum otherwise; and every step creates tasks for distinct available ranges, as many as the
level leaves room for at most.
-/
theorem levels_in_step
    (reached
      : ((machine .default initialMaxConcurrency).restrict
          (Shows initialMaxConcurrency)).Reachable run)
    : 1 ≤ run.maxConcurrency
      ∧ run.maxConcurrency ≤ initialMaxConcurrency
      ∧ run.maxConcurrency = run.strategy.state.recorded.getD initialMaxConcurrency
      ∧ ∀ observation actions strategy sampler,
          run.Shows initialMaxConcurrency observation
          → run.strategy.step (run.context observation) observation.clock
            = .ok (actions, strategy, sampler)
          → run.CreatesAvailable observation actions := by
  have inRange := reachable_inRange reached
  refine ⟨inRange.positive, inRange.bounded, inRange.agrees, ?_⟩
  intro observation actions strategy sampler shows stepped
  obtain ⟨planner, wf, -, available, -, unstarted⟩ := shows
  refine createsAvailable_step ?_ unstarted (step_steps stepped)
  rw [available]
  exact getAvailableRanges_nodup wf

/-- Nothing is active, and the whole file is available. -/
def idleObservation (sampler : RunnerOutcomeSampler) : Observation where
  activeRunners := 0
  sampler := sampler
  availableChunks := [⟨0, 10⟩]
  clock := ⟨seconds 60, seconds 60, seconds 60⟩

theorem shows_idle (sampler : RunnerOutcomeSampler) : run.Shows 3 (idleObservation sampler) :=
  ⟨.new 10, .new (by decide), rfl, rfl, Nat.zero_le _, fun _ => rfl⟩

/-- A sampler that saw an unretryable failure just now. -/
def failedSampler : RunnerOutcomeSampler :=
  { RunnerOutcomeSampler.withDefaults with lastUnretryableAt := some (seconds 60) }

/-- One failed attempt takes the level from three to one, which the strategy keeps. -/
theorem levels_in_step_degraded
    : ∃ run : ControlRun,
        ((machine .default 3).restrict (Shows 3)).Reachable run
        ∧ run.strategy.state = .degraded 1 (seconds 60)
        ∧ run.maxConcurrency = run.strategy.state.recorded.getD 3 := by
  have start : ((machine .default 3).restrict (Shows 3)).Reachable (.new .default 3) :=
    .initial ⟨by decide, rfl⟩
  have first := start.step ⟨⟨trivial, shows_idle .withDefaults⟩, rfl⟩
  have second := first.step ⟨⟨trivial, shows_idle failedSampler⟩, rfl⟩
  exact ⟨_, second, rfl, (levels_in_step second).2.2.1⟩

-----------------------------------------------------------------------------------------
-- Reacting to failures
-----------------------------------------------------------------------------------------

/-- Whether a step sees an unretryable failure, and degrades at once. -/
def seesUnretryable (run : ControlRun) (observation : Observation) : Bool :=
  (observation.sampler.hasRecentUnretryable observation.clock.lookedAt
    run.strategy.config.unretryableDetectionWindow).1

/-- A step in which the strategy moves to `Degraded`: at once, or from another state. -/
def Degrades (run : ControlRun) (observation : Observation)
    (strategy : ConcurrencyControlStrategy)
    : Prop :=
  run.strategy.firstExecute = false
  ∧ (run.seesUnretryable observation = true
    ∨ run.strategy.state.isDegraded = false ∧ strategy.state.isDegraded = true)

/-- A step that only asks for a level, not above the current one. -/
def LowersLevel (run : ControlRun) (actions : List StrategyAction) : Prop :=
  ∃ level, actions = [.changeMaxConcurrency level] ∧ level ≤ run.maxConcurrency

/-- The levels that the outcomes lead down to come from the current one. -/
theorem Tracks.moves_lower {stats : OutcomeStats} {now : Instant}
    {actions : List StrategyAction} {state : StrategyState}
    (tracks : run.Tracks config initialMaxConcurrency)
    (moves : run.strategy.Moves (run.context observation) stats now actions state)
    (before : run.strategy.state.isDegraded = false) (degraded : state.isDegraded = true)
    : run.LowersLevel actions := by
  cases moves with
  | stays => cases before.symm.trans degraded
  | stepsDown normal steps enough failing above =>
      have current : (run.context observation).maxConcurrency = run.maxConcurrency := rfl
      exact ⟨_, rfl, by omega⟩
  | tries => cases degraded
  | restored => cases degraded
  | trialEnds recovering ends =>
      obtain ⟨trial, minimal⟩ := tracks.recorded _ (by rw [recovering]; rfl)
      cases ends with
      | rollsBackAtOnce fallsBack => exact ⟨_, rfl, by omega⟩
      | rollsBack fallsBack => exact ⟨_, rfl, by omega⟩
      | advances => cases degraded
      | returns => cases degraded

/-- In every run of every configuration, a step that moves to `Degraded` only asks for a level
not above the current one exactly when it does not degrade at once, or the active runners, the
minimal concurrency and one are not above the current level.
-/
theorem degrades_lower_iff (reached : (machine config initialMaxConcurrency).Reachable run)
    {actions : List StrategyAction} {strategy : ConcurrencyControlStrategy}
    {sampler : RunnerOutcomeSampler}
    (stepped
      : run.strategy.step (run.context observation) observation.clock
        = .ok (actions, strategy, sampler))
    (degrades : run.Degrades observation strategy)
    : run.LowersLevel actions
      ↔ (run.seesUnretryable observation = true
        → observation.activeRunners ≤ run.maxConcurrency
          ∧ config.minConcurrency ≤ run.maxConcurrency
          ∧ 1 ≤ run.maxConcurrency) := by
  have tracks := reachable_tracks reached
  obtain ⟨started, cause⟩ := degrades
  have steps := step_steps stepped
  clear stepped
  cases steps with
  | first first => cases started.symm.trans first
  | degrades later recent =>
      have sees : run.seesUnretryable observation = true := congrArg Prod.fst recent
      have level
          : run.strategy.degradedLevel (run.context observation) ≤ run.maxConcurrency
            ↔ observation.activeRunners ≤ run.maxConcurrency
              ∧ config.minConcurrency ≤ run.maxConcurrency
              ∧ 1 ≤ run.maxConcurrency := by
        rw [← tracks.config]
        simp only [degradedLevel, max_le_iff, and_assoc]
        rfl
      constructor
      · rintro ⟨asked, same, lower⟩ _
        cases same
        exact level.mp lower
      · intro holds
        exact ⟨_, rfl, level.mpr (holds sees)⟩
  | @moves _ _ _ actions _ later quiet counts handled moves =>
      have unseen : run.seesUnretryable observation = false := congrArg Prod.fst quiet
      rcases cause with sees | ⟨before, degraded⟩
      · cases sees.symm.trans unseen
      · obtain ⟨level, same, lower⟩ := tracks.moves_lower moves before degraded
        subst same
        refine ⟨fun _ sees => ?_, fun _ => ⟨level, rfl, lower⟩⟩
        cases sees.symm.trans unseen

/-- Two of five runners failed, and four are active. -/
def fourActive (lastUnretryableAt : Option Instant) : Observation where
  activeRunners := 4
  sampler :=
    { RunnerOutcomeSampler.withDefaults with
      records :=
        [.completed, .completed, .completed, .streamClosed .retryable,
          .streamClosed .retryable].map (OutcomeRecord.mk (seconds 60))
      lastUnretryableAt }
  availableChunks := []
  clock := ⟨seconds 60, seconds 60, seconds 60⟩

/-- A failure that cannot be retried, with three runners active. -/
def threeActive : Observation := { idleObservation failedSampler with activeRunners := 3 }

/-- With four runners active the level goes from four to three. -/
theorem fourActive_lowers
    : ∃ run : ControlRun,
        (machine .default 4).execute (.new .default 4)
            [idleObservation .withDefaults, fourActive none]
          = some run
        ∧ (machine .default 4).Reachable run
        ∧ run.strategy.firstExecute = false
        ∧ run.maxConcurrency = 3
        ∧ run.seesUnretryable threeActive = true
        ∧ run.seesUnretryable (fourActive (some (seconds 60))) = true := by
  have seen
      : ((machine .default 4).execute (.new .default 4)
          [idleObservation .withDefaults, fourActive none]).map
          (fun run =>
            (run.strategy.firstExecute, run.maxConcurrency, run.seesUnretryable threeActive,
              run.seesUnretryable (fourActive (some (seconds 60)))))
        = some (false, 3, true, true) := by decide +kernel
  obtain ⟨run, executed, fields⟩ := Option.map_eq_some_iff.mp seen
  simp only [Prod.mk.injEq] at fields
  have start : (machine .default 4).Reachable (.new .default 4) := .initial ⟨by decide, rfl⟩
  exact ⟨run, executed, start.execute _ executed, fields⟩

/-- With four runners active the level goes from four to three; another failure, of a runner
that cannot be retried, then leaves it there while three are active.
-/
theorem degrades_lower_iff_three
    : ∃ run : ControlRun, ∃ actions strategy sampler,
        (machine .default 4).execute (.new .default 4)
          [idleObservation .withDefaults, fourActive none] = some run
        ∧ run.strategy.step
            (run.context { idleObservation failedSampler with activeRunners := 3 })
            ⟨seconds 60, seconds 60, seconds 60⟩
          = .ok (actions, strategy, sampler)
        ∧ run.LowersLevel actions := by
  obtain ⟨run, executed, reached, started, level, sees, -⟩ := fourActive_lowers
  obtain ⟨sampler, stepped⟩ :=
    @step_degrades run.strategy (run.context threeActive) threeActive.clock started sees
  refine ⟨run, _, _, sampler, executed, stepped, ?_⟩
  have lower := degrades_lower_iff reached stepped ⟨started, Or.inl sees⟩
  refine lower.mpr (fun _ => ?_)
  rw [level]
  decide

/-- While four are still active, it raises the level to four again. -/
theorem degrades_higher
    : ¬ ∀ (config : ConcurrencyControlConfig) (initialMaxConcurrency : Nat) (run : ControlRun),
        (machine config initialMaxConcurrency).Reachable run
        → ∀ observation actions strategy sampler,
            run.strategy.step (run.context observation) observation.clock
              = .ok (actions, strategy, sampler)
            → run.Degrades observation strategy
            → run.LowersLevel actions := by
  intro always
  obtain ⟨run, -, reached, started, level, -, sees⟩ := fourActive_lowers
  let observation : Observation := fourActive (some (seconds 60))
  obtain ⟨sampler, stepped⟩ :=
    @step_degrades run.strategy (run.context observation) observation.clock started sees
  obtain ⟨asked, same, lower⟩ :=
    always .default 4 run reached observation _ _ sampler stepped ⟨started, Or.inl sees⟩
  cases same
  have active : 4 ≤ run.strategy.degradedLevel (run.context observation) :=
    (le_max_left _ _).trans (le_max_left _ _)
  omega

end ControlRun

end BoltLoad
