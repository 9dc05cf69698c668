import BoltLoad.RunnerManager.Run

/-! Every run of the manager under the runner protocol: the collections agree at every tick
boundary, `Started` was delivered for exactly the runners that are past connecting, and a
tick only ever panics on a clock too young for the sampler.
-/

namespace BoltLoad

open OrderedMap

namespace RunnerManager

/-- The runner a cause is about. -/
def Cause.runnerId : Cause → RunnerId
  | .spawnFailure runnerId _ => runnerId
  | .lifecycle (.event runnerId _) => runnerId
  | .lifecycle (.closed runnerId) => runnerId
  | .data (.data runnerId _) => runnerId
  | .data (.closed runnerId) => runnerId

/-- Nothing the manager keeps for a runner has changed. -/
structure Untouched (before after : RunnerManager) (runnerId : RunnerId) : Prop where
  state
    : after.chunkPlanner.getRunnerState runnerId = before.chunkPlanner.getRunnerState runnerId
  sender : after.limitSenders.get? runnerId = before.limitSenders.get? runnerId
  receiver : after.lifecycleAggregator.get? runnerId = before.lifecycleAggregator.get? runnerId
  waiting : after.connectingData.get? runnerId = before.connectingData.get? runnerId
  polled : after.dataAggregator.get? runnerId = before.dataAggregator.get? runnerId

/-- Nothing is kept for a runner anymore. -/
structure Forgotten (after : RunnerManager) (runnerId : RunnerId) : Prop where
  state : after.chunkPlanner.getRunnerState runnerId = none
  sender : after.limitSenders.get? runnerId = none
  receiver : after.lifecycleAggregator.get? runnerId = none
  waiting : after.connectingData.get? runnerId = none
  polled : after.dataAggregator.get? runnerId = none

variable {manager after : RunnerManager} {runnerId other : RunnerId}

theorem Untouched.refl (manager : RunnerManager) (runnerId : RunnerId)
    : Untouched manager manager runnerId :=
  ⟨rfl, rfl, rfl, rfl, rfl⟩

theorem Untouched.isConnecting (untouched : Untouched manager after runnerId)
    : after.isConnecting runnerId = manager.isConnecting runnerId :=
  isConnecting_congr untouched.state

section Retired

variable {chunkPlanner : ChunkPlanner} {sampler : RunnerOutcomeSampler}

theorem retired_untouched
    (forgotten
      : ∀ other,
          chunkPlanner.getRunnerState other
          = if other = runnerId then none else manager.chunkPlanner.getRunnerState other)
    (distinct : other ≠ runnerId) (spawnFailures : List (RunnerId × SpawnFailed))
    : Untouched manager { manager.retired runnerId chunkPlanner sampler with spawnFailures }
        other := by
  refine ⟨?_, ?_, ?_, ?_, ?_⟩
  · have state := forgotten other
    rwa [if_neg distinct] at state
  · exact get?_erase_of_ne _ distinct
  · exact get?_erase_of_ne _ distinct
  · exact get?_erase_of_ne _ distinct
  · exact get?_erase_of_ne _ distinct

theorem retired_forgotten
    (forgotten
      : ∀ other,
          chunkPlanner.getRunnerState other
          = if other = runnerId then none else manager.chunkPlanner.getRunnerState other)
    (spawnFailures : List (RunnerId × SpawnFailed))
    : Forgotten { manager.retired runnerId chunkPlanner sampler with spawnFailures }
        runnerId := by
  refine ⟨?_, get?_erase_self _ _, get?_erase_self _ _, get?_erase_self _ _,
    get?_erase_self _ _⟩
  have state := forgotten runnerId
  rwa [if_pos rfl] at state

end Retired

/-- A handled cause leaves the other runners alone. -/
theorem Joint.handled_untouched {cause : Cause} {tick : RunnerTick} (joint : manager.Joint)
    (handled : manager.Handled cause tick after) (distinct : other ≠ cause.runnerId)
    : Untouched manager after other := by
  cases handled with
  | rejected sampler queued owned =>
      exact retired_untouched (owned.getRunnerState_release joint.planner) distinct _
  | @started runnerId chunk _ owned pending waiting =>
      have apart : other ≠ runnerId := distinct
      have state := owned.getRunnerState_withChunk joint.planner
        { chunk with status := .running } other
      rw [if_neg apart] at state
      exact ⟨state, rfl, rfl, get?_erase_of_ne _ apart, get?_insert_of_ne _ _ apart⟩
  | unconnected sampler owned pending =>
      exact retired_untouched (owned.getRunnerState_release joint.planner) distinct _
  | completed sampler owned running complete =>
      exact retired_untouched (owned.getRunnerState_finished joint.planner _) distinct _
  | failed sampler owned running incomplete =>
      exact retired_untouched (owned.getRunnerState_release joint.planner) distinct _
  | lost sampler owned =>
      exact retired_untouched (owned.getRunnerState_release joint.planner) distinct _
  | @data runnerId item _ owned running =>
      have apart : other ≠ runnerId := distinct
      have state := owned.getRunnerState_advance joint.planner item.data.length other
      rw [if_neg apart] at state
      exact ⟨state, rfl, rfl, rfl, rfl⟩
  | dataClosed => exact ⟨rfl, rfl, rfl, rfl, get?_erase_of_ne _ distinct⟩

/-- The causes that end a runner. -/
def Cause.retires : Cause → Bool
  | .spawnFailure _ _ => true
  | .lifecycle (.event _ .started) => false
  | .lifecycle (.event _ (.stopped _)) => true
  | .lifecycle (.closed _) => true
  | .data _ => false

/-- A runner that ended is forgotten. -/
theorem Joint.handled_forgotten {cause : Cause} {tick : RunnerTick} (joint : manager.Joint)
    (handled : manager.Handled cause tick after) (ends : cause.retires = true)
    : Forgotten after cause.runnerId := by
  cases handled with
  | rejected sampler queued owned =>
      exact retired_forgotten (owned.getRunnerState_release joint.planner) _
  | started owned pending waiting => cases ends
  | unconnected sampler owned pending =>
      exact retired_forgotten (owned.getRunnerState_release joint.planner) _
  | completed sampler owned running complete =>
      exact retired_forgotten (owned.getRunnerState_finished joint.planner _) _
  | failed sampler owned running incomplete =>
      exact retired_forgotten (owned.getRunnerState_release joint.planner) _
  | lost sampler owned =>
      exact retired_forgotten (owned.getRunnerState_release joint.planner) _
  | data owned running => cases ends
  | dataClosed => cases ends

/-- A started runner's chunk is running, and its data is polled. -/
theorem Joint.handled_started {tick : RunnerTick} (joint : manager.Joint)
    (handled : manager.Handled (.lifecycle (.event runnerId .started)) tick after)
    : ∃ chunk port,
        manager.chunkPlanner.Owns runnerId chunk
        ∧ chunk.status = .pending
        ∧ manager.connectingData.get? runnerId = some port
        ∧ after = manager.started runnerId chunk port
        ∧ after.isConnecting runnerId = false := by
  cases handled with
  | @started _ chunk port owned pending waiting =>
      refine ⟨chunk, port, owned, pending, waiting, rfl, ?_⟩
      have state := owned.getRunnerState_withChunk joint.planner
        { chunk with status := .running } runnerId
      rw [if_pos rfl] at state
      have connecting
          : (manager.started runnerId chunk port).isConnecting runnerId
            = decide ({ chunk with status := ChunkStatus.running }.status = .pending) :=
        isConnecting_of_state state
      rw [connecting]
      rfl

/-- Data changes the progress of its runner's chunk, and nothing else of the runner. -/
theorem Joint.handled_data {tick : RunnerTick} {item : DataFrame} (joint : manager.Joint)
    (handled : manager.Handled (.data (.data runnerId item)) tick after)
    : ∃ chunk,
        manager.chunkPlanner.Owns runnerId chunk
        ∧ chunk.status ≠ .pending
        ∧ tick = .withChunk (accepted chunk item.data)
        ∧ after = manager.advanced runnerId chunk item.data
        ∧ after.chunkPlanner.getRunnerState runnerId = some (chunk.advanced item.data.length)
        ∧ after.isConnecting runnerId = false := by
  cases handled with
  | @data _ _ chunk owned running =>
      have state := owned.getRunnerState_advance joint.planner item.data.length runnerId
      rw [if_pos rfl] at state
      refine ⟨chunk, owned, running, rfl, rfl, state, ?_⟩
      have connecting
          : (manager.advanced runnerId chunk item.data).isConnecting runnerId
            = decide ((chunk.advanced item.data.length).status = .pending) :=
        isConnecting_of_state state
      rw [connecting]
      simp only [ChunkState.advanced]
      split <;> simp [running]

/-- A handled cause registers no channels. -/
theorem Joint.handled_kept {cause : Cause} {tick : RunnerTick} (joint : manager.Joint)
    (handled : manager.Handled cause tick after) (other : RunnerId) (port : Port)
    : (after.limitSenders.get? other = some port → manager.limitSenders.get? other = some port)
      ∧ (after.lifecycleAggregator.get? other = some port
        → manager.lifecycleAggregator.get? other = some port) := by
  by_cases same : other = cause.runnerId
  · subst same
    cases ends : cause.retires with
    | true =>
        have forgotten := joint.handled_forgotten handled ends
        rw [forgotten.sender, forgotten.receiver]
        exact ⟨fun found => (by cases found), fun found => (by cases found)⟩
    | false =>
        cases handled with
        | started => exact ⟨id, id⟩
        | data => exact ⟨id, id⟩
        | dataClosed => exact ⟨id, id⟩
        | _ => cases ends
  · have untouched := joint.handled_untouched handled same
    rw [untouched.sender, untouched.receiver]
    exact ⟨id, id⟩

/-- What an enabled spawn finds: the planner with the new chunk, and the others as before. -/
theorem Joint.allocation_untouched {idGenerator : Generator} {range : Range}
    (joint : manager.Joint) (port : Port)
    (allocates : manager.idGenerator.Allocates runnerId idGenerator)
    (free : manager.chunkPlanner.Free range) (distinct : other ≠ runnerId)
    : Untouched manager (manager.spawned runnerId idGenerator range port) other
      ∧ ∀ failed,
          Untouched manager (manager.rejectedSpawn runnerId idGenerator range port failed)
            other := by
  have state := (joint.allocation_state allocates free).2 other
  rw [if_neg distinct] at state
  refine ⟨⟨state, ?_, ?_, ?_, rfl⟩, fun failed => ⟨state, ?_, rfl, rfl, rfl⟩⟩
  · exact get?_insert_of_ne _ _ distinct
  · exact get?_insert_of_ne _ _ distinct
  · exact get?_insert_of_ne _ _ distinct
  · exact get?_insert_of_ne _ _ distinct

/-- A snapshot empties the meters without removing any. -/
theorem Joint.takeMetersSnapshot (joint : manager.Joint)
    : manager.takeMetersSnapshot.2.Joint := by
  refine ⟨joint.planner, joint.generator, joint.mapped, joint.limited, joint.reported,
    joint.exclusive, joint.rejectedOnce, joint.rejected, joint.ports, joint.connecting, joint.data,
    ?_⟩
  intro other member
  refine joint.metered other ?_
  simp only [RunnerManager.takeMetersSnapshot, mem_keys_foldl_insert, or_self] at member
  exact member

/-- No collection depends on the outcomes. -/
theorem Joint.observeOutcomes (joint : manager.Joint) (sampler : RunnerOutcomeSampler)
    : Joint { manager with runnerOutcomeSampler := sampler } :=
  ⟨joint.planner, joint.generator, joint.mapped, joint.limited, joint.reported,
    joint.exclusive, joint.rejectedOnce, joint.rejected, joint.ports, joint.connecting, joint.data,
    joint.metered⟩

end RunnerManager

-----------------------------------------------------------------------------------------
-- Runs
-----------------------------------------------------------------------------------------

namespace ManagerRun

open RunnerManager

/-- What every state of a run keeps to. -/
structure Sound (run : ManagerRun) : Prop where
  joint : run.manager.Joint
  /-- Ports are given out in turn. -/
  issued : ∀ {runnerId port}, run.manager.limitSenders.get? runnerId = some port → port < run.nextPort
  distinct
    : ∀ {left right port},
        run.manager.limitSenders.get? left = some port
        → run.manager.limitSenders.get? right = some port
        → left = right
  past : ∀ port ∈ run.announced, port < run.nextPort
  started
    : ∀ {runnerId port},
        run.manager.lifecycleAggregator.get? runnerId = some port
        → (port ∈ run.announced ↔ run.manager.isConnecting runnerId = false)
  untouched
    : ∀ {runnerId chunk},
        run.manager.chunkPlanner.getRunnerState runnerId = some chunk
        → chunk.status = .pending
        → chunk.downloaded.stop = chunk.downloaded.start

variable {run : ManagerRun}

theorem Sound.new {total : Nat} (representable : total < u64Size) (maxConcurrency : Nat)
    : (ManagerRun.new total maxConcurrency).Sound where
  joint := .new representable maxConcurrency
  issued found := by cases found
  distinct found := by cases found
  past port member := by cases member
  started found := by cases found
  untouched found := by cases found

/-- What the protocol delivers is what the manager expects. -/
theorem Sound.offers {dataEnabled : Bool} {lifecycle : Option LifecycleStreamEvent}
    {data : Option DataStreamEvent} {cause : Cause} (sound : run.Sound)
    (selects : run.manager.selected dataEnabled lifecycle data = some cause)
    (delivers : run.Delivers cause)
    : run.manager.Offers cause := by
  cases cause with
  | spawnFailure runnerId failed =>
      unfold selected at selects
      split at selects
      · rename_i queued
        cases selects
        simp only [Offers, queued, List.head?_cons]
      · cases selects
      · split at selects
        · cases data <;> cases selects
        · cases selects
  | lifecycle event =>
      cases event with
      | closed runnerId => exact delivers
      | event runnerId item =>
          cases item with
          | stopped reason => exact delivers
          | started =>
              obtain ⟨port, registered, unannounced⟩ := delivers
              refine ⟨mem_keys_iff.mpr ⟨port, registered⟩, ?_⟩
              have started := sound.started registered
              cases connecting : run.manager.isConnecting runnerId with
              | true => rfl
              | false => exact absurd (started.mpr connecting) unannounced
  | data event => cases event <;> exact delivers

/-- The run once a cause was handled. -/
def afterCause (run : ManagerRun) (cause : Cause) (tick : RunnerTick) (manager : RunnerManager)
    : ManagerRun :=
  { run with
    manager
    announced := run.announcedAfter (some cause)
    written := run.written ++ tick.downloaded.toList
    reportedFinished := run.reportedFinished || tick.state == .finished }

/-- Everything a poll can do. -/
inductive Ticked (run : ManagerRun) (dataEnabled : Bool)
    (lifecycle : Option LifecycleStreamEvent) (data : Option DataStreamEvent)
    : Option RunnerTick → ManagerRun → Prop
  | idle (nothing : run.manager.selected dataEnabled lifecycle data = none)
    : Ticked run dataEnabled lifecycle data none run
  | handled {cause : Cause} {tick : RunnerTick} {manager : RunnerManager}
    (selects : run.manager.selected dataEnabled lifecycle data = some cause)
    (offered : run.manager.Offers cause) (handled : run.manager.Handled cause tick manager)
    : Ticked run dataEnabled lifecycle data (some tick) (run.afterCause cause tick manager)

/-- An enabled poll does what is listed, or panics on a clock too young. -/
theorem Sound.ticks (sound : run.Sound) (now : Instant) {dataEnabled : Bool}
    {lifecycle : Option LifecycleStreamEvent} {data : Option DataStreamEvent}
    (enabled : run.Enabled (.tick now dataEnabled lifecycle data))
    : (∃ tick after,
        run.tick now dataEnabled lifecycle data = .ok (tick, after)
        ∧ run.Ticked dataEnabled lifecycle data tick after)
      ∨ run.tick now dataEnabled lifecycle data
          = .error (.expect RunnerOutcomeSampler.clockMessage)
        ∧ now < run.manager.runnerOutcomeSampler.timeWindow := by
  unfold ManagerRun.tick
  rw [pollTick_eq]
  cases selects : run.manager.selected dataEnabled lifecycle data with
  | none =>
      refine Or.inl ⟨none, run, ?_, .idle selects⟩
      simp only [Checked.ok_bind, announcedAfter, Option.bind_none, Option.toList_none,
        List.append_nil, Option.any_none, Bool.or_false]
      rfl
  | some cause =>
      have offered := sound.offers selects (enabled cause selects)
      rcases sound.joint.handles now offered with ⟨tick, after, handled, outcome⟩ | ⟨early, young⟩
      · refine Or.inl ⟨some tick, run.afterCause cause tick after, ?_,
          .handled selects offered outcome⟩
        simp only [handled]
        rfl
      · refine Or.inr ⟨?_, young⟩
        simp only [early]
        rfl

/-- A registered port belongs to one runner. -/
theorem Sound.receiver_unique {left right : RunnerId} {port : Port} (sound : run.Sound)
    (leftFound : run.manager.lifecycleAggregator.get? left = some port)
    (rightFound : run.manager.lifecycleAggregator.get? right = some port)
    : left = right :=
  sound.distinct (sound.joint.ports leftFound) (sound.joint.ports rightFound)

/-- Handling a cause announces at most the runner it is about. -/
theorem Sound.afterCause_started {cause : Cause} {tick : RunnerTick} {manager : RunnerManager}
    {runnerId : RunnerId} {port : Port} (sound : run.Sound)
    (offered : run.manager.Offers cause) (handled : run.manager.Handled cause tick manager)
    (registered : manager.lifecycleAggregator.get? runnerId = some port)
    : port ∈ run.announcedAfter (some cause) ↔ manager.isConnecting runnerId = false := by
  have joint := sound.joint
  have before := (joint.handled_kept handled runnerId port).2 registered
  have started := sound.started before
  by_cases announces : ∃ starting, cause = .lifecycle (.event starting .started)
  · obtain ⟨starting, rfl⟩ := announces
    obtain ⟨chunk, waitingPort, -, -, waiting, -, running⟩ := joint.handled_started handled
    obtain ⟨receiver, -⟩ := joint.connecting.mp waiting
    simp only [announcedAfter, receiver, Option.toList_some, List.mem_append, List.mem_singleton]
    by_cases same : runnerId = starting
    · subst same
      rw [receiver] at before
      simp [Option.some.inj before, running]
    · have fresh : port ≠ waitingPort :=
        fun equal => same (sound.receiver_unique before (equal ▸ receiver))
      rw [(joint.handled_untouched handled same).isConnecting, ← started]
      simp [fresh]
  · have unannounced : run.announcedAfter (some cause) = run.announced := by
      unfold announcedAfter
      split
      · rename_i starting same
        exact absurd ⟨starting, Option.some.inj same⟩ announces
      · rfl
    rw [unannounced, started]
    by_cases same : runnerId = cause.runnerId
    · subst same
      cases ends : cause.retires with
      | true =>
          rw [(joint.handled_forgotten handled ends).receiver] at registered
          cases registered
      | false =>
          cases handled with
          | started => exact absurd ⟨_, rfl⟩ announces
          | @data dataId item chunk owned running =>
              obtain ⟨dataPort, polled⟩ := mem_keys_iff.mp offered
              have connected := (joint.data polled).2
              obtain ⟨-, -, -, -, -, -, after⟩ := joint.handled_data (.data owned running)
              exact iff_of_true connected after
          | dataClosed => exact Iff.rfl
          | _ => cases ends
    · rw [(joint.handled_untouched handled same).isConnecting]

/-- Only a runner that still connects has a pending chunk, and nothing of it is downloaded. -/
theorem Sound.afterCause_untouched {cause : Cause} {tick : RunnerTick} {manager : RunnerManager}
    {runnerId : RunnerId} {chunk : ChunkState} (sound : run.Sound)
    (handled : run.manager.Handled cause tick manager)
    (state : manager.chunkPlanner.getRunnerState runnerId = some chunk)
    (pending : chunk.status = .pending)
    : chunk.downloaded.stop = chunk.downloaded.start := by
  have joint := sound.joint
  have connecting : manager.isConnecting runnerId = true := by
    simp [isConnecting_of_state state, pending]
  by_cases same : runnerId = cause.runnerId
  · subst same
    cases ends : cause.retires with
    | true =>
        rw [(joint.handled_forgotten handled ends).state] at state
        cases state
    | false =>
        cases handled with
        | started owned waits waiting =>
            obtain ⟨-, -, -, -, -, -, running⟩ := joint.handled_started (.started owned waits waiting)
            rw [Cause.runnerId, running] at connecting
            cases connecting
        | data owned running =>
            obtain ⟨-, -, -, -, -, -, after⟩ := joint.handled_data (.data owned running)
            rw [Cause.runnerId, after] at connecting
            cases connecting
        | dataClosed => exact sound.untouched state pending
        | _ => cases ends
  · rw [(joint.handled_untouched handled same).state] at state
    exact sound.untouched state pending

/-- Handling an offered cause keeps a run sound. -/
theorem Sound.afterCause {cause : Cause} {tick : RunnerTick} {manager : RunnerManager}
    (sound : run.Sound) (offered : run.manager.Offers cause)
    (handled : run.manager.Handled cause tick manager)
    : (run.afterCause cause tick manager).Sound where
  joint := sound.joint.handled offered handled
  issued found := sound.issued ((sound.joint.handled_kept handled _ _).1 found)
  distinct left right :=
    sound.distinct ((sound.joint.handled_kept handled _ _).1 left)
      ((sound.joint.handled_kept handled _ _).1 right)
  past port member := by
    simp only [ManagerRun.afterCause, announcedAfter] at member
    split at member
    · rename_i starting same
      rcases List.mem_append.mp member with new | before
      · exact sound.issued (sound.joint.ports (Option.mem_toList.mp new))
      · exact sound.past port before
    · exact sound.past port member
  started registered := sound.afterCause_started offered handled registered
  untouched state pending := sound.afterCause_untouched handled state pending

/-- A new runner gets a port of its own, and has not started. -/
theorem Sound.afterSpawn {range : Range} {outcome : Except SpawnFailed Unit}
    {result : Option Unit} {manager : RunnerManager} (sound : run.Sound)
    (spawned : run.manager.Spawned range run.nextPort outcome result manager)
    : ManagerRun.Sound { run with manager, nextPort := run.nextPort + 1 } := by
  have joint := sound.joint.afterSpawn spawned
  have past (port : Port) (member : port ∈ run.announced) : port < run.nextPort + 1 :=
    (sound.past port member).trans (Nat.lt_succ_self _)
  -- What a spawn changes concerns the new runner only.
  have spawns {runnerId : RunnerId}
      (others : ∀ other, other ≠ runnerId → Untouched run.manager manager other)
      (sender : manager.limitSenders.get? runnerId = some run.nextPort)
      (fresh
        : ∀ chunk, manager.chunkPlanner.getRunnerState runnerId = some chunk
          → chunk.status = .pending ∧ chunk.downloaded.stop = chunk.downloaded.start)
      : ManagerRun.Sound { run with manager, nextPort := run.nextPort + 1 } := by
    have own {port : Port} (found : manager.limitSenders.get? runnerId = some port)
        : port = run.nextPort := Option.some.inj (found.symm.trans sender)
    have older {other : RunnerId} {port : Port} (distinct : other ≠ runnerId)
        (found : manager.limitSenders.get? other = some port)
        : port < run.nextPort :=
      sound.issued ((others other distinct).sender ▸ found)
    refine ⟨joint, ?_, ?_, past, ?_, ?_⟩
    · intro other port found
      by_cases same : other = runnerId
      · exact own (same ▸ found) ▸ Nat.lt_succ_self _
      · exact (older same found).trans (Nat.lt_succ_self _)
    · intro left right port leftFound rightFound
      by_cases leftSame : left = runnerId
      · by_cases rightSame : right = runnerId
        · exact leftSame.trans rightSame.symm
        · have same := own (leftSame ▸ leftFound)
          exact absurd same (older rightSame rightFound).ne
      · by_cases rightSame : right = runnerId
        · have same := own (rightSame ▸ rightFound)
          exact absurd same (older leftSame leftFound).ne
        · exact sound.distinct ((others left leftSame).sender ▸ leftFound)
            ((others right rightSame).sender ▸ rightFound)
    · intro other port registered
      by_cases same : other = runnerId
      · subst same
        obtain ⟨chunk, owned⟩ := joint.owned
          ((joint.limited other).mp (mem_keys_iff.mpr ⟨_, sender⟩))
        have state := (ChunkPlanner.getRunnerState_eq_some_iff joint.planner).mpr owned
        have equal := own (joint.ports registered)
        subst equal
        refine iff_of_false (fun member => (sound.past _ member).false) ?_
        simp [isConnecting_of_state state, (fresh chunk state).1]
      · simp only [(others other same).isConnecting]
        exact sound.started ((others other same).receiver ▸ registered)
    · intro other chunk state pending
      by_cases same : other = runnerId
      · exact (fresh chunk (same ▸ state)).2
      · exact sound.untouched ((others other same).state ▸ state) pending
  have fresh {runnerId : RunnerId} {idGenerator : Generator} {chunk : ChunkState}
      (allocates : run.manager.idGenerator.Allocates runnerId idGenerator)
      (free : run.manager.chunkPlanner.Free range)
      (state
        : (run.manager.chunkPlanner.addChunk range (some runnerId) .pending).getRunnerState
            runnerId = some chunk)
      : chunk.status = .pending ∧ chunk.downloaded.stop = chunk.downloaded.start := by
    rw [(sound.joint.allocation_state allocates free).2, if_pos rfl] at state
    cases state
    exact ⟨rfl, rfl⟩
  have unspawned (idGenerator : Generator)
      (joint : RunnerManager.Joint { run.manager with idGenerator })
      : ManagerRun.Sound
          { run with
            manager := { run.manager with idGenerator }, nextPort := run.nextPort + 1 } :=
    ⟨joint, fun found => (sound.issued found).trans (Nat.lt_succ_self _), sound.distinct, past,
      sound.started, sound.untouched⟩
  cases spawned with
  | full none_free => exact unspawned _ joint
  | refused next allocates rejects => exact unspawned _ joint
  | accepted next allocates free =>
      exact spawns (fun other distinct => (sound.joint.allocation_untouched _ allocates free distinct).1)
        (get?_insert_self _ _ _) (fun chunk state => fresh allocates free state)
  | rejected next allocates free =>
      exact spawns
        (fun other distinct => (sound.joint.allocation_untouched _ allocates free distinct).2 _)
        (get?_insert_self _ _ _) (fun chunk state => fresh allocates free state)

/-- A resize only moves the end of a chunk. -/
theorem Sound.afterResize {runnerId : RunnerId} {newSize : Nat} {receiving : Bool}
    {result : Except ResizeError Unit} {sent : Option (Port × Nat)} {manager : RunnerManager}
    (sound : run.Sound)
    (resized : run.manager.Resized runnerId newSize receiving result sent manager)
    : ManagerRun.Sound { run with manager } := by
  have joint := sound.joint.afterResize resized
  cases resized with
  | refused => exact sound
  | unchanged owned same => exact sound
  | @shrunk chunk port owned nonempty shrinks sender received =>
      have state (other : RunnerId) :=
        owned.getRunnerState_withChunk sound.joint.planner
          (chunk.cutAt (chunk.downloaded.stop + newSize)) other
      have mine := (ChunkPlanner.getRunnerState_eq_some_iff sound.joint.planner).mpr owned
      have found {other : RunnerId} {after : ChunkState}
          (reads
            : (run.manager.chunkPlanner.withChunk chunk.allocated.start
                (chunk.cutAt (chunk.downloaded.stop + newSize))).getRunnerState other
              = some after)
          : ∃ before, run.manager.chunkPlanner.getRunnerState other = some before
              ∧ before.status = after.status ∧ before.downloaded = after.downloaded := by
        rw [state other] at reads
        split at reads
        · rename_i same
          cases reads
          exact ⟨chunk, same ▸ mine, rfl, rfl⟩
        · exact ⟨after, reads, rfl, rfl⟩
      refine ⟨joint, sound.issued, sound.distinct, sound.past, ?_, ?_⟩
      · intro other registeredPort registered
        have connects := sound.started registered
        obtain ⟨after, owns⟩ := joint.owned
          (joint.allocated_of_lifecycle (mem_keys_iff.mpr ⟨_, registered⟩))
        have reads := (ChunkPlanner.getRunnerState_eq_some_iff joint.planner).mpr owns
        obtain ⟨before, readsBefore, status, -⟩ := found reads
        rw [connects, isConnecting_of_state readsBefore, joint.isConnecting_eq owns, status]
      · intro other after reads pending
        obtain ⟨before, readsBefore, status, downloaded⟩ := found reads
        rw [← downloaded]
        exact sound.untouched readsBefore (status.trans pending)

/-- Every enabled event keeps a run sound, or panics on a clock too young. -/
theorem Sound.next (sound : run.Sound) {event : ManagerEvent} (enabled : run.Enabled event)
    : (∃ after, run.next event = .ok after ∧ after.Sound)
      ∨ run.next event = .error (.expect RunnerOutcomeSampler.clockMessage) := by
  cases event with
  | spawn range outcome =>
      obtain ⟨result, manager, spawns, spawned⟩ :=
        sound.joint.spawns range run.nextPort outcome
      refine Or.inl ⟨_, ?_, sound.afterSpawn spawned⟩
      simp only [ManagerRun.next, ManagerRun.spawn, spawns]
      rfl
  | resize runnerId newSize receiving =>
      obtain ⟨result, sent, manager, resizes, resized⟩ :=
        sound.joint.resizes runnerId newSize receiving
      refine Or.inl ⟨_, ?_, sound.afterResize resized⟩
      simp only [ManagerRun.next, ManagerRun.resize, resizes]
      rfl
  | tick now dataEnabled lifecycle data =>
      rcases sound.ticks now enabled with ⟨tick, after, ticks, ticked⟩ | ⟨early, -⟩
      · refine Or.inl ⟨after, by simp only [ManagerRun.next, ticks]; rfl, ?_⟩
        cases ticked with
        | idle nothing => exact sound
        | handled selects offered handled => exact sound.afterCause offered handled
      · exact Or.inr (by simp only [ManagerRun.next, early]; rfl)
  | takeMetersSnapshot =>
      exact Or.inl ⟨_, rfl, sound.joint.takeMetersSnapshot, sound.issued, sound.distinct,
        sound.past, sound.started, sound.untouched⟩
  | observeOutcomes sampler =>
      exact Or.inl ⟨_, rfl, sound.joint.observeOutcomes sampler, sound.issued, sound.distinct,
        sound.past, sound.started, sound.untouched⟩

/-- Every state a run reaches is sound, by induction on the run. -/
theorem reachable_sound (reached : machine.Reachable run) : run.Sound := by
  refine reached.invariant ?_ ?_
  · rintro start ⟨total, maxConcurrency, representable, same⟩
    exact same ▸ Sound.new representable maxConcurrency
  · intro before event after _ sound step
    rcases sound.next step.enabled with ⟨reachedAfter, next, afterSound⟩ | panics
    · have same : after = reachedAfter := Except.ok.inj (step.next.symm.trans next)
      exact same ▸ afterSound
    · have never := step.next.symm.trans panics
      cases never

-----------------------------------------------------------------------------------------
-- The joint invariant
-----------------------------------------------------------------------------------------

/-- The collections of the manager agree on its runners at every tick boundary: on the
allocated ones, on those still connecting, and on those that started. A step taken there ends
in no panic, except on a clock younger than the sampler's window.
-/
theorem joint_invariant (reached : machine.Reachable run)
    : (∀ runnerId,
        (runnerId ∈ run.manager.limitSenders.keys
          ↔ run.manager.idGenerator.isAllocated runnerId = true)
        ∧ (runnerId ∈ run.manager.chunkPlanner.runnerToChunk.keys
          ↔ run.manager.idGenerator.isAllocated runnerId = true)
        ∧ (runnerId ∈ run.manager.lifecycleAggregator.keys
            ∨ runnerId ∈ run.manager.rejectedRunners
          ↔ run.manager.idGenerator.isAllocated runnerId = true)
        ∧ ¬ (runnerId ∈ run.manager.lifecycleAggregator.keys
            ∧ runnerId ∈ run.manager.rejectedRunners)
        ∧ (runnerId ∈ run.manager.connectingData.keys
          ↔ runnerId ∉ run.manager.rejectedRunners
            ∧ ∃ chunk, run.manager.chunkPlanner.getRunnerState runnerId = some chunk
              ∧ chunk.status = .pending)
        ∧ (runnerId ∈ run.manager.dataAggregator.keys ∨ runnerId ∈ run.manager.meters.keys
          → run.manager.idGenerator.isAllocated runnerId = true
            ∧ ∃ port ∈ run.announced, run.manager.limitSenders.get? runnerId = some port))
      ∧ run.manager.rejectedRunners.Nodup
      ∧ ∀ event panic,
          run.Enabled event
          → run.next event = .error panic
          → panic = .expect RunnerOutcomeSampler.clockMessage := by
  have sound := reachable_sound reached
  have joint := sound.joint
  refine ⟨?_, joint.rejectedOnce, ?_⟩
  · intro runnerId
    refine ⟨joint.limited runnerId, ?_, (joint.reported runnerId).symm, ?_, ?_, ?_⟩
    · rw [joint.mapped runnerId]
      exact joint.planner.mapped_iff runnerId
    · intro both
      exact joint.exclusive runnerId both.2 both.1
    · have pends
          : run.manager.isConnecting runnerId = true
            ↔ ∃ chunk, run.manager.chunkPlanner.getRunnerState runnerId = some chunk
                ∧ chunk.status = .pending := by
        simp [RunnerManager.isConnecting, Option.any_eq_true]
      rw [← pends]
      refine ⟨fun member => ?_, fun connecting => ?_⟩
      · obtain ⟨port, waiting⟩ := mem_keys_iff.mp member
        obtain ⟨receiver, connects⟩ := joint.connecting.mp waiting
        exact ⟨fun rejected => joint.exclusive _ rejected (mem_keys_iff.mpr ⟨port, receiver⟩),
          connects⟩
      · obtain ⟨chunk, state, -⟩ := pends.mp connecting.2
        have allocated := (joint.mapped runnerId).mpr ⟨chunk, state⟩
        have member := ((joint.reported runnerId).mp allocated).resolve_right connecting.1
        obtain ⟨port, receiver⟩ := mem_keys_iff.mp member
        exact mem_keys_iff.mpr ⟨port, joint.connecting.mpr ⟨receiver, connecting.2⟩⟩
    · intro active
      have running
          : run.manager.idGenerator.isAllocated runnerId = true
            ∧ run.manager.isConnecting runnerId = false := by
        rcases active with polled | metered
        · obtain ⟨port, found⟩ := mem_keys_iff.mp polled
          obtain ⟨receiver, started⟩ := joint.data found
          exact ⟨joint.allocated_of_lifecycle (mem_keys_iff.mpr ⟨port, receiver⟩), started⟩
        · exact joint.metered runnerId metered
      have unrejected : runnerId ∉ run.manager.rejectedRunners := by
        intro rejected
        have connecting := joint.rejected runnerId rejected
        rw [running.2] at connecting
        cases connecting
      have member := ((joint.reported runnerId).mp running.1).resolve_right unrejected
      obtain ⟨port, receiver⟩ := mem_keys_iff.mp member
      exact ⟨running.1, port, (sound.started receiver).mpr running.2, joint.ports receiver⟩
  · intro event panic enabled fails
    rcases sound.next enabled with ⟨after, next, -⟩ | panics
    · rw [next] at fails
      cases fails
    · rw [panics] at fails
      cases fails
      rfl

/-- One runner downloading, one connecting, and one whose spawn was rejected. -/
def mixedEvents : List ManagerEvent :=
  [.spawn ⟨0, 50⟩ (.ok ()), .spawn ⟨50, 70⟩ (.ok ()),
    .tick 0 true (some (.event 0 .started)) none,
    .tick 0 true none (some (.data 0 ⟨[1, 2, 3]⟩)),
    .spawn ⟨80, 100⟩ (.error ⟨"no thread"⟩)]

/-- The joint invariant on that run. -/
theorem joint_invariant_mixed
    : ∃ run : ManagerRun,
        machine.execute (.new 100 4) mixedEvents = some run
        ∧ run.manager.limitSenders.keys = [0, 1, 2]
        ∧ run.manager.connectingData.keys = [1]
        ∧ run.manager.dataAggregator.keys = [0]
        ∧ run.manager.rejectedRunners = [2]
        ∧ run.manager.idGenerator.isAllocated 2 = true
        ∧ ∃ port ∈ run.announced, run.manager.limitSenders.get? 0 = some port := by
  have start : machine.Reachable (.new 100 4) := .initial ⟨100, 4, by decide, rfl⟩
  have isRun : (machine.execute (.new 100 4) mixedEvents).isSome = true := by decide
  obtain ⟨run, executed⟩ := Option.isSome_iff_exists.mp isRun
  have seen
      : (machine.execute (.new 100 4) mixedEvents).map
          (fun run =>
            (run.manager.limitSenders.keys, run.manager.connectingData.keys,
              run.manager.dataAggregator.keys, run.manager.rejectedRunners))
        = some ([0, 1, 2], [1], [0], [2]) := by decide
  rw [executed] at seen
  simp only [Option.map_some, Option.some.injEq, Prod.mk.injEq] at seen
  obtain ⟨senders, waiting, polled, rejected⟩ := seen
  have agree := (joint_invariant (start.execute mixedEvents executed)).1
  refine ⟨run, executed, senders, waiting, polled, rejected, ?_, ?_⟩
  · exact (agree 2).2.2.1.mp (Or.inr (by simp [rejected]))
  · exact ((agree 0).2.2.2.2.2 (Or.inl (by simp [polled]))).2

end ManagerRun

end BoltLoad
