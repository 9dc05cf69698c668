import BoltLoad.RunnerManager.Protocol
import BoltLoad.Transfer.Model

/-! What joins the manager to its runners. The planner's chunk, the runner's total, its unread
limit and the bytes taken from its ring agree, whichever of them has moved last.
-/

namespace BoltLoad

open OrderedMap

namespace Instance

/-- What holds of every spawned runner, registered or released. -/
structure Healthy (inst : Instance) : Prop where
  sound : inst.run.Sound
  driven : inst.run.driver = .run
  unrefused : inst.run.refused = false
  limits
    : ∃ total,
        inst.run.loop.runner.total = some total
        ∧ (∀ limit ∈ inst.mailbox, limit < total)
        ∧ total ≤ inst.requested.len
  decreasing : inst.sent.Pairwise (fun earlier later => later < earlier)
  lowered : ∀ limit ∈ inst.sent, limit < inst.requested.len

/-- The chunk a runner downloads for: as long as the newest limit, and accepted as far as
frames were taken.
-/
structure Serves (inst : Instance) (chunk : ChunkState) : Prop where
  start : chunk.allocated.start = inst.requested.start
  length
    : ∀ total,
        inst.run.loop.runner.total = some total
        → chunk.allocated.len = inst.mailbox.getD total
  accepted : chunk.downloaded.len = min inst.run.taken chunk.allocated.len
  limited : ∀ limit ∈ inst.sent, chunk.allocated.len ≤ limit

theorem Healthy.new {range : Range} : (Instance.new range).Healthy where
  sound := .new (by simp) (by simp)
  driven := rfl
  unrefused := rfl
  limits := ⟨_, rfl, fun limit unread => (by cases unread), le_refl _⟩
  decreasing := .nil
  lowered limit member := by cases member

theorem Serves.new (range : Range) (runnerId : RunnerId)
    : (Instance.new range).Serves (.new range (some runnerId) .pending) where
  start := rfl
  length total same := by
    cases same
    rfl
  accepted := by
    simp [ChunkState.new, HalfOpen.len, RunnerRun.taken, Instance.new, RunnerRun.new,
      RunnerRun.pushed, framesOf]
  limited limit member := by cases member

/-- A runner that serves a chunk was asked for no less, and neither was its total lowered
below it.
-/
theorem Serves.length_le {inst : Instance} {chunk : ChunkState} (serves : inst.Serves chunk)
    (healthy : inst.Healthy)
    : ∃ total,
        inst.run.loop.runner.total = some total
        ∧ chunk.allocated.len ≤ total
        ∧ total ≤ inst.requested.len := by
  obtain ⟨total, known, unread, asked⟩ := healthy.limits
  refine ⟨total, known, ?_, asked⟩
  rw [serves.length total known]
  cases mailbox : inst.mailbox with
  | none => exact le_refl _
  | some limit => exact (unread limit mailbox).le

/-- Only the downloaded and the allocated range of a chunk matter. -/
theorem Serves.congr {inst : Instance} {chunk other : ChunkState} (serves : inst.Serves chunk)
    (allocated : other.allocated = chunk.allocated)
    (downloaded : other.downloaded = chunk.downloaded)
    : inst.Serves other where
  start := allocated ▸ serves.start
  length := allocated ▸ serves.length
  accepted := by rw [allocated, downloaded, serves.accepted]
  limited := allocated ▸ serves.limited

/-- A chunk only depends on the runner's total, its mailbox and what was taken. -/
theorem Serves.of_same {inst after : Instance} {chunk : ChunkState} (serves : inst.Serves chunk)
    (requested : after.requested = inst.requested)
    (total : after.run.loop.runner.total = inst.run.loop.runner.total)
    (mailbox : after.mailbox = inst.mailbox) (taken : after.run.taken = inst.run.taken)
    (sent : after.sent = inst.sent)
    : after.Serves chunk where
  start := by rw [requested, serves.start]
  length limit known := by rw [mailbox, serves.length limit (total ▸ known)]
  accepted := by rw [taken, serves.accepted]
  limited := sent ▸ serves.limited

-----------------------------------------------------------------------------------------
-- Steps of the parties
-----------------------------------------------------------------------------------------

/-- A limit shorter than everything before keeps the runner healthy and its chunk in step. -/
theorem Serves.receive {inst : Instance} {chunk : ChunkState} {stop : Nat}
    (serves : inst.Serves chunk) (healthy : inst.Healthy)
    (shaped : chunk.downloaded.start = chunk.allocated.start)
    (keeps : chunk.downloaded.stop ≤ stop) (shrinks : stop < chunk.allocated.stop)
    (nonempty : chunk.allocated.start < stop)
    : (inst.receive (stop - chunk.allocated.start)).Healthy
      ∧ (inst.receive (stop - chunk.allocated.start)).Serves (chunk.cutAt stop) := by
  obtain ⟨total, known, within, asked⟩ := serves.length_le healthy
  have shorter : stop - chunk.allocated.start < chunk.allocated.len := by
    simp only [HalfOpen.len]
    omega
  refine ⟨⟨healthy.sound, healthy.driven, healthy.unrefused, ⟨total, known, ?_, asked⟩, ?_, ?_⟩,
    ⟨serves.start, ?_, ?_, ?_⟩⟩
  · intro limit unread
    cases unread
    exact shorter.trans_le within
  · refine List.pairwise_append.mpr ⟨healthy.decreasing, List.pairwise_singleton _ _, ?_⟩
    intro earlier member later new
    cases List.mem_singleton.mp new
    exact shorter.trans_le (serves.limited earlier member)
  · intro limit member
    rcases List.mem_append.mp member with before | new
    · exact healthy.lowered limit before
    · cases List.mem_singleton.mp new
      exact (shorter.trans_le within).trans_le asked
  · intro limit _
    rfl
  · have accepted := serves.accepted
    simp only [Instance.receive, ChunkState.cutAt, HalfOpen.len] at accepted shorter ⊢
    omega
  · intro limit member
    rcases List.mem_append.mp member with before | new
    · exact shorter.le.trans (serves.limited limit before)
    · cases List.mem_singleton.mp new
      exact le_refl _

/-- What a frame adds to what was taken, its chunk accepts as far as it goes. -/
theorem Serves.advance {inst after : Instance} {chunk : ChunkState} {bytes total : Nat}
    (serves : inst.Serves chunk) (shaped : chunk.Shaped total)
    (requested : after.requested = inst.requested)
    (limit : after.run.loop.runner.total = inst.run.loop.runner.total)
    (mailbox : after.mailbox = inst.mailbox) (sent : after.sent = inst.sent)
    (taken : after.run.taken = inst.run.taken + bytes)
    : after.Serves (chunk.advanced bytes) where
  start := by rw [requested, ← serves.start]; rfl
  length limit' known := by rw [mailbox, ← serves.length limit' (limit ▸ known)]; rfl
  accepted := by
    have accepted := serves.accepted
    have anchored := shaped.anchored
    have started := shaped.started
    have bounded := shaped.bounded
    simp only [ChunkState.advanced, HalfOpen.len, taken] at accepted ⊢
    omega
  limited := sent ▸ serves.limited

end Instance

/-- A runner the manager polls the lifecycle of. -/
structure Transfer.Registered (managed : ManagerRun) (runnerId : RunnerId) (port : Port)
    (inst : Instance)
    : Prop where
  present : inst.run.lifecycleGone = false
  reported
    : eventsOf inst.run.history
      = (if port ∈ managed.announced then [.started] else []) ++ inst.run.lifecycle
  held
    : inst.run.dataGone = true
      ∨ managed.manager.connectingData.get? runnerId = some port
      ∨ managed.manager.dataAggregator.get? runnerId = some port
  /-- Its data is only given up once all of it was taken. -/
  closed : inst.run.dataGone = true → inst.run.data = [] ∧ inst.dataClosed = true
  serves
    : ∀ {chunk},
        managed.manager.chunkPlanner.getRunnerState runnerId = some chunk
        → inst.Serves chunk

/-- What every state of a download attempt keeps to. -/
structure Transfer.Sound (transfer : Transfer) : Prop where
  managed : ManagerRun.machine.Reachable transfer.managed
  healthy : ∀ {port inst}, transfer.instances.get? port = some inst → inst.Healthy
  known
    : ∀ {port inst}, transfer.instances.get? port = some inst → port < transfer.managed.nextPort
  mailboxes
    : ∀ {runnerId port inst},
        transfer.managed.manager.limitSenders.get? runnerId = some port
        → transfer.instances.get? port = some inst
        → transfer.managed.manager.lifecycleAggregator.get? runnerId = some port
  registered
    : ∀ {runnerId port},
        transfer.managed.manager.lifecycleAggregator.get? runnerId = some port
        → ∃ inst,
            transfer.instances.get? port = some inst
              ∧ Registered transfer.managed runnerId port inst

namespace Transfer

open RunnerManager

variable {transfer : Transfer}

theorem Sound.run (sound : transfer.Sound) : transfer.managed.Sound :=
  ManagerRun.reachable_sound sound.managed

theorem Sound.new {total : Nat} (representable : total < u64Size) (maxConcurrency : Nat)
    : (Transfer.new total maxConcurrency).Sound where
  managed := .initial ⟨total, maxConcurrency, representable, rfl⟩
  healthy found := by cases found
  known found := by cases found
  mailboxes found := by cases found
  registered found := by cases found

-----------------------------------------------------------------------------------------
-- A runner's turn
-----------------------------------------------------------------------------------------

/-- A turn of a healthy runner: it takes the unread limit or leaves it. -/
theorem Sound.turns {port : Port} {sources : Sources} (sound : transfer.Sound)
    (usizeSize : Nat) (enabled : transfer.Enabled (.turn port sources))
    : ∃ inst effect run,
        transfer.instances.get? port = some inst
        ∧ transfer.turn usizeSize port sources
          = .ok
              { transfer with
                instances :=
                  transfer.instances.insert port
                    { inst with run, mailbox := inst.mailboxAfter effect } }
        ∧ inst.run.Applied run effect
        ∧ RunnerLoop.EffectFrom sources effect
        ∧ inst.dataClosed = false
        ∧ Instance.Healthy { inst with run, mailbox := inst.mailboxAfter effect }
        ∧ ∀ chunk, inst.Serves chunk
          → Instance.Serves { inst with run, mailbox := inst.mailboxAfter effect }
              chunk := by
  obtain ⟨inst, found, alive, running, allowed, sees⟩ := enabled
  have healthy := sound.healthy found
  have driven : inst.run.driver ≠ .awaitingReady := by simp [healthy.driven]
  obtain ⟨polled, run, polls, turned, afterSound, total⟩ :=
    healthy.sound.turn usizeSize driven running allowed
  obtain ⟨applied, driver⟩ := RunnerRun.turn_applied polls turned
  have source := RunnerLoop.pollStep_from polls
  obtain ⟨current, known, unread, asked⟩ := healthy.limits
  have open_ : inst.dataClosed = false := by
    simp [Instance.dataClosed, alive, healthy.sound.opened running]
  refine ⟨inst, polled.effect, run, found, ?_, applied, source, open_, ?_⟩
  · simp only [Transfer.turn, Option.mem_def.mp found, polls, turned, Checked.ok_bind]
    rfl
  -- Either the unread limit is taken, which is below the total, or nothing changes.
  have takes
      : (∃ limit, inst.mailbox = some limit
          ∧ inst.mailboxAfter polled.effect = none
          ∧ run.loop.runner.total = some limit
          ∧ run.refused = false)
        ∨ inst.mailboxAfter polled.effect = inst.mailbox
          ∧ run.loop.runner.total = some current
          ∧ run.refused = false := by
    have refused := applied.refused
    rw [healthy.unrefused, Bool.false_or, known] at refused
    rw [known] at total
    cases effect : polled.effect with
    | takeControl signal =>
        obtain ⟨limit⟩ := signal
        rw [effect] at source total refused
        have control : sources.control = some (some (.limitTotal limit)) := source
        simp only [Sees, control] at sees
        have lower := unread limit sees
        refine Or.inl ⟨limit, sees, rfl, ?_, ?_⟩
        · simpa [RunnerRun.limited, TaskRunner.applyControl, lower] using total
        · simpa [RunnerRun.refusedBy, RunnerRun.refuses, TaskRunner.applyControl, lower]
            using refused
    | none =>
        rw [effect] at total refused
        exact Or.inr ⟨rfl, total, refused⟩
    | readStream item =>
        rw [effect] at total refused
        exact Or.inr ⟨rfl, total, refused⟩
    | pushLifecycle event =>
        rw [effect] at total refused
        exact Or.inr ⟨rfl, total, refused⟩
    | pushData frame =>
        rw [effect] at total refused
        exact Or.inr ⟨rfl, total, refused⟩
  have taken := applied.taken_eq
  rcases takes with ⟨limit, waiting, emptied, lowered, unrefused⟩ | ⟨kept, same, unrefused⟩
  · have lower := unread limit waiting
    refine ⟨⟨afterSound, driver healthy.driven, unrefused, ⟨limit, lowered, ?_, ?_⟩,
      healthy.decreasing, healthy.lowered⟩, fun chunk serves => ⟨serves.start, ?_, ?_,
      serves.limited⟩⟩
    · intro other waits
      simp only [emptied] at waits
      cases waits
    · exact lower.le.trans asked
    · intro after read
      have agreed := serves.length current known
      simp only at read ⊢
      rw [lowered] at read
      cases read
      rw [agreed, waiting, emptied]
      rfl
    · simp only [taken]
      exact serves.accepted
  · refine ⟨⟨afterSound, driver healthy.driven, unrefused, ⟨current, same, ?_, asked⟩,
      healthy.decreasing, healthy.lowered⟩, fun chunk serves => ?_⟩
    · intro other waits
      exact unread other (kept ▸ waits)
    · exact serves.of_same rfl (same.trans known.symm) kept taken rfl

end Transfer

end BoltLoad
