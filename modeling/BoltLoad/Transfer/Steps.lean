import BoltLoad.Transfer.Invariant

/-! Every event of a download attempt keeps the manager and its runners joined: the turns and
deaths of runners, and the spawns, resizes and polls of the manager.
-/

namespace BoltLoad

open OrderedMap

namespace Instance

variable {inst : Instance}

/-- The manager's side of the rings does not matter to a runner's health. -/
theorem Healthy.consume (healthy : inst.Healthy) {lifecycle : List LifecycleEvent}
    {data : List DataFrame} {lifecycleGone dataGone : Bool}
    (events : lifecycle <:+ inst.run.lifecycle) (frames : data <:+ inst.run.data)
    (lifecycleLost : inst.run.lifecycleGone = true → lifecycleGone = true)
    (dataLost : inst.run.dataGone = true → dataGone = true)
    : Healthy
        { inst with run := { inst.run with lifecycle, data, lifecycleGone, dataGone } } :=
  ⟨healthy.sound.consume events frames lifecycleLost dataLost, healthy.driven,
    healthy.unrefused, healthy.limits, healthy.decreasing, healthy.lowered⟩

theorem Healthy.consumed (healthy : inst.Healthy) (manager : RunnerManager)
    (cause : Option RunnerManager.Cause) (port : Port)
    : (inst.consumed manager cause port).Healthy := by
  unfold Instance.consumed
  split
  · split
    · exact healthy.consume (List.tail_suffix _) (List.suffix_refl _) id id
    · exact healthy
  · split
    · exact healthy.consume (List.suffix_refl _) (List.tail_suffix _) id id
    · exact healthy
  · exact healthy

theorem Healthy.settle (healthy : inst.Healthy) (manager : RunnerManager) (port : Port)
    : (inst.settle manager port).Healthy :=
  healthy.consume (List.suffix_refl _) (List.suffix_refl _) (fun gone => by simp [gone])
    (fun gone => by simp [gone])

/-- Taking a frame adds its bytes to those taken. -/
theorem Healthy.taken_takeData (healthy : inst.Healthy) {frame : DataFrame}
    (next : inst.run.data.head? = some frame)
    : inst.takeData.run.taken = inst.run.taken + frame.data.length := by
  have whole := healthy.sound.taken_add
  obtain ⟨rest, queue⟩ := List.head?_eq_some_iff.mp next
  have pushed : inst.takeData.run.pushed = inst.run.pushed := rfl
  have left : inst.takeData.run.data = rest := by simp [takeData, queue]
  have split : (bytesOf inst.run.data).length = frame.data.length + (bytesOf rest).length := by
    rw [queue, bytesOf, List.flatMap_cons, List.length_append]
    rfl
  simp only [RunnerRun.taken, pushed, left] at whole ⊢
  omega

end Instance

namespace Transfer

open RunnerManager

variable {transfer : Transfer} {managed after : ManagerRun} {runnerId : RunnerId} {port : Port}
variable {inst : Instance}

/-- A runner the manager did not touch stays registered as it was. -/
theorem Registered.of_untouched (registered : Registered managed runnerId port inst)
    (untouched : Untouched managed.manager after.manager runnerId)
    (announced : port ∈ after.announced ↔ port ∈ managed.announced)
    : Registered after runnerId port inst := by
  refine ⟨registered.present, ?_, ?_, registered.closed, ?_⟩
  · simp only [announced]
    exact registered.reported
  · rw [untouched.waiting, untouched.polled]
    exact registered.held
  · intro chunk state
    exact registered.serves (untouched.state ▸ state)

/-- Changing one runner leaves the others registered. -/
theorem Sound.replace {changed : Instance} (sound : transfer.Sound)
    (found : transfer.instances.get? port = some inst) (healthy : changed.Healthy)
    (registered
      : ∀ runnerId, Registered transfer.managed runnerId port inst
        → Registered transfer.managed runnerId port changed)
    : Transfer.Sound { transfer with instances := transfer.instances.insert port changed } := by
  refine ⟨sound.managed, ?_, ?_, ?_, ?_⟩
  · intro other otherInst otherFound
    simp only [get?_insert] at otherFound
    split at otherFound
    · cases otherFound
      exact healthy
    · exact sound.healthy otherFound
  · intro other otherInst otherFound
    simp only [get?_insert] at otherFound
    split at otherFound
    · rename_i same
      subst same
      exact sound.known found
    · exact sound.known otherFound
  · intro runnerId other otherInst sender otherFound
    simp only [get?_insert] at otherFound
    split at otherFound
    · rename_i same
      subst same
      exact sound.mailboxes sender found
    · exact sound.mailboxes sender otherFound
  · intro runnerId other receiver
    obtain ⟨otherInst, otherFound, joined⟩ := sound.registered receiver
    by_cases same : other = port
    · subst same
      cases found.symm.trans otherFound
      exact ⟨changed, get?_insert_self _ _ _, registered runnerId joined⟩
    · refine ⟨otherInst, ?_, joined⟩
      simp only [get?_insert_of_ne _ _ same]
      exact otherFound

/-- A turn of a runner keeps everything joined. -/
theorem Sound.afterTurn {sources : Sources} (sound : transfer.Sound) (usizeSize : Nat)
    (enabled : transfer.Enabled (.turn port sources))
    : ∃ after, transfer.turn usizeSize port sources = .ok after ∧ after.Sound := by
  obtain ⟨inst, effect, run, found, turned, applied, -, dataOpen, healthy, serves⟩ :=
    sound.turns usizeSize enabled
  refine ⟨_, turned, sound.replace found healthy ?_⟩
  intro runnerId registered
  have present : inst.run.dataGone = false := by
    cases gone : inst.run.dataGone with
    | false => rfl
    | true =>
        have closed := (registered.closed gone).2
        rw [dataOpen] at closed
        cases closed
  refine ⟨?_, ?_, ?_, ?_, fun state => serves _ (registered.serves state)⟩
  · exact applied.lifecycleGone.trans registered.present
  · simp only [applied.history, applied.lifecycle, eventsOf_append, registered.reported,
      List.append_assoc]
  · exact registered.held.imp_left applied.dataGone.trans
  · intro gone
    have contradiction := applied.dataGone.symm.trans gone
    rw [present] at contradiction
    cases contradiction

/-- A runner that vanishes closes its rings, and changes nothing else. -/
theorem Sound.afterVanish (sound : transfer.Sound)
    (found : transfer.instances.get? port = some inst)
    : Transfer.Sound
        { transfer with
          instances := transfer.instances.insert port { inst with gone := true } } := by
  have healthy := sound.healthy found
  refine sound.replace found ?_ ?_
  · exact ⟨healthy.sound, healthy.driven, healthy.unrefused, healthy.limits, healthy.decreasing,
      healthy.lowered⟩
  · intro runnerId registered
    refine ⟨registered.present, registered.reported, registered.held, ?_, ?_⟩
    · intro gone
      exact ⟨(registered.closed gone).1, rfl⟩
    · intro chunk state
      exact (registered.serves state).of_same rfl rfl rfl rfl rfl

/-- A spawn joins the manager to a new runner, or to none. -/
theorem Sound.afterSpawn (sound : transfer.Sound) (range : Range)
    (outcome : Except SpawnFailed Unit)
    : ∃ after, transfer.spawn range outcome = .ok after ∧ after.Sound := by
  have joint := sound.run.joint
  obtain ⟨result, manager, spawns, spawned⟩ :=
    joint.spawns range transfer.managed.nextPort outcome
  have managedSpawn
      : transfer.managed.spawn range outcome
        = .ok (result,
            { transfer.managed with manager, nextPort := transfer.managed.nextPort + 1 }) := by
    simp only [ManagerRun.spawn, spawns]
    rfl
  have managed
      : ManagerRun.machine.Reachable
          { transfer.managed with manager, nextPort := transfer.managed.nextPort + 1 } := by
    refine ManagerRun.reachable_next sound.managed (.spawn range outcome) trivial ?_
    simp only [ManagerRun.next, managedSpawn]
    rfl
  have known {other : Port} {otherInst : Instance}
      (found : transfer.instances.get? other = some otherInst)
      : other < transfer.managed.nextPort + 1 :=
    (sound.known found).trans (Nat.lt_succ_self _)
  -- Without a new runner every registered one is as before.
  have unchanged (idGenerator : Generator)
      (managed
        : ManagerRun.machine.Reachable
            { transfer.managed with
              manager := { transfer.managed.manager with idGenerator }
              nextPort := transfer.managed.nextPort + 1 })
      : Transfer.Sound
          { transfer with
            managed :=
              { transfer.managed with
                manager := { transfer.managed.manager with idGenerator }
                nextPort := transfer.managed.nextPort + 1 } } := by
    refine ⟨managed, sound.healthy, known, sound.mailboxes, ?_⟩
    intro runnerId port receiver
    obtain ⟨inst, found, registered⟩ := sound.registered receiver
    exact ⟨inst, found, registered.of_untouched ⟨rfl, rfl, rfl, rfl, rfl⟩ Iff.rfl⟩
  refine ⟨_, by simp only [Transfer.spawn, managedSpawn]; rfl, ?_⟩
  cases spawned with
  | full none_free => exact unchanged _ managed
  | refused next allocates rejects => exact unchanged _ managed
  | @accepted newId idGenerator next allocates free =>
      have isNew
          : ((some ()).isSome = true ∧ (Except.ok () : Except SpawnFailed Unit).isOk = true) :=
        ⟨rfl, rfl⟩
      simp only [if_pos isNew]
      have others {runnerId : RunnerId} (distinct : runnerId ≠ newId) :=
        (joint.allocation_untouched transfer.managed.nextPort allocates free distinct).1
      have older {runnerId : RunnerId} {port : Port} (distinct : runnerId ≠ newId)
          (sender : (transfer.managed.manager.spawned newId idGenerator range
            transfer.managed.nextPort).limitSenders.get? runnerId = some port)
          : transfer.managed.manager.limitSenders.get? runnerId = some port
            ∧ port ≠ transfer.managed.nextPort := by
        have before := (others distinct).sender ▸ sender
        exact ⟨before, (sound.run.issued before).ne⟩
      refine ⟨managed, ?_, ?_, ?_, ?_⟩
      · intro port inst found
        simp only [get?_insert] at found
        split at found
        · cases found
          exact .new
        · exact sound.healthy found
      · intro port inst found
        simp only [get?_insert] at found
        split at found
        · rename_i same
          exact same ▸ Nat.lt_succ_self _
        · exact known found
      · intro runnerId port inst sender found
        by_cases same : runnerId = newId
        · subst same
          have own := (get?_insert_self _ _ _).symm.trans sender
          cases own
          exact get?_insert_self _ _ _
        · obtain ⟨before, elsewhere⟩ := older same sender
          simp only [get?_insert_of_ne _ _ elsewhere] at found
          rw [(others same).receiver]
          exact sound.mailboxes before found
      · intro runnerId port receiver
        by_cases same : runnerId = newId
        · subst same
          have own := (get?_insert_self _ _ _).symm.trans receiver
          cases own
          refine ⟨_, get?_insert_self _ _ _, rfl, ?_, ?_, ?_, ?_⟩
          · have unannounced : transfer.managed.nextPort ∉ transfer.managed.announced :=
              fun member => (sound.run.past _ member).false
            simp only [if_neg unannounced]
            rfl
          · exact Or.inr (Or.inl (get?_insert_self _ _ _))
          · intro never
            cases never
          · intro chunk state
            have pending := (joint.allocation_state allocates free).2 runnerId
            rw [if_pos rfl] at pending
            cases pending.symm.trans state
            exact .new range runnerId
        · have before := (others same).receiver ▸ receiver
          obtain ⟨inst, found, registered⟩ := sound.registered before
          have elsewhere : port ≠ transfer.managed.nextPort :=
            (sound.run.issued (joint.ports before)).ne
          refine ⟨inst, ?_, registered.of_untouched (others same) Iff.rfl⟩
          rw [get?_insert_of_ne _ _ elsewhere]
          exact found
  | @rejected newId idGenerator failed next allocates free =>
      have notNew
          : ¬ ((some ()).isSome = true
            ∧ (Except.error failed : Except SpawnFailed Unit).isOk = true) :=
        fun both => by cases both.2
      simp only [if_neg notNew]
      obtain ⟨-, -, noReceiver, -, -, -, -⟩ := joint.absent allocates.free
      have others {runnerId : RunnerId} (distinct : runnerId ≠ newId) :=
        (joint.allocation_untouched transfer.managed.nextPort allocates free distinct).2 failed
      refine ⟨managed, sound.healthy, known, ?_, ?_⟩
      · intro runnerId port inst sender found
        by_cases same : runnerId = newId
        · subst same
          have own := (get?_insert_self _ _ _).symm.trans sender
          cases own
          exact absurd (sound.known found) (lt_irrefl _)
        · rw [(others same).sender] at sender
          exact sound.mailboxes sender found
      · intro runnerId port receiver
        have distinct : runnerId ≠ newId := by
          intro same
          subst same
          cases noReceiver.symm.trans receiver
        obtain ⟨inst, found, registered⟩ := sound.registered receiver
        exact ⟨inst, found, registered.of_untouched (others distinct) Iff.rfl⟩

/-- A resize that shrinks a chunk lowers its runner's limit with it. -/
theorem Sound.afterResize (sound : transfer.Sound) (runnerId : RunnerId) (newSize : Nat)
    : ∃ after, transfer.resize runnerId newSize = .ok after ∧ after.Sound := by
  have joint := sound.run.joint
  obtain ⟨result, sent, manager, resizes, resized⟩ :=
    joint.resizes runnerId newSize (transfer.receives runnerId)
  have managedResize
      : transfer.managed.resize runnerId newSize (transfer.receives runnerId)
        = .ok (result, sent, { transfer.managed with manager }) := by
    simp only [ManagerRun.resize, resizes]
    rfl
  have managed : ManagerRun.machine.Reachable { transfer.managed with manager } := by
    refine ManagerRun.reachable_next sound.managed
      (.resize runnerId newSize (transfer.receives runnerId)) trivial ?_
    simp only [ManagerRun.next, managedResize]
    rfl
  refine ⟨_, by simp only [Transfer.resize, managedResize]; rfl, ?_⟩
  cases resized with
  | refused => exact ⟨managed, sound.healthy, sound.known, sound.mailboxes, sound.registered⟩
  | unchanged owned same =>
      exact ⟨managed, sound.healthy, sound.known, sound.mailboxes, sound.registered⟩
  | @shrunk chunk port owned nonempty shrinks sender received =>
      simp only [receives, sender, Option.bind_some, Option.any_eq_true] at received
      obtain ⟨inst, found, -⟩ := received
      have receiver := sound.mailboxes sender found
      obtain ⟨_, foundAgain, registered⟩ := sound.registered receiver
      cases found.symm.trans foundAgain
      have mine := (ChunkPlanner.getRunnerState_eq_some_iff joint.planner).mpr owned
      have shaped := joint.planner.shaped owned.found
      have state (other : RunnerId) :=
        owned.getRunnerState_withChunk joint.planner
          (chunk.cutAt (chunk.downloaded.stop + newSize)) other
      obtain ⟨healthy, serves⟩ :=
        (registered.serves mine).receive (sound.healthy found) shaped.anchored
          (Nat.le_add_right _ newSize) shrinks nonempty
      simp only [Transfer.update, found]
      refine ⟨managed, ?_, ?_, ?_, ?_⟩
      · intro other otherInst otherFound
        simp only [get?_insert] at otherFound
        split at otherFound
        · cases otherFound
          exact healthy
        · exact sound.healthy otherFound
      · intro other otherInst otherFound
        simp only [get?_insert] at otherFound
        split at otherFound
        · rename_i same
          subst same
          exact sound.known found
        · exact sound.known otherFound
      · intro otherId other otherInst otherSender otherFound
        simp only [get?_insert] at otherFound
        split at otherFound
        · rename_i same
          subst same
          exact sound.mailboxes otherSender found
        · exact sound.mailboxes otherSender otherFound
      · intro otherId other otherReceiver
        by_cases same : otherId = runnerId
        · subst same
          cases receiver.symm.trans otherReceiver
          refine ⟨_, get?_insert_self _ _ _, registered.present, registered.reported,
            registered.held, registered.closed, ?_⟩
          intro after reads
          have cut := state otherId
          rw [if_pos rfl] at cut
          cases cut.symm.trans reads
          exact serves
        · obtain ⟨otherInst, otherFound, otherRegistered⟩ := sound.registered otherReceiver
          have elsewhere : other ≠ port :=
            fun equal => same (sound.run.receiver_unique otherReceiver (equal ▸ receiver))
          have kept := state otherId
          rw [if_neg same] at kept
          refine ⟨otherInst, ?_,
            otherRegistered.of_untouched ⟨kept, rfl, rfl, rfl, rfl⟩ Iff.rfl⟩
          rw [get?_insert_of_ne _ _ elsewhere]
          exact otherFound

end Transfer

end BoltLoad
