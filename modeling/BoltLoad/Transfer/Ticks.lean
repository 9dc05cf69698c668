import BoltLoad.Transfer.Steps

/-! Polls of the manager keep it joined to its runners: what it takes from a ring, what the
planner makes of it, and the receivers it drops. With the other events, every reachable
state of a download attempt is sound.
-/

namespace BoltLoad

open OrderedMap

namespace Transfer

open RunnerManager

variable {usizeSize : Nat} {transfer : Transfer} {managed : ManagerRun} {runnerId : RunnerId}
variable {port : Port} {inst : Instance}

/-- What the rings offer keeps to the runner protocol. -/
theorem Sound.delivers (sound : transfer.Sound) {cause : Cause} (offers : transfer.Offers cause)
    : transfer.managed.Delivers cause := by
  cases cause with
  | spawnFailure runnerId failed => trivial
  | lifecycle event =>
      cases event with
      | closed runnerId =>
          obtain ⟨port, receiver, -⟩ := offers
          exact mem_keys_iff.mpr ⟨port, receiver⟩
      | event runnerId item =>
          obtain ⟨port, receiver, inst, found, next⟩ := offers
          cases item with
          | stopped reason => exact mem_keys_iff.mpr ⟨port, receiver⟩
          | started =>
              refine ⟨port, receiver, fun announced => ?_⟩
              obtain ⟨_, foundAgain, registered⟩ := sound.registered receiver
              cases (Option.mem_def.mp found).symm.trans foundAgain
              obtain ⟨rest, queue⟩ := List.head?_eq_some_iff.mp next
              have reported := registered.reported
              rw [if_pos announced, queue] at reported
              exact (sound.healthy foundAgain).sound.started_once reported List.mem_cons_self
  | data event =>
      cases event with
      | data runnerId item =>
          obtain ⟨port, polled, -⟩ := offers
          exact mem_keys_iff.mpr ⟨port, polled⟩
      | closed runnerId =>
          obtain ⟨port, polled, -⟩ := offers
          exact mem_keys_iff.mpr ⟨port, polled⟩

/-- Whatever the manager did, a runner it still polls is settled with the receivers it kept. -/
theorem registered_settle (run : managed.Sound)
    (receiver : managed.manager.lifecycleAggregator.get? runnerId = some port)
    (present : inst.run.lifecycleGone = false)
    (reported
      : eventsOf inst.run.history
        = (if port ∈ managed.announced then [.started] else []) ++ inst.run.lifecycle)
    (closed
      : inst.run.dataGone = true
          ∨ managed.manager.connectingData.get? runnerId ≠ some port
            ∧ managed.manager.dataAggregator.get? runnerId ≠ some port
        → inst.run.data = [] ∧ inst.dataClosed = true)
    (serves
      : ∀ {chunk},
          managed.manager.chunkPlanner.getRunnerState runnerId = some chunk
          → inst.Serves chunk)
    : Registered managed runnerId port (inst.settle managed.manager port) := by
  have joint := run.joint
  have holds
      : (port ∈ managed.manager.connectingData.values ∨ port ∈ managed.manager.dataAggregator.values)
        ↔ managed.manager.connectingData.get? runnerId = some port
          ∨ managed.manager.dataAggregator.get? runnerId = some port := by
    refine or_congr ⟨fun member => ?_, fun found => mem_values_iff.mpr ⟨_, found⟩⟩
      ⟨fun member => ?_, fun found => mem_values_iff.mpr ⟨_, found⟩⟩
    · obtain ⟨other, found⟩ := mem_values_iff.mp member
      have same := run.receiver_unique (joint.connecting.mp found).1 receiver
      exact same ▸ found
    · obtain ⟨other, found⟩ := mem_values_iff.mp member
      have same := run.receiver_unique (joint.data found).1 receiver
      exact same ▸ found
  have listed : port ∈ managed.manager.lifecycleAggregator.values :=
    mem_values_iff.mpr ⟨_, receiver⟩
  refine ⟨?_, reported, ?_, ?_, ?_⟩
  · simp [Instance.settle, present, listed]
  · simp only [Instance.settle, holds]
    by_cases kept : managed.manager.connectingData.get? runnerId = some port
        ∨ managed.manager.dataAggregator.get? runnerId = some port
    · exact Or.inr kept
    · exact Or.inl (by simp [kept])
  · intro gone
    refine closed ?_
    simp only [Instance.settle, Bool.or_eq_true, Bool.not_eq_true', decide_eq_false_iff_not,
      holds, not_or] at gone
    exact gone
  · intro chunk state
    exact (serves state).of_same rfl rfl rfl rfl rfl

/-- A runner another cause is about keeps its rings. -/
theorem Sound.consumed_other (sound : transfer.Sound) {cause : Cause}
    (receiver : transfer.managed.manager.lifecycleAggregator.get? runnerId = some port)
    (distinct : runnerId ≠ cause.runnerId)
    : inst.consumed transfer.managed.manager (some cause) port = inst := by
  unfold Instance.consumed
  split
  · rename_i other item same
    cases same
    refine if_neg (fun found => distinct ?_)
    exact sound.run.receiver_unique receiver found
  · rename_i other item same
    cases same
    refine if_neg (fun found => distinct ?_)
    exact sound.run.receiver_unique receiver (sound.run.joint.data found).1
  · rfl

/-- Handling a cause leaves the runners that are still polled registered, their rings without
what was taken.
-/
theorem Sound.registered_afterCause (sound : transfer.Sound) {cause : Cause} {tick : RunnerTick}
    {manager : RunnerManager} (offers : transfer.Offers cause)
    (offered : transfer.managed.manager.Offers cause)
    (handled : transfer.managed.manager.Handled cause tick manager)
    (receiver : manager.lifecycleAggregator.get? runnerId = some port)
    : ∃ inst,
        transfer.instances.get? port = some inst
        ∧ Registered (transfer.managed.afterCause cause tick manager) runnerId port
            ((inst.consumed transfer.managed.manager (some cause) port).settle manager port) := by
  have joint := sound.run.joint
  have run := sound.run.afterCause offered handled
  have before := (joint.handled_kept handled runnerId port).2 receiver
  obtain ⟨inst, found, registered⟩ := sound.registered before
  have healthy := sound.healthy found
  refine ⟨inst, found, ?_⟩
  by_cases distinct : runnerId ≠ cause.runnerId
  · have untouched := joint.handled_untouched handled distinct
    rw [sound.consumed_other before distinct]
    have announced
        : port ∈ transfer.managed.announcedAfter (some cause)
          ↔ port ∈ transfer.managed.announced := by
      rw [sound.run.afterCause_started offered handled receiver, untouched.isConnecting,
        ← sound.run.started before]
    refine registered_settle run receiver registered.present ?_ ?_ ?_
    · simp only [ManagerRun.afterCause, announced]
      exact registered.reported
    · intro given
      refine registered.closed ?_
      rcases given with gone | ⟨notWaiting, notPolled⟩
      · exact gone
      · simp only [ManagerRun.afterCause, untouched.waiting, untouched.polled]
          at notWaiting notPolled
        exact registered.held.resolve_right
          (fun kept => kept.elim (fun waits => notWaiting waits) (fun polls => notPolled polls))
    · intro chunk state
      exact registered.serves (untouched.state ▸ state)
  · have same := not_not.mp distinct
    subst same
    cases ends : cause.retires with
    | true =>
        rw [(joint.handled_forgotten handled ends).receiver] at receiver
        cases receiver
    | false =>
        cases handled with
        | @started startedId chunk waitingPort owned pending waiting =>
            obtain ⟨waits, -⟩ := joint.connecting.mp waiting
            have own : startedId = Cause.runnerId (.lifecycle (.event startedId .started)) := rfl
            cases before.symm.trans waits
            obtain ⟨_, ring, _, foundAgain, next⟩ := offers
            cases before.symm.trans ring
            cases found.symm.trans foundAgain
            obtain ⟨rest, queue⟩ := List.head?_eq_some_iff.mp next
            have unannounced : port ∉ transfer.managed.announced := by
              intro announced
              have reported := registered.reported
              rw [if_pos announced, queue] at reported
              exact healthy.sound.started_once reported List.mem_cons_self
            have taken
                : inst.consumed transfer.managed.manager
                    (some (.lifecycle (.event startedId .started))) port
                  = inst.takeLifecycle := if_pos before
            rw [taken]
            refine registered_settle run receiver registered.present ?_ ?_ ?_
            · have reported := registered.reported
              rw [if_neg unannounced, queue] at reported
              have announced
                  : port ∈ (transfer.managed.afterCause
                      (.lifecycle (.event startedId .started)) .downloading
                      (transfer.managed.manager.started startedId chunk port)).announced := by
                simp [ManagerRun.afterCause, ManagerRun.announcedAfter, waits]
              rw [if_pos announced]
              simpa [Instance.takeLifecycle, queue] using reported
            · intro given
              rcases given with gone | ⟨-, notPolled⟩
              · exact registered.closed gone
              · exact absurd (get?_insert_self _ _ _) notPolled
            · intro after state
              have runs := owned.getRunnerState_withChunk joint.planner
                { chunk with status := .running } startedId
              rw [if_pos rfl] at runs
              cases runs.symm.trans state
              have mine := (ChunkPlanner.getRunnerState_eq_some_iff joint.planner).mpr owned
              have same : inst.Serves { chunk with status := .running } :=
                (registered.serves mine).congr rfl rfl
              exact same.of_same rfl rfl rfl rfl rfl
        | @data dataId item chunk owned running =>
            obtain ⟨_, polls, _, foundAgain, next⟩ := offers
            have ring := (joint.data polls).1
            cases before.symm.trans ring
            cases found.symm.trans foundAgain
            have taken
                : inst.consumed transfer.managed.manager (some (.data (.data dataId item))) port
                  = inst.takeData := if_pos polls
            rw [taken]
            refine registered_settle run receiver registered.present registered.reported ?_ ?_
            · intro given
              rcases given with gone | ⟨-, notPolled⟩
              · have empty := (registered.closed gone).1
                rw [empty] at next
                cases next
              · exact absurd polls notPolled
            · intro after state
              have advances := owned.getRunnerState_advance joint.planner item.data.length dataId
              rw [if_pos rfl] at advances
              cases advances.symm.trans state
              have mine := (ChunkPlanner.getRunnerState_eq_some_iff joint.planner).mpr owned
              exact (registered.serves mine).advance (joint.planner.shaped owned.found) rfl rfl rfl
                rfl (healthy.taken_takeData next)
        | @dataClosed dataId =>
            obtain ⟨_, polls, _, foundAgain, empty, ended⟩ := offers
            have ring := (joint.data polls).1
            cases before.symm.trans ring
            cases found.symm.trans foundAgain
            refine registered_settle run receiver registered.present registered.reported
              (fun _ => ⟨empty, ended⟩) ?_
            intro chunk state
            exact registered.serves state
        | _ => cases ends

/-- A poll keeps everything joined, or panics on a clock too young. -/
theorem Sound.afterTick (sound : transfer.Sound) (now : Instant) {dataEnabled : Bool}
    {lifecycle : Option LifecycleStreamEvent} {data : Option DataStreamEvent}
    (enabled : transfer.Enabled (.tick now dataEnabled lifecycle data))
    : (∃ tick after,
        transfer.tick now dataEnabled lifecycle data = .ok (tick, after)
        ∧ after.Sound
        ∧ transfer.managed.Ticked dataEnabled lifecycle data tick after.managed)
      ∨ transfer.tick now dataEnabled lifecycle data
          = .error (.expect RunnerOutcomeSampler.clockMessage) := by
  have managedEnabled : transfer.managed.Enabled (.tick now dataEnabled lifecycle data) :=
    fun cause selects => sound.delivers (enabled cause selects)
  rcases sound.run.ticks now managedEnabled with ⟨tick, managed, ticks, ticked⟩ | ⟨early, -⟩
  swap
  · refine Or.inr ?_
    simp only [Transfer.tick, early]
    rfl
  have reached : ManagerRun.machine.Reachable managed := by
    refine ManagerRun.reachable_next sound.managed (.tick now dataEnabled lifecycle data)
      managedEnabled ?_
    simp only [ManagerRun.next, ticks]
    rfl
  refine Or.inl ⟨_, _, by simp only [Transfer.tick, ticks]; rfl, ?_, ticked⟩
  have found {port : Port} {after : Instance}
      (changed
        : (transfer.instances.mapValues (fun port inst =>
            (inst.consumed transfer.managed.manager
              (transfer.managed.manager.selected dataEnabled lifecycle data) port).settle
              managed.manager port)).get? port
          = some after)
      : ∃ inst, transfer.instances.get? port = some inst
          ∧ after
            = (inst.consumed transfer.managed.manager
              (transfer.managed.manager.selected dataEnabled lifecycle data) port).settle
              managed.manager port := by
    rw [get?_mapValues, Option.map_eq_some_iff] at changed
    obtain ⟨inst, before, same⟩ := changed
    exact ⟨inst, before, same.symm⟩
  have nextPort : managed.nextPort = transfer.managed.nextPort := by
    cases ticked with
    | idle nothing => rfl
    | handled selects offered handled => rfl
  refine ⟨reached, ?_, ?_, ?_, ?_⟩
  · intro port after changed
    obtain ⟨inst, before, rfl⟩ := found changed
    exact ((sound.healthy before).consumed _ _ _).settle _ _
  · intro port after changed
    obtain ⟨inst, before, -⟩ := found changed
    exact nextPort ▸ sound.known before
  · intro runnerId port after sender changed
    obtain ⟨inst, before, -⟩ := found changed
    cases ticked with
    | idle nothing => exact sound.mailboxes sender before
    | @handled cause tick manager selects offered handled =>
        have joint := sound.run.joint
        have receiver := sound.mailboxes ((joint.handled_kept handled _ _).1 sender) before
        by_cases same : runnerId = cause.runnerId
        · subst same
          cases ends : cause.retires with
          | true =>
              have forgotten := (joint.handled_forgotten handled ends).sender
              cases forgotten.symm.trans sender
          | false =>
              cases handled with
              | started => exact receiver
              | data => exact receiver
              | dataClosed => exact receiver
              | _ => cases ends
        · exact (joint.handled_untouched handled same).receiver.trans receiver
  · intro runnerId port receiver
    cases ticked with
    | idle nothing =>
        obtain ⟨inst, before, registered⟩ := sound.registered receiver
        refine ⟨_, by rw [get?_mapValues, before]; rfl, ?_⟩
        rw [nothing]
        refine registered_settle sound.run receiver registered.present registered.reported ?_
          registered.serves
        intro given
        refine registered.closed ?_
        rcases given with gone | ⟨notWaiting, notPolled⟩
        · exact gone
        · exact registered.held.resolve_right
            (fun kept => kept.elim (fun waits => notWaiting waits) (fun polls => notPolled polls))
    | @handled cause tick manager selects offered handled =>
        obtain ⟨inst, before, registered⟩ :=
          sound.registered_afterCause (enabled cause selects) offered handled receiver
        refine ⟨_, by rw [get?_mapValues, before]; rfl, ?_⟩
        rw [selects]
        exact registered

-----------------------------------------------------------------------------------------
-- Runs
-----------------------------------------------------------------------------------------

/-- Every enabled event keeps a download attempt sound, or panics on a clock too young. -/
theorem Sound.next (sound : transfer.Sound) (usizeSize : Nat) {event : TransferEvent}
    (enabled : transfer.Enabled event)
    : (∃ after, transfer.next usizeSize event = .ok after ∧ after.Sound)
      ∨ transfer.next usizeSize event = .error (.expect RunnerOutcomeSampler.clockMessage) := by
  cases event with
  | spawn range outcome => exact Or.inl (sound.afterSpawn range outcome)
  | resize runnerId newSize => exact Or.inl (sound.afterResize runnerId newSize)
  | tick now dataEnabled lifecycle data =>
      rcases sound.afterTick now enabled with ⟨tick, after, ticks, afterSound, -⟩ | early
      · refine Or.inl ⟨after, ?_, afterSound⟩
        simp only [Transfer.next, ticks]
        rfl
      · refine Or.inr ?_
        simp only [Transfer.next, early]
        rfl
  | takeMetersSnapshot =>
      have managed :=
        ManagerRun.reachable_next sound.managed .takeMetersSnapshot trivial rfl
      refine Or.inl ⟨_, rfl, managed, sound.healthy, sound.known, sound.mailboxes, ?_⟩
      intro runnerId port receiver
      obtain ⟨inst, found, registered⟩ := sound.registered receiver
      exact ⟨inst, found, registered.of_untouched ⟨rfl, rfl, rfl, rfl, rfl⟩ Iff.rfl⟩
  | observeOutcomes sampler =>
      have managed :=
        ManagerRun.reachable_next sound.managed (.observeOutcomes sampler) trivial rfl
      refine Or.inl ⟨_, rfl, managed, sound.healthy, sound.known, sound.mailboxes, ?_⟩
      intro runnerId port receiver
      obtain ⟨inst, found, registered⟩ := sound.registered receiver
      exact ⟨inst, found, registered.of_untouched ⟨rfl, rfl, rfl, rfl, rfl⟩ Iff.rfl⟩
  | turn port sources => exact Or.inl (sound.afterTurn usizeSize enabled)
  | vanish port =>
      obtain ⟨inst, found⟩ := enabled
      refine Or.inl ⟨_, rfl, ?_⟩
      simp only [Transfer.update, Option.mem_def.mp found]
      exact sound.afterVanish found

/-- Every reachable state of a download attempt is sound, by induction on the run. -/
theorem reachable_sound (reached : (machine usizeSize).Reachable transfer) : transfer.Sound := by
  refine reached.invariant ?_ ?_
  · rintro start ⟨total, maxConcurrency, representable, same⟩
    exact same ▸ Sound.new representable maxConcurrency
  · intro before event after _ sound step
    rcases sound.next usizeSize step.enabled with ⟨reachedAfter, next, afterSound⟩ | panics
    · have same : after = reachedAfter := Except.ok.inj (step.next.symm.trans next)
      exact same ▸ afterSound
    · have never := step.next.symm.trans panics
      cases never

end Transfer

end BoltLoad
