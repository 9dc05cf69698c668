import BoltLoad.FileWriter.MmapWriter
import BoltLoad.RunnerManager.Writes
import BoltLoad.Transfer.Ticks

/-! What is handed out for writing, with the runners that read it. A runner's bytes are a
prefix of its stream, and what the manager takes of them starts where it has accepted them up
to: so every chunk holds the content of its own range, whatever limits overtook the runner.
-/

namespace BoltLoad

open OrderedMap Segment

namespace Instance

variable {inst : Instance} {content : Nat → UInt8}

/-- What the runner read is the content from its offset on. -/
def Streamed (content : Nat → UInt8) (inst : Instance) : Prop :=
  inst.run.read = segment content inst.requested.start inst.run.read.length

/-- Whatever its stream yields next is the content where the runner has read up to. -/
def Continues (content : Nat → UInt8) (inst : Instance)
    : Option (Option (Except AdapterError Bytes)) → Prop
  | some (some (.ok item)) =>
    item = segment content (inst.requested.start + inst.run.read.length) item.length
  | _ => True

instance (content : Nat → UInt8) (inst : Instance)
    (item : Option (Option (Except AdapterError Bytes)))
    : Decidable (inst.Continues content item) := by
  unfold Continues
  split <;> infer_instance

/-- The frame the manager takes next holds the content from where it was taken up to. -/
theorem Streamed.frame (streamed : inst.Streamed content) (healthy : inst.Healthy)
    {frame : DataFrame} (next : inst.run.data.head? = some frame)
    : frame.data
      = segment content (inst.requested.start + inst.run.taken) frame.data.length := by
  obtain ⟨front, split, length⟩ := healthy.sound.pushed_split
  obtain ⟨rest, queue⟩ := List.head?_eq_some_iff.mp next
  have pushed := eq_segment_of_prefix healthy.sound.delivers streamed
  have frames : bytesOf inst.run.data = frame.data ++ bytesOf rest := by
    rw [queue, bytesOf, List.flatMap_cons]
    rfl
  rw [split] at pushed
  have left := (eq_segment_of_append pushed).2
  rw [length, frames] at left
  exact (eq_segment_of_append left).1

/-- A new runner has read nothing. -/
theorem Streamed.new (content : Nat → UInt8) (range : Range)
    : (Instance.new range).Streamed content :=
  rfl

/-- The manager's side of the rings does not matter to what was read. -/
theorem Streamed.polled (streamed : inst.Streamed content) (manager after : RunnerManager)
    (cause : Option RunnerManager.Cause) (port : Port)
    : ((inst.consumed manager cause port).settle after port).Streamed content := by
  unfold Instance.consumed
  split
  · split <;> exact streamed
  · split <;> exact streamed
  · exact streamed

/-- What a turn reads goes on where the runner had read up to. -/
theorem Streamed.turn (streamed : inst.Streamed content) {run : RunnerRun} {effect : Effect}
    {mailbox : Option Nat} (applied : inst.run.Applied run effect)
    (follows
      : RunnerRun.readBy effect
        = segment content (inst.requested.start + inst.run.read.length)
            (RunnerRun.readBy effect).length)
    : Streamed content { inst with run, mailbox } := by
  have before : inst.run.read = _ := streamed
  change run.read = segment content inst.requested.start run.read.length
  rw [applied.read, List.length_append, ← segment_append, ← follows, ← before]

end Instance

namespace Transfer

open RunnerManager

variable {usizeSize : Nat} {transfer after : Transfer} {content : Nat → UInt8}

/-- Every stream yields the content from the offset it was requested at on. -/
def Streams (content : Nat → UInt8) (transfer : Transfer) : TransferEvent → Prop
  | .turn port sources =>
    ∀ inst ∈ transfer.instances.get? port, inst.Continues content sources.item
  | _ => True

instance (content : Nat → UInt8) (transfer : Transfer)
    : (event : TransferEvent) → Decidable (transfer.Streams content event)
  | .turn _ _ => inferInstanceAs (Decidable (∀ _ ∈ _, _))
  | .spawn _ _ => .isTrue trivial
  | .resize _ _ => .isTrue trivial
  | .tick _ _ _ _ => .isTrue trivial
  | .takeMetersSnapshot => .isTrue trivial
  | .observeOutcomes _ => .isTrue trivial
  | .vanish _ => .isTrue trivial

/-- The step of a poll is a tick. -/
theorem tick_of_next {now : Instant} {dataEnabled : Bool}
    {lifecycle : Option LifecycleStreamEvent} {data : Option DataStreamEvent}
    (next : transfer.next usizeSize (.tick now dataEnabled lifecycle data) = .ok after)
    : ∃ tick, transfer.tick now dataEnabled lifecycle data = .ok (tick, after) := by
  change (transfer.tick now dataEnabled lifecycle data).map Prod.snd = .ok after at next
  cases ticks : transfer.tick now dataEnabled lifecycle data with
  | error panic =>
      rw [ticks] at next
      cases next
  | ok ticked =>
      rw [ticks] at next
      cases next
      exact ⟨ticked.1, rfl⟩

/-- What a poll leaves of the runners. -/
theorem tick_instances {now : Instant} {dataEnabled : Bool}
    {lifecycle : Option LifecycleStreamEvent} {data : Option DataStreamEvent}
    {tick : Option RunnerTick}
    (ticks : transfer.tick now dataEnabled lifecycle data = .ok (tick, after))
    : after.instances
      = transfer.instances.mapValues (fun port inst =>
          (inst.consumed transfer.managed.manager
            (transfer.managed.manager.selected dataEnabled lifecycle data) port).settle
            after.managed.manager port) := by
  obtain ⟨ticked, -, same⟩ := Checked.bind_eq_ok.mp ticks
  cases same
  rfl

/-- A property of every runner of the transfer. -/
def Every (holds : Instance → Prop) (transfer : Transfer) : Prop :=
  ∀ {port inst}, transfer.instances.get? port = some inst → holds inst

/-- A property every new runner has, that the manager's side of the channels and the end of
its task do not matter to.
-/
structure Intrinsic (holds : Instance → Prop) : Prop where
  new : ∀ range, holds (.new range)
  receive : ∀ {inst : Instance} (limit : Nat), holds inst → holds (inst.receive limit)
  polled
    : ∀ {inst : Instance} (manager after : RunnerManager) (cause : Option RunnerManager.Cause)
        (port : Port),
        holds inst
        → holds ((inst.consumed manager cause port).settle after port)
  vanish : ∀ {inst : Instance}, holds inst → holds { inst with gone := true }

theorem Every.update {holds : Instance → Prop} (every : transfer.Every holds) (port : Port)
    {change : Instance → Instance} (keeps : ∀ inst, holds inst → holds (change inst))
    {other : Port} {inst : Instance}
    (found : (transfer.update port change).get? other = some inst)
    : holds inst := by
  unfold Transfer.update at found
  split at found
  · rename_i changed present
    rw [get?_insert] at found
    split at found
    · cases found
      exact keeps _ (every present)
    · exact every found
  · exact every found

/-- Only a turn of a runner can end such a property. -/
theorem Every.next {holds : Instance → Prop} (intrinsic : Intrinsic holds)
    (every : transfer.Every holds) {event : TransferEvent}
    (turns
      : ∀ port sources,
          event = .turn port sources
          → transfer.turn usizeSize port sources = .ok after
          → after.Every holds)
    (next : transfer.next usizeSize event = .ok after)
    : after.Every holds := by
  cases event with
  | spawn range outcome =>
      obtain ⟨⟨result, managed⟩, -, same⟩ := Checked.bind_eq_ok.mp next
      cases same
      intro port inst found
      simp only at found
      split at found
      · rw [get?_insert] at found
        split at found
        · cases found
          exact intrinsic.new range
        · exact every found
      · exact every found
  | resize runnerId newSize =>
      obtain ⟨⟨result, sent, managed⟩, -, same⟩ := Checked.bind_eq_ok.mp next
      cases same
      intro port inst found
      simp only at found
      split at found
      · exact every.update _ (fun inst => intrinsic.receive _) found
      · exact every found
  | tick now dataEnabled lifecycle data =>
      obtain ⟨tick, ticks⟩ := tick_of_next next
      intro port inst found
      rw [tick_instances ticks, get?_mapValues, Option.map_eq_some_iff] at found
      obtain ⟨before, present, rfl⟩ := found
      exact intrinsic.polled _ _ _ _ (every present)
  | takeMetersSnapshot =>
      cases next
      exact every
  | observeOutcomes sampler =>
      cases next
      exact every
  | turn port sources => exact turns port sources rfl next
  | vanish port =>
      cases next
      intro other inst found
      exact every.update port (fun inst => intrinsic.vanish) found

/-- Every runner of the transfer has read the content. -/
def AllStreamed (content : Nat → UInt8) (transfer : Transfer) : Prop :=
  ∀ {port inst}, transfer.instances.get? port = some inst → inst.Streamed content

theorem intrinsic_streamed (content : Nat → UInt8)
    : Intrinsic (Instance.Streamed content) where
  new := .new content
  receive _ streamed := streamed
  polled manager after cause port streamed := streamed.polled manager after cause port
  vanish streamed := streamed

/-- An event with faithful streams leaves every runner with the content. -/
theorem Sound.streamed_next (sound : transfer.Sound) {event : TransferEvent}
    (enabled : transfer.Enabled event) (streams : transfer.Streams content event)
    (streamed : transfer.AllStreamed content)
    (next : transfer.next usizeSize event = .ok after)
    : after.AllStreamed content := by
  refine Every.next (intrinsic_streamed content) streamed ?_ next
  intro port sources same turns
  subst same
  obtain ⟨inst, effect, run, found, turned, applied, source, -⟩ := sound.turns usizeSize enabled
  have same := Except.ok.inj (turns.symm.trans turned)
  subst same
  intro other otherInst otherFound
  rw [get?_insert] at otherFound
  split at otherFound
  · cases otherFound
    refine (streamed found).turn applied ?_
    cases effect with
    | readStream item =>
        have continues := streams inst found
        have yields : sources.item = some (some (.ok item)) := source
        rw [yields] at continues
        exact continues
    | _ => rfl
  · exact streamed otherFound

-----------------------------------------------------------------------------------------
-- What is handed out for writing
-----------------------------------------------------------------------------------------

/-- A chunk handed out for writing comes from the frame a runner's ring held first, and lies
within what that runner's chunk still lacked: so within its own chunk and in no other's.
-/
theorem Sound.handed_out (sound : transfer.Sound) {cause : Cause} {tick : RunnerTick}
    {manager : RunnerManager} {chunk : DownloadedChunk} (offers : transfer.Offers cause)
    (handled : transfer.managed.manager.Handled cause tick manager)
    (downloaded : tick.downloaded = some chunk)
    : ∃ runnerId owner port inst frame,
        cause = .data (.data runnerId frame)
        ∧ transfer.managed.manager.chunkPlanner.Owns runnerId owner
        ∧ transfer.instances.get? port = some inst
        ∧ inst.run.data.head? = some frame
        ∧ inst.Serves owner
        ∧ chunk = accepted owner frame.data := by
  have joint := sound.run.joint
  cases handled with
  | @data runnerId frame owner owned running =>
      cases downloaded
      obtain ⟨port, polls, inst, found, next⟩ := offers
      obtain ⟨_, foundAgain, registered⟩ := sound.registered (joint.data polls).1
      cases (Option.mem_def.mp found).symm.trans foundAgain
      have state := (ChunkPlanner.getRunnerState_eq_some_iff joint.planner).mpr owned
      exact ⟨runnerId, owner, port, inst, frame, rfl, owned, found, next, registered.serves state,
        rfl⟩
  | completed =>
      rw [report_downloaded _ rfl] at downloaded
      cases downloaded
  | lost =>
      rw [report_downloaded _ rfl] at downloaded
      cases downloaded
  | rejected =>
      rw [attemptTick_downloaded] at downloaded
      cases downloaded
  | unconnected =>
      rw [attemptTick_downloaded] at downloaded
      cases downloaded
  | failed =>
      rw [attemptTick_downloaded] at downloaded
      cases downloaded
  | started => cases downloaded
  | dataClosed => cases downloaded

/-- The bytes a chunk accepts of a faithful runner's frame are the content of its range. -/
theorem accepted_content {inst : Instance} {owner : ChunkState} {frame : DataFrame} {total : Nat}
    (serves : inst.Serves owner) (healthy : inst.Healthy) (shaped : owner.Shaped total)
    (streamed : inst.Streamed content) (next : inst.run.data.head? = some frame)
    : (accepted owner frame.data).bytes
      = segment content (accepted owner frame.data).range.start
          (accepted owner frame.data).bytes.length := by
  by_cases full : owner.allocated.stop ≤ owner.downloaded.stop
  · have none : (accepted owner frame.data).bytes = [] := by
      simp [accepted, full]
    rw [none]
    rfl
  · have accepts := serves.accepted
    have start := serves.start
    have anchored := shaped.anchored
    have started := shaped.started
    -- Short of its chunk's end, the planner has accepted all that was taken.
    have offset : owner.downloaded.stop = inst.requested.start + inst.run.taken := by
      simp only [HalfOpen.len] at accepts
      omega
    have content := streamed.frame healthy next
    rw [← offset] at content
    exact eq_segment_of_prefix (List.take_prefix _ _) content

/-- Runners and writes hold the content. -/
structure Faithful (content : Nat → UInt8) (transfer : Transfer) : Prop where
  streamed : transfer.AllStreamed content
  written
    : ∀ chunk ∈ transfer.managed.written,
        chunk.bytes = segment content chunk.range.start chunk.bytes.length

/-- An event with faithful streams keeps what is written faithful. -/
theorem Sound.faithful_next (sound : transfer.Sound) {event : TransferEvent}
    (enabled : transfer.Enabled event) (streams : transfer.Streams content event)
    (faithful : transfer.Faithful content)
    (next : transfer.next usizeSize event = .ok after)
    : after.Faithful content := by
  refine ⟨sound.streamed_next enabled streams faithful.streamed next, ?_⟩
  cases event with
  | spawn range outcome =>
      obtain ⟨⟨result, managed⟩, spawns, same⟩ := Checked.bind_eq_ok.mp next
      cases same
      obtain ⟨⟨spawned, manager⟩, -, kept⟩ := Checked.bind_eq_ok.mp spawns
      cases kept
      exact faithful.written
  | resize runnerId newSize =>
      obtain ⟨⟨result, sent, managed⟩, resizes, same⟩ := Checked.bind_eq_ok.mp next
      cases same
      obtain ⟨⟨resized, limit, manager⟩, -, kept⟩ := Checked.bind_eq_ok.mp resizes
      cases kept
      exact faithful.written
  | tick now dataEnabled lifecycle data =>
      obtain ⟨tick, ticks⟩ := tick_of_next next
      rcases sound.afterTick now enabled with ⟨same, ticked, again, -, outcome⟩ | early
      swap
      · cases early.symm.trans ticks
      cases again.symm.trans ticks
      intro chunk member
      generalize after.managed = managed at outcome member
      cases outcome with
      | idle nothing => exact faithful.written chunk member
      | handled selects offered handled =>
          rcases List.mem_append.mp member with before | new
          · exact faithful.written chunk before
          · obtain ⟨runnerId, owner, port, inst, frame, -, owned, found, head, serves, rfl⟩ :=
              sound.handed_out (enabled _ selects) handled (Option.mem_toList.mp new)
            exact accepted_content serves (sound.healthy found)
              (sound.run.joint.planner.shaped owned.found) (faithful.streamed found) head
  | takeMetersSnapshot =>
      cases next
      exact faithful.written
  | observeOutcomes sampler =>
      cases next
      exact faithful.written
  | turn port sources =>
      obtain ⟨inst, effect, run, -, turned, -⟩ := sound.turns usizeSize enabled
      cases next.symm.trans turned
      exact faithful.written
  | vanish port =>
      cases next
      exact faithful.written

/-- In every run with faithful streams the writes hold the content, by induction on the run. -/
theorem reachable_faithful
    (reached : ((machine usizeSize).restrict (Streams content)).Reachable transfer)
    : transfer.Faithful content := by
  refine reached.invariant ?_ ?_
  · rintro start ⟨total, maxConcurrency, representable, same⟩
    subst same
    refine ⟨?_, ?_⟩
    · intro port inst found
      cases found
    · intro chunk member
      cases member
  · intro before event after earlier faithful step
    exact (reachable_sound earlier.of_restrict).faithful_next step.enabled.1 step.enabled.2
      faithful step.next

/-- In every run of the manager with its runners, what was handed out for writing never meets,
lies within the file, is as long as its bytes, and can be written to the mapped file without a
panic; with faithful streams it is the content of its range. What a poll hands out is a range
of the runner it came from, and of no other.
-/
theorem written_in_place (reached : (machine usizeSize).Reachable transfer)
    : transfer.managed.written.Pairwise (fun earlier later => earlier.range.Apart later.range)
      ∧ (∀ chunk ∈ transfer.managed.written,
        chunk.range.stop ≤ transfer.managed.manager.chunkPlanner.total
        ∧ chunk.range.start + chunk.bytes.length = chunk.range.stop
        ∧ ∀ mmap : Bytes, mmap.length = transfer.managed.manager.chunkPlanner.total
          → MmapWriter.isSupported usizeSize mmap.length = true
          → ∃ written,
            MmapWriter.executeWrite usizeSize mmap ⟨chunk.range, chunk.bytes⟩ = .ok written
            ∧ written.length = mmap.length
            ∧ ∀ index : Nat,
              written[index]?
              = if index ∈ chunk.range then chunk.bytes[index - chunk.range.start]?
                else mmap[index]?)
      ∧ (∀ content, ((machine usizeSize).restrict (Streams content)).Reachable transfer
        → ∀ chunk ∈ transfer.managed.written,
          chunk.bytes = segment content chunk.range.start chunk.range.len)
      ∧ ∀ now dataEnabled lifecycle data tick after chunk,
        transfer.Enabled (.tick now dataEnabled lifecycle data)
        → transfer.tick now dataEnabled lifecycle data = .ok (some tick, after)
        → tick.downloaded = some chunk
        → ∃ runnerId frame owner,
          transfer.managed.manager.selected dataEnabled lifecycle data
            = some (.data (.data runnerId frame))
          ∧ transfer.managed.manager.chunkPlanner.getRunnerState runnerId = some owner
          ∧ owner.allocated.start ≤ chunk.range.start
          ∧ chunk.range.stop ≤ owner.allocated.stop
          ∧ ∀ other otherChunk, other ≠ runnerId
            → transfer.managed.manager.chunkPlanner.getRunnerState other = some otherChunk
            → chunk.range.Apart otherChunk.allocated := by
  have sound := reachable_sound reached
  have planner := sound.run.joint.planner
  have writes := ManagerRun.reachable_writesSound sound.managed
  refine ⟨writes.apart, ?_, ?_, ?_⟩
  · intro chunk member
    obtain ⟨inside, fits⟩ := writes.fits chunk member
    refine ⟨inside, fits, ?_⟩
    intro mmap whole supported
    have within : chunk.range.stop ≤ mmap.length := whole ▸ inside
    have room : chunk.range.start + chunk.bytes.length ≤ mmap.length := fits ▸ within
    refine ⟨_, MmapWriter.executeWrite_eq supported fits within, length_overwrite room, ?_⟩
    intro index
    rw [getElem?_overwrite room, fits]
    rfl
  · intro content streams chunk member
    have bytes := (reachable_faithful streams).written chunk member
    have fits := (writes.fits chunk member).2
    have sized : chunk.bytes.length = chunk.range.len := by
      simp only [HalfOpen.len]
      omega
    rw [← sized]
    exact bytes
  · intro now dataEnabled lifecycle data tick after chunk enabled ticks downloaded
    rcases sound.afterTick now enabled with ⟨same, ticked, again, -, outcome⟩ | early
    swap
    · cases early.symm.trans ticks
    cases again.symm.trans ticks
    generalize after.managed = managed at outcome
    cases outcome with
    | handled selects offered handled =>
        obtain ⟨runnerId, owner, port, inst, frame, rfl, owned, -, -, -, rfl⟩ :=
          sound.handed_out (enabled _ selects) handled downloaded
        have shaped := planner.shaped owned.found
        have anchored := shaped.anchored
        have started := shaped.started
        have bounded := shaped.bounded
        have starts : owner.allocated.start ≤ (accepted owner frame.data).range.start := by
          simp only [accepted]
          omega
        have stops : (accepted owner frame.data).range.stop ≤ owner.allocated.stop := by
          simp only [accepted]
          omega
        refine ⟨runnerId, frame, owner, selects,
          (ChunkPlanner.getRunnerState_eq_some_iff planner).mpr owned, starts, stops, ?_⟩
        intro other otherChunk distinct state point inside theirs
        have otherOwned := (ChunkPlanner.getRunnerState_eq_some_iff planner).mp state
        have mine : point ∈ owner.allocated :=
          ⟨starts.trans inside.1, inside.2.trans_le stops⟩
        exact planner.allocated_apart owned otherOwned distinct point mine theirs

/-- A runner reads a file of ten bytes whole before its chunk is cut to four. What it pushed is
written as far as the cut, and a second runner has pushed the rest.
-/
def cutShortEvents : List TransferEvent :=
  [.spawn ⟨0, 10⟩ (.ok ()),
    .turn 0 { connection := some (.ok ()) },
    .turn 0 { lifecycleReady := some true },
    .tick 0 true (some (.event 0 .started)) none,
    .turn 0 { item := some (some (.ok [0, 1, 2, 3, 4, 5, 6, 7, 8, 9])) },
    .resize 0 4,
    .spawn ⟨4, 10⟩ (.ok ()),
    .turn 1 { connection := some (.ok ()) },
    .turn 1 { lifecycleReady := some true },
    .tick 0 true (some (.event 1 .started)) none,
    .turn 0 { dataReady := some true },
    .tick 0 true none (some (.data 0 ⟨[0, 1, 2, 3, 4, 5, 6, 7, 8, 9]⟩)),
    .turn 1 { item := some (some (.ok [4, 5, 6, 7, 8, 9])) },
    .turn 1 { dataReady := some true }]

/-- Its write lands in a mapped file as the content of its range, and the next poll hands out
the rest of the file.
-/
theorem written_in_place_cut_short
    : ∃ transfer tick after,
        ((machine u64Size).restrict (Streams UInt8.ofNat)).execute (.new 10 2) cutShortEvents
          = some transfer
        ∧ transfer.managed.written = [⟨⟨0, 4⟩, [0, 1, 2, 3]⟩]
        ∧ [0, 1, 2, 3] = segment UInt8.ofNat 0 4
        ∧ (∃ written,
          MmapWriter.executeWrite u64Size (List.replicate 10 0) ⟨⟨0, 4⟩, [0, 1, 2, 3]⟩
            = .ok written)
        ∧ transfer.tick 0 true none (some (.data 1 ⟨[4, 5, 6, 7, 8, 9]⟩)) = .ok (some tick, after)
        ∧ tick.downloaded = some ⟨⟨4, 10⟩, [4, 5, 6, 7, 8, 9]⟩
        ∧ ∃ runnerId owner,
          transfer.managed.manager.chunkPlanner.getRunnerState runnerId = some owner
          ∧ owner.allocated.start ≤ 4
          ∧ 10 ≤ owner.allocated.stop := by
  have seen
      : (((machine u64Size).restrict (Streams UInt8.ofNat)).execute (.new 10 2)
          cutShortEvents).map
          (fun transfer =>
            (transfer.managed.written, transfer.managed.manager.chunkPlanner.total,
              decide
                (transfer.Enabled (.tick 0 true none (some (.data 1 ⟨[4, 5, 6, 7, 8, 9]⟩)))),
              (transfer.tick 0 true none (some (.data 1 ⟨[4, 5, 6, 7, 8, 9]⟩))).map
                (fun ticked => ticked.1)))
        = some ([⟨⟨0, 4⟩, [0, 1, 2, 3]⟩], 10, true,
            .ok (some (.withChunk ⟨⟨4, 10⟩, [4, 5, 6, 7, 8, 9]⟩))) := rfl
  obtain ⟨transfer, executed, fields⟩ := Option.map_eq_some_iff.mp seen
  simp only [Prod.mk.injEq, decide_eq_true_eq] at fields
  obtain ⟨written, total, enabled, ticks⟩ := fields
  have start : ((machine u64Size).restrict (Streams UInt8.ofNat)).Reachable (.new 10 2) :=
    .initial ⟨10, 2, by decide, rfl⟩
  have streams := start.execute cutShortEvents executed
  obtain ⟨-, writes, content, hands⟩ := written_in_place streams.of_restrict
  have first : (⟨⟨0, 4⟩, [0, 1, 2, 3]⟩ : DownloadedChunk) ∈ transfer.managed.written := by
    simp [written]
  have file : (List.replicate 10 0 : Bytes).length = transfer.managed.manager.chunkPlanner.total :=
    total.symm
  obtain ⟨mapped, executes, -⟩ := (writes _ first).2.2 _ file (by decide)
  cases ticked : transfer.tick 0 true none (some (.data 1 ⟨[4, 5, 6, 7, 8, 9]⟩)) with
  | error panic =>
      rw [ticked] at ticks
      cases ticks
  | ok result =>
      obtain ⟨tick, after⟩ := result
      rw [ticked] at ticks
      cases ticks
      obtain ⟨runnerId, frame, owner, -, state, starts, stops, -⟩ :=
        hands _ _ _ _ _ _ _ enabled ticked rfl
      exact ⟨transfer, _, after, executed, written, content _ streams _ first, ⟨mapped, executes⟩,
        ticked, rfl, runnerId, owner, state, starts, stops⟩

end Transfer

end BoltLoad
