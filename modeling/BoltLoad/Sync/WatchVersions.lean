import BoltLoad.Sync.WatchLock

/-! What the state of the watch channel counts. Its version is that of the latest publication,
and so is the value in the slot, but while a thread is about to put it there.
-/

namespace BoltLoad.Watch

variable {Thread ReceiverId Value : Type}

-----------------------------------------------------------------------------------------
-- The state
-----------------------------------------------------------------------------------------

theorem versionOf_eq (state : Nat)
    : versionOf state = 2 * (state / 2) := by
  unfold versionOf
  omega

@[simp] theorem isClosed_iff {state : Nat}
    : isClosed state = true ↔ state % 2 = 1 := by
  simp only [isClosed, closedBit, beq_iff_eq]

@[simp] theorem versionOf_fetchOrClosed (state : Nat)
    : versionOf (fetchOrClosed state) = versionOf state := by
  simp only [versionOf, fetchOrClosed, closedBit]
  omega

@[simp] theorem isClosed_fetchOrClosed (state : Nat)
    : isClosed (fetchOrClosed state) = true := by
  simp only [isClosed_iff, fetchOrClosed, versionOf, closedBit]
  omega

/-- Below `2 ^ 63` publications the state does not wrap. -/
theorem fetchAddStep_of_lt {state : Nat} (few : state / 2 + 1 < 2 ^ 63)
    : fetchAddStep state = state + 2 := by
  simp only [fetchAddStep, versionStep, u64Size]
  exact Nat.mod_eq_of_lt (by omega)

/-- The version only goes forward, and the close is final. -/
structure Advances (before after : Nat) : Prop where
  version_le : versionOf before ≤ versionOf after
  final : isClosed before = true → versionOf after = versionOf before ∧ isClosed after = true

/-- The phases left to the threads once the sender is dropped. -/
inductive SendPhase.Last : SendPhase Value → Prop
  | idle : Last .idle
  | closing : Last .closing
  | notifying : Last (.notifying none)

namespace Channel

variable {channel : Channel Thread ReceiverId Value}

/-- The state counts the publications and has `CLOSED` set only once the sender is dropped;
the slot has the latest value, or the one before while a thread is to replace it.
-/
structure Sound (channel : Channel Thread ReceiverId Value) : Prop where
  counted : channel.state / 2 = channel.sends
  replacing
    : ∀ thread published,
        channel.sending thread = .replacing published
        → published.version = versionOf channel.state
          ∧ channel.slot.version + versionStep = published.version
  current
    : (∀ thread published, channel.sending thread ≠ .replacing published)
      → channel.slot.version = versionOf channel.state
  dropped : channel.senderAlive = false → ∀ thread, (channel.sending thread).Last
  closing : ∀ thread, channel.sending thread = .closing → channel.senderAlive = false
  closed : isClosed channel.state = true → channel.senderAlive = false

namespace Sound

variable {after : Channel Thread ReceiverId Value}

/-- What happens among the receivers, or to the lock, does not concern the state. -/
theorem same (sound : channel.Sound) (slot : after.slot = channel.slot)
    (state : after.state = channel.state) (sends : after.sends = channel.sends)
    (alive : after.senderAlive = channel.senderAlive)
    (sending : after.sending = channel.sending)
    : after.Sound := by
  constructor
  case counted =>
    rw [state, sends]
    exact sound.counted
  case replacing =>
    rw [state, slot, sending]
    exact sound.replacing
  case current =>
    rw [state, slot, sending]
    exact sound.current
  case dropped =>
    rw [alive, sending]
    exact sound.dropped
  case closing =>
    rw [alive, sending]
    exact sound.closing
  case closed =>
    rw [alive, state]
    exact sound.closed

/-- The slot is at most one publication behind. -/
theorem slot_le (sound : channel.Sound)
    : channel.slot.version ≤ versionOf channel.state := by
  by_cases none : ∀ thread published, channel.sending thread ≠ .replacing published
  · exact (sound.current none).le
  · push Not at none
    obtain ⟨thread, published, replacing⟩ := none
    obtain ⟨version, behind⟩ := sound.replacing thread published replacing
    rw [← version, ← behind]
    exact Nat.le_add_right _ _

/-- A thread inside what the lock guards is the only one to replace the value. -/
theorem replacing_of_inside {party : Party Thread ReceiverId} {other : Thread}
    {published : Stored Value} (guarded : Guards channel.lock channel.Inside)
    (inside : channel.Inside party) (replacing : channel.sending other = .replacing published)
    : party = .thread other := by
  have entered : channel.Inside (.thread other) := by
    rw [Inside, replacing]
    rfl
  exact guarded.alone inside entered

/-- While a receiver has the lock, the slot has the latest value. -/
theorem slot_current (sound : channel.Sound) (guarded : Guards channel.lock channel.Inside)
    {receiver : ReceiverId} (inside : channel.Inside (.receiver receiver))
    : channel.slot.version = versionOf channel.state :=
  sound.current (fun _ _ replacing => by cases replacing_of_inside guarded inside replacing)

/-- A thread publishing or borrowing still has the sender. -/
theorem alive {thread : Thread} (sound : channel.Sound)
    (busy : ¬(channel.sending thread).Last)
    : channel.senderAlive ≠ false :=
  fun gone => busy (sound.dropped gone thread)

section Threads

variable [DecidableEq Thread] {thread : Thread}

/-- A thread goes on that is not to replace the value, and will not be. -/
theorem goesOn {phase : SendPhase Value} (sound : channel.Sound)
    (was : ∀ published, channel.sending thread ≠ .replacing published)
    (will : ∀ published, phase ≠ .replacing published) (opened : phase ≠ .closing)
    (last : channel.senderAlive = false → phase.Last)
    : (channel.sendingAt thread phase).Sound := by
  have same (other : Thread) (published : Stored Value)
      : (channel.sendingAt thread phase).sending other = .replacing published
        ↔ channel.sending other = .replacing published := by
    by_cases here : other = thread
    · rw [here, sendingAt_self]
      exact iff_of_false (will published) (was published)
    · rw [sendingAt_of_ne here]
  constructor
  case counted => exact sound.counted
  case replacing =>
    exact fun other published replacing => sound.replacing other published ((same ..).mp replacing)
  case current =>
    exact fun none => sound.current (fun other published replacing =>
      none other published ((same ..).mpr replacing))
  case dropped =>
    intro gone other
    by_cases here : other = thread
    · rw [here, sendingAt_self]
      exact last gone
    · rw [sendingAt_of_ne here]
      exact sound.dropped gone other
  case closing =>
    intro other closing
    by_cases here : other = thread
    · rw [here, sendingAt_self] at closing
      exact absurd closing opened
    · rw [sendingAt_of_ne here] at closing
      exact sound.closing other closing
  case closed => exact sound.closed

/-- A thread using the sender goes on using it. -/
theorem stays {phase : SendPhase Value} (sound : channel.Sound)
    (was : ∀ published, channel.sending thread ≠ .replacing published)
    (busy : ¬(channel.sending thread).Last) (will : ∀ published, phase ≠ .replacing published)
    (opened : phase ≠ .closing)
    : (channel.sendingAt thread phase).Sound :=
  sound.goesOn was will opened (fun gone => absurd gone (sound.alive busy))

/-- A publication adds `STEP` to the state. -/
theorem bumps {value : Value} (sound : channel.Sound)
    (guarded : Guards channel.lock channel.Inside)
    (bumping : channel.sending thread = .bumping value) (few : channel.sends + 1 < 2 ^ 63)
    : (channel.sendStep thread).Sound := by
  have inside : channel.Inside (.thread thread) := by
    rw [Inside, bumping]
    rfl
  have alive := sound.alive (fun last => by rw [bumping] at last; cases last)
  have alone (other : Thread) (published : Stored Value)
      : channel.sending other ≠ .replacing published := by
    intro replacing
    cases replacing_of_inside guarded inside replacing
    cases bumping.symm.trans replacing
  have counted := sound.counted
  have current := sound.current alone
  have added : fetchAddStep channel.state = channel.state + 2 :=
    fetchAddStep_of_lt (by rw [counted]; exact few)
  have version : versionOf (channel.state + 2) = versionOf channel.state + versionStep := by
    simp only [versionOf, versionStep]
    omega
  unfold sendStep
  rw [bumping, added]
  constructor
  case counted =>
    change (channel.state + 2) / 2 = channel.sends + 1
    omega
  case replacing =>
    intro other published replacing
    by_cases here : other = thread
    · rw [here, sendingAt_self] at replacing
      cases replacing
      exact ⟨rfl, (congrArg (· + versionStep) current).trans version.symm⟩
    · rw [sendingAt_of_ne here] at replacing
      exact absurd replacing (alone other published)
  case current => exact fun none => absurd (sendingAt_self _ thread _) (none thread _)
  case dropped => exact fun gone => absurd gone alive
  case closing =>
    intro other closing
    by_cases here : other = thread
    · rw [here, sendingAt_self] at closing
      cases closing
    · rw [sendingAt_of_ne here] at closing
      exact sound.closing other closing
  case closed =>
    intro closed
    rw [isClosed_iff] at closed
    change (channel.state + 2) % 2 = 1 at closed
    exact sound.closed (isClosed_iff.mpr (by omega))

/-- The thread that added `STEP` puts its value in the slot. -/
theorem replaces {published : Stored Value} (sound : channel.Sound)
    (guarded : Guards channel.lock channel.Inside)
    (replacing : channel.sending thread = .replacing published)
    : (channel.sendStep thread).Sound := by
  have inside : channel.Inside (.thread thread) := by
    rw [Inside, replacing]
    rfl
  have alive := sound.alive (fun last => by rw [replacing] at last; cases last)
  unfold sendStep
  rw [replacing]
  constructor
  case counted => exact sound.counted
  case replacing =>
    intro other value still
    by_cases here : other = thread
    · rw [here, sendingAt_self] at still
      cases still
    · rw [sendingAt_of_ne here] at still
      cases replacing_of_inside guarded inside still
      exact absurd rfl here
  case current => exact fun _ => (sound.replacing thread published replacing).1
  case dropped => exact fun gone => absurd gone alive
  case closing =>
    intro other closing
    by_cases here : other = thread
    · rw [here, sendingAt_self] at closing
      cases closing
    · rw [sendingAt_of_ne here] at closing
      exact sound.closing other closing
  case closed => exact sound.closed

/-- The drop of the sender sets `CLOSED`. -/
theorem closes (sound : channel.Sound) (closing : channel.sending thread = .closing)
    : (channel.sendStep thread).Sound := by
  have moved : (channel.sendingAt thread (.notifying none)).Sound :=
    sound.goesOn (fun _ never => by cases closing.symm.trans never)
      (fun _ never => by cases never) (fun never => by cases never) (fun _ => .notifying)
  have version := versionOf_fetchOrClosed channel.state
  simp only [sendStep, closing]
  constructor
  case counted =>
    have counted := sound.counted
    change fetchOrClosed channel.state / 2 = channel.sends
    simp only [fetchOrClosed, versionOf, closedBit]
    omega
  case replacing => exact fun other published replacing =>
    version.symm ▸ moved.replacing other published replacing
  case current => exact fun none => (moved.current none).trans version.symm
  case dropped => exact moved.dropped
  case closing => exact moved.closing
  case closed => exact fun _ => sound.closing thread closing

/-- Every step of a thread, below `2 ^ 63` publications. -/
theorem sendStep (sound : channel.Sound) (guarded : Guards channel.lock channel.Inside)
    (few : (channel.sendStep thread).sends < 2 ^ 63)
    : (channel.sendStep thread).Sound := by
  cases phase : channel.sending thread with
  | idle =>
      simp only [Channel.sendStep, phase]
      exact sound
  | publishing value =>
      have moved : (channel.sendingAt thread (.bumping value)).Sound :=
        sound.stays (fun _ never => by cases phase.symm.trans never)
          (fun last => by rw [phase] at last; cases last) (fun _ never => by cases never)
          (fun never => by cases never)
      simp only [Channel.sendStep, phase]
      exact moved.same rfl rfl rfl rfl rfl
  | borrowing =>
      have moved : (channel.sendingAt thread .cloning).Sound :=
        sound.stays (fun _ never => by cases phase.symm.trans never)
          (fun last => by rw [phase] at last; cases last) (fun _ never => by cases never)
          (fun never => by cases never)
      simp only [Channel.sendStep, phase]
      exact moved.same rfl rfl rfl rfl rfl
  | bumping value =>
      simp only [Channel.sendStep, phase] at few
      exact sound.bumps guarded phase few
  | replacing published => exact sound.replaces guarded phase
  | cloning =>
      simp only [Channel.sendStep, phase]
      exact sound.stays (fun _ never => by cases phase.symm.trans never)
        (fun last => by rw [phase] at last; cases last) (fun _ never => by cases never)
        (fun never => by cases never)
  | unlocking answer =>
      have moved {after : SendPhase Value} (will : ∀ published, after ≠ .replacing published)
          (opened : after ≠ .closing)
          : (channel.sendingAt thread after).Sound :=
        sound.stays (fun _ never => by cases phase.symm.trans never)
          (fun last => by rw [phase] at last; cases last) will opened
      cases answer with
      | replaced previous published =>
          have notifies
              : (channel.sendingAt thread
                  (.notifying (some (.replaced previous published)))).Sound :=
            moved (fun _ never => by cases never) (fun never => by cases never)
          simp only [Channel.sendStep, phase]
          exact notifies.same rfl rfl rfl rfl rfl
      | borrowed current =>
          have returns : (channel.sendingAt thread .idle).Sound :=
            moved (fun _ never => by cases never) (fun never => by cases never)
          simp only [Channel.sendStep, phase]
          exact returns.same rfl rfl rfl rfl rfl
  | closing => exact sound.closes phase
  | notifying answer =>
      have moved : (channel.sendingAt thread .idle).Sound :=
        sound.goesOn (fun _ never => by cases phase.symm.trans never)
          (fun _ never => by cases never) (fun never => by cases never) (fun _ => .idle)
      simp only [Channel.sendStep, phase]
      exact moved.same rfl rfl rfl rfl rfl

/-- The sender is dropped once no thread uses it. -/
theorem drops (sound : channel.Sound) (quiet : channel.Quiet)
    : Sound { channel.sendingAt thread .closing with senderAlive := false } := by
  have same (other : Thread) (published : Stored Value)
      : (channel.sendingAt thread .closing).sending other ≠ .replacing published := by
    intro replacing
    by_cases here : other = thread
    · rw [here, sendingAt_self] at replacing
      cases replacing
    · rw [sendingAt_of_ne here, quiet other] at replacing
      cases replacing
  constructor
  case counted => exact sound.counted
  case replacing => exact fun other published never => absurd never (same other published)
  case current =>
    exact fun _ => sound.current (fun other _ never => by cases (quiet other).symm.trans never)
  case dropped =>
    intro _ other
    change ((channel.sendingAt thread .closing).sending other).Last
    by_cases here : other = thread
    · rw [here, sendingAt_self]
      exact .closing
    · rw [sendingAt_of_ne here, quiet other]
      exact .idle
  case closing => exact fun _ _ => rfl
  case closed => exact fun _ => rfl

end Threads

variable [DecidableEq ReceiverId]

theorem begins (initial : Value) (receiver : ReceiverId)
    : Sound (Channel.channel initial receiver : Channel Thread ReceiverId Value) where
  counted := Nat.zero_div 2
  replacing := fun _ _ never => by cases never
  current := fun _ => rfl
  dropped := fun never => by cases never
  closing := fun _ never => by cases never
  closed := fun never => by cases never

variable [DecidableEq Thread]

/-- Every event, below `2 ^ 63` publications. -/
theorem next {event : Event Thread ReceiverId Value} (sound : channel.Sound)
    (guarded : Guards channel.lock channel.Inside) (few : after.sends < 2 ^ 63)
    (step : (machine Thread ReceiverId Value).Step channel event after)
    : after.Sound := by
  have enabled := step.enabled
  cases step.next
  have begins {thread : Thread} {phase : SendPhase Value} (alive : channel.senderAlive = true)
      (idle : channel.sending thread = .idle) (will : ∀ published, phase ≠ .replacing published)
      (opened : phase ≠ .closing)
      : (channel.sendingAt thread phase).Sound :=
    sound.goesOn (fun _ never => by cases idle.symm.trans never) will opened
      (fun gone => by cases alive.symm.trans gone)
  cases event with
  | sendReplace thread value =>
      exact begins enabled.1 enabled.2 (fun _ never => by cases never)
        (fun never => by cases never)
  | senderBorrow thread =>
      exact begins enabled.1 enabled.2 (fun _ never => by cases never)
        (fun never => by cases never)
  | dropSender thread => exact sound.drops enabled.2
  | sendStep thread => exact sound.sendStep guarded few
  | receiveStep receiver accepts =>
      obtain ⟨known, present, _⟩ := enabled
      simp only [Channel.next, receiveStep, Option.mem_def.mp present]
      exact sound.same rfl rfl rfl rfl rfl
  | subscribe receiver => exact sound.same rfl rfl rfl rfl rfl
  | call receiver call => exact sound.same rfl rfl rfl rfl rfl
  | clone source target => exact sound.same rfl rfl rfl rfl rfl
  | cancel receiver => exact sound.same rfl rfl rfl rfl rfl
  | dropReceiver receiver => exact sound.same rfl rfl rfl rfl rfl
  | passOn receiver => exact sound.same rfl rfl rfl rfl rfl

end Sound

/-- What a thread's step does to the state: a publication counts it up, and the drop of the
sender closes it.
-/
theorem state_sendStep [DecidableEq Thread] (channel : Channel Thread ReceiverId Value)
    (thread : Thread)
    : (channel.sendStep thread).state = channel.state
        ∧ (channel.sendStep thread).sends = channel.sends
      ∨ (∃ value, channel.sending thread = .bumping value)
        ∧ (channel.sendStep thread).state = fetchAddStep channel.state
        ∧ (channel.sendStep thread).sends = channel.sends + 1
      ∨ channel.sending thread = .closing
        ∧ (channel.sendStep thread).state = fetchOrClosed channel.state
        ∧ (channel.sendStep thread).sends = channel.sends := by
  unfold sendStep
  cases phase : channel.sending thread with
  | bumping value => exact .inr (.inl ⟨⟨value, rfl⟩, rfl, rfl⟩)
  | closing => exact .inr (.inr ⟨rfl, rfl, rfl⟩)
  | unlocking answer =>
      cases answer with
      | replaced previous published => exact .inl ⟨rfl, rfl⟩
      | borrowed current => exact .inl ⟨rfl, rfl⟩
  | idle => exact .inl ⟨rfl, rfl⟩
  | publishing value => exact .inl ⟨rfl, rfl⟩
  | borrowing => exact .inl ⟨rfl, rfl⟩
  | replacing published => exact .inl ⟨rfl, rfl⟩
  | cloning => exact .inl ⟨rfl, rfl⟩
  | notifying answer => exact .inl ⟨rfl, rfl⟩

/-- A receiver's step leaves the state alone. -/
theorem state_receiveStep [DecidableEq ReceiverId] {receiver : ReceiverId} {accepts : Bool}
    : (channel.receiveStep receiver accepts).state = channel.state
      ∧ (channel.receiveStep receiver accepts).sends = channel.sends := by
  unfold receiveStep
  split
  · exact ⟨rfl, rfl⟩
  · exact ⟨rfl, rfl⟩

section Events

variable [DecidableEq Thread] [DecidableEq ReceiverId] {after : Channel Thread ReceiverId Value}
  {event : Event Thread ReceiverId Value}

/-- What an event does to the state is what a thread's step does to it. -/
theorem state_next (step : (machine Thread ReceiverId Value).Step channel event after)
    : after.state = channel.state ∧ after.sends = channel.sends
      ∨ (∃ thread value, channel.sending thread = .bumping value)
        ∧ after.state = fetchAddStep channel.state
        ∧ after.sends = channel.sends + 1
      ∨ (∃ thread, channel.sending thread = .closing)
        ∧ after.state = fetchOrClosed channel.state
        ∧ after.sends = channel.sends := by
  cases step.next
  cases event with
  | sendStep thread =>
      rcases channel.state_sendStep thread with same | ⟨bumping, added⟩ | ⟨closing, closed⟩
      · exact .inl same
      · exact .inr (.inl ⟨⟨thread, bumping⟩, added⟩)
      · exact .inr (.inr ⟨⟨thread, closing⟩, closed⟩)
  | receiveStep receiver accepts => exact .inl state_receiveStep
  | sendReplace thread value => exact .inl ⟨rfl, rfl⟩
  | senderBorrow thread => exact .inl ⟨rfl, rfl⟩
  | subscribe receiver => exact .inl ⟨rfl, rfl⟩
  | dropSender thread => exact .inl ⟨rfl, rfl⟩
  | call receiver call => exact .inl ⟨rfl, rfl⟩
  | clone source target => exact .inl ⟨rfl, rfl⟩
  | cancel receiver => exact .inl ⟨rfl, rfl⟩
  | dropReceiver receiver => exact .inl ⟨rfl, rfl⟩
  | passOn receiver => exact .inl ⟨rfl, rfl⟩

/-- Publications are only ever added. -/
theorem sends_le (step : (machine Thread ReceiverId Value).Step channel event after)
    : channel.sends ≤ after.sends := by
  rcases state_next step with ⟨_, same⟩ | ⟨_, _, more⟩ | ⟨_, _, same⟩
  · exact same.ge
  · exact more ▸ Nat.le_succ _
  · exact same.ge

/-- Every event, below `2 ^ 63` publications. -/
theorem Sound.advances (sound : channel.Sound) (few : after.sends < 2 ^ 63)
    (step : (machine Thread ReceiverId Value).Step channel event after)
    : Advances channel.state after.state := by
  rcases state_next step with ⟨same, _⟩ | ⟨⟨thread, value, bumping⟩, added, more⟩ | ⟨_, closed, _⟩
  · exact ⟨by rw [same], fun closed => ⟨by rw [same], by rwa [same]⟩⟩
  · have counted := sound.counted
    have alive := sound.alive (fun last => by rw [bumping] at last; cases last)
    rw [added, fetchAddStep_of_lt (by omega)]
    refine ⟨?_, fun closed => absurd (sound.closed closed) alive⟩
    simp only [versionOf]
    omega
  · rw [closed]
    exact ⟨(versionOf_fetchOrClosed _).ge, fun _ => ⟨versionOf_fetchOrClosed _,
      isClosed_fetchOrClosed _⟩⟩

/-- While a receiver has the lock the version stays. -/
theorem version_of_inside (guarded : Guards channel.lock channel.Inside)
    {receiver : ReceiverId} (inside : channel.Inside (.receiver receiver))
    (step : (machine Thread ReceiverId Value).Step channel event after)
    : versionOf after.state = versionOf channel.state := by
  rcases state_next step with ⟨same, _⟩ | ⟨⟨thread, value, bumping⟩, _⟩ | ⟨_, closed, _⟩
  · rw [same]
  · have other : channel.Inside (.thread thread) := by
      rw [Inside, bumping]
      rfl
    cases guarded.alone inside other
  · rw [closed, versionOf_fetchOrClosed]

/-- In every state reached with fewer than `2 ^ 63` publications, by induction on the run. -/
theorem sound_reachable (reached : (machine Thread ReceiverId Value).Reachable channel)
    (few : channel.sends < 2 ^ 63)
    : channel.Sound := by
  induction reached with
  | initial start =>
      obtain ⟨initial, receiver, rfl⟩ := start
      exact Sound.begins initial receiver
  | step reached step ih =>
      exact (ih ((sends_le step).trans_lt few)).next (guards_reachable reached) few step

end Events

end Channel

end BoltLoad.Watch
