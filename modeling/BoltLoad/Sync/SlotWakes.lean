import BoltLoad.Sync.SlotRuns
import BoltLoad.Sync.SlotValues

/-! No wakeup of the slot channel is lost: a registered waker was called, is held by a thread
that will call it, or waits in the slot; and once there is something to tell the receiver,
it waits there only for a `wake` still to come.
-/

namespace BoltLoad

variable {Thread Waker : Type}

/-- The waker passed to the poll that calls `try_recv`. -/
def Attempt.passed : Attempt Waker → Option (PassedWaker Waker)
  | .alone => none
  | .first passed => some passed
  | .last passed _ => some passed

/-- The waker passed to the poll under way. -/
def ReceivePhase.passed : ReceivePhase Waker → Option (PassedWaker Waker)
  | .idle => none
  | .looking attempt => attempt.passed
  | .swapping attempt => attempt.passed
  | .claiming passed => some passed
  | .storing passed => some passed
  | .finishing passed => some passed
  | .takingBack passed => some passed
  | .resetting passed _ => some passed
  | .waking passed _ => some passed
  | .readingClosed passed => some passed

namespace ReceivePhase

variable {receiving : ReceivePhase Waker} {attempt : Attempt Waker}
  {passed : PassedWaker Waker} {closed : Bool}

theorem passed_of_attempt (under : receiving.attempt = some (.last passed closed))
    : receiving.passed = some passed := by
  cases receiving <;> cases under <;> rfl

/-- No `register` owns the slot while `try_recv` is called. -/
theorem Holds.of_attempt {slot : AtomicWaker Waker} (holds : receiving.Holds slot)
    (under : receiving.attempt = some attempt)
    : slot.state.registering = false := by
  cases receiving <;> cases under <;> exact holds

end ReceivePhase

namespace SlotRun

/-- A passed waker was called since, or a thread took it to call it. -/
def Called (run : SlotRun Thread Waker) (passed : PassedWaker Waker) : Prop :=
  run.WokenSince passed ∨ ∃ thread, (run.sending thread).Carries passed.waker

/-- A passed waker was called since, or the next `wake` calls it. -/
def Registered (run : SlotRun Thread Waker) (passed : PassedWaker Waker) : Prop :=
  run.Called passed ∨ run.waker.waker = some passed.waker

/-- A passed waker was called since, or a `wake` under way calls it. -/
def Announced (run : SlotRun Thread Waker) (passed : PassedWaker Waker) : Prop :=
  run.Called passed
    ∨ run.waker.waker = some passed.waker ∧ ∃ thread, (run.sending thread).Seeks

/-- There is something to tell the receiver: a value, or the end. -/
def News (run : SlotRun Thread Waker) : Prop := run.value ≠ slotEmpty ∨ run.closed = true

/-- What a poll past its registration may rely on: its waker is registered, and if it read
the closed flag unset, a close since is announced.
-/
def Polled (run : SlotRun Thread Waker) : ReceivePhase Waker → Prop
  | .readingClosed passed => run.Registered passed
  | .looking (.last passed closed) =>
      run.Registered passed ∧ (closed = false → run.closed = true → run.Announced passed)
  | .swapping (.last passed closed) =>
      run.Registered passed ∧ (closed = false → run.closed = true → run.Announced passed)
  | _ => True

/-- A poll that has not registered its waker yet, or no poll at all. -/
inductive Unregistered : ReceivePhase Waker → Prop
  | idle : Unregistered .idle
  | looking {attempt} (early : ∀ passed closed, attempt ≠ .last passed closed)
    : Unregistered (.looking attempt)
  | swapping {attempt} (early : ∀ passed closed, attempt ≠ .last passed closed)
    : Unregistered (.swapping attempt)
  | claiming {passed} : Unregistered (.claiming passed)

/-- No wakeup is lost: the receiver that waits is registered, and there is nothing to tell
it that is not announced; so is a poll past its registration.
-/
structure Waits (run : SlotRun Thread Waker) : Prop where
  bounded
    : ∀ passed,
        run.receiving.passed = some passed ∨ run.waiting = some passed
        → passed.since ≤ run.wakes.length
  unregistered : ∀ passed, run.waiting = some passed → Unregistered run.receiving
  polled : run.Polled run.receiving
  registered : ∀ passed, run.waiting = some passed → run.Registered passed
  announced : ∀ passed, run.waiting = some passed → run.News → run.Announced passed

theorem Waits.channel : Waits (channel : SlotRun Thread Waker) where
  bounded := fun _ never => by rcases never with never | never <;> cases never
  unregistered := fun _ never => by cases never
  polled := trivial
  registered := fun _ never => by cases never
  announced := fun _ never => by cases never

variable {run after : SlotRun Thread Waker} {passed : PassedWaker Waker}

/-- Waking a waker passed earlier. -/
theorem wokenSince_append (bounded : passed.since ≤ run.wakes.length)
    : passed.waker ∈ (run.wakes ++ [passed.waker]).drop passed.since := by
  rw [List.drop_append_of_le_length bounded]
  exact List.mem_append_right _ (List.mem_singleton.mpr rfl)

/-- While no `register` owns the slot, a poll that waits or read the closed flag is not in
the way of a `wake`.
-/
theorem Unregistered.free {receiving : ReceivePhase Waker} {slot : AtomicWaker Waker}
    (unregistered : Unregistered receiving) (holds : receiving.Holds slot)
    : slot.state.registering = false := by
  cases unregistered <;> exact holds

/-- A poll past its registration goes on while its waker stays registered and a close stays
announced.
-/
theorem Polled.mono {receiving : ReceivePhase Waker} (polled : run.Polled receiving)
    (registered
      : ∀ passed,
          receiving.passed = some passed → run.Registered passed → after.Registered passed)
    (announced
      : ∀ passed,
          receiving.attempt = some (.last passed false)
          → run.Registered passed
          → (run.closed = true → run.Announced passed)
          → after.closed = true
          → after.Announced passed)
    : after.Polled receiving := by
  cases receiving with
  | readingClosed passed => exact registered passed rfl polled
  | looking attempt =>
      cases attempt with
      | last passed closed =>
          refine ⟨registered passed rfl polled.1, fun unset => ?_⟩
          subst unset
          exact announced passed rfl polled.1 (polled.2 rfl)
      | alone => trivial
      | first passed => trivial
  | swapping attempt =>
      cases attempt with
      | last passed closed =>
          refine ⟨registered passed rfl polled.1, fun unset => ?_⟩
          subst unset
          exact announced passed rfl polled.1 (polled.2 rfl)
      | alone => trivial
      | first passed => trivial
  | idle => trivial
  | claiming passed => trivial
  | storing passed => trivial
  | finishing passed => trivial
  | takingBack passed => trivial
  | resetting passed taken => trivial
  | waking passed waker => trivial

-----------------------------------------------------------------------------------------
-- The sender's steps
-----------------------------------------------------------------------------------------

section Sender

variable [DecidableEq Thread]

/-- A sending thread's step concerns that thread alone. -/
theorem sendStep_sending_of_ne {thread other : Thread} (apart : other ≠ thread)
    : (run.sendStep thread).sending other = run.sending other := by
  unfold SlotRun.sendStep
  cases run.sending thread with
  | idle => rfl
  | releasing taken => cases taken <;> exact sendingAt_of_ne apart
  | storing value => exact sendingAt_of_ne apart
  | closing => exact sendingAt_of_ne apart
  | fetching => exact sendingAt_of_ne apart
  | taking => exact sendingAt_of_ne apart
  | waking waker => exact sendingAt_of_ne apart

/-- A sending thread's step forgets no wake. -/
theorem sendStep_wakes (run : SlotRun Thread Waker) (thread : Thread)
    : ∃ more, (run.sendStep thread).wakes = run.wakes ++ more := by
  unfold SlotRun.sendStep
  cases run.sending thread with
  | releasing taken => cases taken <;> exact ⟨[], (List.append_nil _).symm⟩
  | waking waker => exact ⟨[waker], rfl⟩
  | idle => exact ⟨[], (List.append_nil _).symm⟩
  | storing value => exact ⟨[], (List.append_nil _).symm⟩
  | closing => exact ⟨[], (List.append_nil _).symm⟩
  | fetching => exact ⟨[], (List.append_nil _).symm⟩
  | taking => exact ⟨[], (List.append_nil _).symm⟩

/-- A waker once called stays called, and the thread that took it goes on to call it. -/
theorem Called.sendStep (called : run.Called passed) (thread : Thread)
    (bounded : passed.since ≤ run.wakes.length)
    : (run.sendStep thread).Called passed := by
  rcases called with woken | ⟨other, carries⟩
  · obtain ⟨more, wakes⟩ := sendStep_wakes run thread
    refine .inl ?_
    rw [WokenSince, wakes, List.drop_append]
    exact List.mem_append_left _ woken
  by_cases same : other = thread
  · subst other
    generalize phase : run.sending thread = was at carries
    cases carries with
    | releasing =>
        refine .inr ⟨thread, ?_⟩
        simp only [SlotRun.sendStep, phase, sendingAt_self]
        exact .waking
    | waking =>
        refine .inl ?_
        simp only [SlotRun.sendStep, phase]
        exact wokenSince_append bounded
  · exact .inr ⟨other, by rwa [sendStep_sending_of_ne same]⟩

/-- The slot keeps a registered waker, or the thread that takes it calls it. -/
theorem Registered.sendStep (registered : run.Registered passed) (thread : Thread)
    (bounded : passed.since ≤ run.wakes.length)
    : (run.sendStep thread).Registered passed := by
  rcases registered with called | stored
  · exact .inl (called.sendStep thread bounded)
  unfold SlotRun.sendStep
  cases phase : run.sending thread with
  | taking =>
      refine .inl (.inr ⟨thread, ?_⟩)
      rw [sendingAt_self, stored]
      exact .releasing
  | releasing taken => cases taken <;> exact .inr stored
  | idle => exact .inr stored
  | storing value => exact .inr stored
  | closing => exact .inr stored
  | fetching => exact .inr stored
  | waking waker => exact .inr stored

/-- An announced waker stays announced: a `wake` that finds the slot taken leaves it to its
owner, which has not looked into it yet.
-/
theorem Announced.sendStep (announced : run.Announced passed) (thread : Thread)
    (bounded : passed.since ≤ run.wakes.length) (owned : run.WakerOwned)
    (free : run.waker.state.registering = false)
    : (run.sendStep thread).Announced passed := by
  rcases announced with called | ⟨stored, seeker, seeks⟩
  · exact .inl (called.sendStep thread bounded)
  by_cases same : seeker = thread
  · subst seeker
    generalize phase : run.sending thread = was at seeks
    cases seeks with
    | taking =>
        refine .inl (.inr ⟨thread, ?_⟩)
        simp only [SlotRun.sendStep, phase, sendingAt_self, stored]
        exact .releasing
    | fetching =>
        simp only [SlotRun.sendStep, phase]
        rcases WakerState.of_unregistered free with waiting | taken
        · refine .inr ⟨stored, thread, ?_⟩
          rw [sendingAt_self, if_pos waiting]
          exact .taking
        · obtain ⟨owner, owns⟩ := owned.owner taken
          have apart : owner ≠ thread := by
            intro same
            rw [same, phase] at owns
            cases owns
          refine .inr ⟨stored, owner, ?_⟩
          rw [sendingAt_of_ne apart]
          generalize held : run.sending owner = was at owns
          cases owns with
          | taking => exact .taking
          | releasing => cases (owned.emptied owner _ held).symm.trans stored
  · have keeps : run.sending thread = .taking
        ∨ (run.sendStep thread).waker.waker = run.waker.waker := by
      unfold SlotRun.sendStep
      cases phase : run.sending thread with
      | taking => exact .inl rfl
      | releasing taken => cases taken <;> exact .inr rfl
      | idle => exact .inr rfl
      | storing value => exact .inr rfl
      | closing => exact .inr rfl
      | fetching => exact .inr rfl
      | waking waker => exact .inr rfl
    rcases keeps with taking | kept
    · refine .inl (.inr ⟨thread, ?_⟩)
      simp only [SlotRun.sendStep, taking, sendingAt_self, stored]
      exact .releasing
    · refine .inr ⟨kept.trans stored, seeker, ?_⟩
      rwa [sendStep_sending_of_ne same]

/-- Storing a value or the closed flag announces it. -/
theorem Registered.announced {thread : Thread} (registered : run.Registered passed)
    (bounded : passed.since ≤ run.wakes.length)
    (fetching : (run.sendStep thread).sending thread = .fetching)
    : (run.sendStep thread).Announced passed := by
  rcases registered.sendStep thread bounded with called | stored
  · exact .inl called
  · exact .inr ⟨stored, thread, fetching ▸ .fetching⟩

/-- What a sending thread's step has to tell was told before, or is announced. -/
theorem sendStep_news (run : SlotRun Thread Waker) (thread : Thread)
    : ((run.sendStep thread).value = run.value ∧ (run.sendStep thread).closed = run.closed)
      ∨ (run.sendStep thread).sending thread = .fetching := by
  unfold SlotRun.sendStep
  cases phase : run.sending thread with
  | storing value => exact .inr (sendingAt_self ..)
  | closing => exact .inr (sendingAt_self ..)
  | releasing taken => cases taken <;> exact .inl ⟨rfl, rfl⟩
  | idle => exact .inl ⟨rfl, rfl⟩
  | fetching => exact .inl ⟨rfl, rfl⟩
  | taking => exact .inl ⟨rfl, rfl⟩
  | waking waker => exact .inl ⟨rfl, rfl⟩

theorem sendStep_receiving (run : SlotRun Thread Waker) (thread : Thread)
    : (run.sendStep thread).receiving = run.receiving
      ∧ (run.sendStep thread).waiting = run.waiting := by
  unfold SlotRun.sendStep
  cases phase : run.sending thread with
  | releasing taken => cases taken <;> exact ⟨rfl, rfl⟩
  | idle => exact ⟨rfl, rfl⟩
  | storing value => exact ⟨rfl, rfl⟩
  | closing => exact ⟨rfl, rfl⟩
  | fetching => exact ⟨rfl, rfl⟩
  | taking => exact ⟨rfl, rfl⟩
  | waking waker => exact ⟨rfl, rfl⟩

/-- A thread that was at rest begins a call. -/
theorem Waits.begins (waits : run.Waits) {thread : Thread} (idle : run.sending thread = .idle)
    (phase : SendPhase Waker) (senderAlive : Bool)
    : Waits { run.sendingAt thread phase with senderAlive } := by
  have others {other : Thread} (busy : run.sending other ≠ .idle)
      : (run.sendingAt thread phase).sending other = run.sending other :=
    sendingAt_of_ne (fun same => busy (same ▸ idle))
  have called {passed : PassedWaker Waker} (called : run.Called passed)
      : Called { run.sendingAt thread phase with senderAlive } passed := by
    rcases called with woken | ⟨other, carries⟩
    · exact .inl woken
    · have busy : run.sending other ≠ .idle := fun rest => by rw [rest] at carries; cases carries
      exact .inr ⟨other, (others busy).symm ▸ carries⟩
  have registered {passed : PassedWaker Waker} (registered : run.Registered passed)
      : Registered { run.sendingAt thread phase with senderAlive } passed :=
    registered.imp called id
  have announced {passed : PassedWaker Waker} (announced : run.Announced passed)
      : Announced { run.sendingAt thread phase with senderAlive } passed := by
    rcases announced with before | ⟨stored, other, seeks⟩
    · exact .inl (called before)
    · have busy : run.sending other ≠ .idle := fun rest => by rw [rest] at seeks; cases seeks
      exact .inr ⟨stored, other, (others busy).symm ▸ seeks⟩
  exact {
    bounded := waits.bounded
    unregistered := waits.unregistered
    polled :=
      waits.polled.mono (fun _ _ before => registered before)
        (fun _ _ _ before closed => announced (before closed))
    registered := fun passed waiting => registered (waits.registered passed waiting)
    announced := fun passed waiting news => announced (waits.announced passed waiting news)
  }

/-- A sending thread's steps lose no wakeup. -/
theorem Waits.sendStep (waits : run.Waits) (thread : Thread) (owned : run.WakerOwned)
    : (run.sendStep thread).Waits := by
  obtain ⟨receiving, waiting⟩ := sendStep_receiving run thread
  have bounded (passed : PassedWaker Waker)
      (known : run.receiving.passed = some passed ∨ run.waiting = some passed)
      : passed.since ≤ run.wakes.length := waits.bounded passed known
  have closes {passed : PassedWaker Waker} (short : passed.since ≤ run.wakes.length)
      (free : run.waker.state.registering = false) (registered : run.Registered passed)
      (announced : run.closed = true → run.Announced passed)
      (closed : (run.sendStep thread).closed = true)
      : (run.sendStep thread).Announced passed := by
    rcases sendStep_news run thread with ⟨_, same⟩ | fetching
    · exact (announced (same ▸ closed)).sendStep thread short owned free
    · exact registered.announced short fetching
  constructor
  case bounded =>
    intro passed known
    obtain ⟨more, wakes⟩ := sendStep_wakes run thread
    rw [receiving, waiting] at known
    rw [wakes, List.length_append]
    exact (bounded passed known).trans (Nat.le_add_right _ _)
  case unregistered =>
    intro passed waits'
    rw [receiving]
    exact waits.unregistered passed (waiting ▸ waits')
  case polled =>
    rw [receiving]
    refine waits.polled.mono (fun passed known registered => ?_)
      (fun passed late registered announced closed => ?_)
    · exact registered.sendStep thread (bounded passed (.inl known))
    · have short := bounded passed (.inl (ReceivePhase.passed_of_attempt late))
      exact closes short (owned.holds.of_attempt late) registered announced closed
  case registered =>
    intro passed waits'
    rw [waiting] at waits'
    exact (waits.registered passed waits').sendStep thread (bounded passed (.inr waits'))
  case announced =>
    intro passed waits' news
    rw [waiting] at waits'
    have short := bounded passed (.inr waits')
    have free := (waits.unregistered passed waits').free owned.holds
    rcases sendStep_news run thread with ⟨sameValue, sameClosed⟩ | fetching
    · rw [News, sameValue, sameClosed] at news
      exact (waits.announced passed waits' news).sendStep thread short owned free
    · exact (waits.registered passed waits').announced short fetching

end Sender

-----------------------------------------------------------------------------------------
-- The receiver's steps
-----------------------------------------------------------------------------------------

/-- The receiver goes on with a poll: nobody waits, or it has not registered its waker. -/
theorem Waits.receives (waits : run.Waits) {slot : AtomicWaker Waker}
    {receiving : ReceivePhase Waker}
    (known : receiving.passed = run.receiving.passed)
    (slotKept : slot.waker = run.waker.waker ∨ run.waiting = none)
    (unregistered : run.waiting = none ∨ Unregistered receiving)
    (polled : ({ run with waker := slot, receiving } : SlotRun Thread Waker).Polled receiving)
    : Waits { run with waker := slot, receiving } where
  bounded := fun passed among => waits.bounded passed (known ▸ among)
  unregistered := by
    intro passed waiting
    exact unregistered.resolve_left (fun never => by cases never.symm.trans waiting)
  polled := polled
  registered := by
    intro passed waiting
    have kept := slotKept.resolve_right (fun never => by cases never.symm.trans waiting)
    rcases waits.registered passed waiting with called | stored
    · exact .inl called
    · exact .inr (kept.trans stored)
  announced := by
    intro passed waiting news
    have kept := slotKept.resolve_right (fun never => by cases never.symm.trans waiting)
    rcases waits.announced passed waiting news with called | ⟨stored, seeker⟩
    · exact .inl called
    · exact .inr ⟨kept.trans stored, seeker⟩

/-- A registration that begins: the poll that waited is over. -/
theorem Waits.forgets (waits : run.Waits)
    : Waits { run with waiting := none } where
  bounded := by
    intro passed known
    rcases known with polling | never
    · exact waits.bounded passed (.inl polling)
    · cases never
  unregistered := fun _ never => by cases never
  polled := waits.polled
  registered := fun _ never => by cases never
  announced := fun _ never => by cases never

/-- A call of the receiver returns, perhaps with the value of the slot. -/
theorem Waits.answers (waits : run.Waits) {value : Nat}
    (emptied : value = slotEmpty ∨ value = run.value) (returned : Answer)
    : Waits ({ run with value }.answer returned) where
  bounded := by
    intro passed known
    rcases known with never | waiting
    · cases never
    · exact waits.bounded passed (.inr waiting)
  unregistered := fun _ _ => .idle
  polled := trivial
  registered := waits.registered
  announced := by
    intro passed waiting news
    refine waits.announced passed waiting ?_
    rcases news with filled | closed
    · rcases emptied with empty | same
      · exact absurd empty filled
      · exact .inl (same ▸ filled)
    · exact .inr closed

/-- A poll returns `Pending`: its waker is registered, and a close it did not see is
announced.
-/
theorem waits_pending (short : passed.since ≤ run.wakes.length) (empty : run.value = slotEmpty)
    (registered : run.Registered passed)
    (announced : run.closed = true → run.Announced passed)
    : Waits { run.answer .pending with waiting := some passed } where
  bounded := by
    intro other known
    rcases known with never | same
    · cases never
    · cases same
      exact short
  unregistered := fun _ _ => .idle
  polled := trivial
  registered := by
    intro other same
    cases same
    exact registered
  announced := by
    intro other same news
    cases same
    rcases news with filled | closed
    · exact absurd empty filled
    · exact announced closed

/-- `try_recv` returns: to a poll that registers its waker next, or to one that ends. -/
theorem Waits.attempted (waits : run.Waits) {attempt : Attempt Waker}
    (phase : run.receiving = .looking attempt ∨ run.receiving = .swapping attempt)
    (got : Option Nat) (unread : got = none → run.value = slotEmpty)
    : Waits ({ run with value := slotEmpty }.attempted attempt got) := by
  have passes : run.receiving.passed = attempt.passed := by
    rcases phase with phase | phase <;> rw [phase] <;> rfl
  match attempt, got with
  | .alone, _ => exact waits.answers (.inl rfl) _
  | .first _, some _ => exact waits.answers (.inl rfl) _
  | .last _ _, some _ => exact waits.answers (.inl rfl) _
  | .last _ true, none => exact waits.answers (.inl rfl) _
  | .first passed, none =>
      have same : ({ run with value := slotEmpty } : SlotRun Thread Waker) = run := by
        rw [← unread rfl]
      rw [same]
      exact waits.receives passes.symm (.inl rfl) (.inr .claiming) trivial
  | .last passed false, none =>
      have same : ({ run with value := slotEmpty } : SlotRun Thread Waker) = run := by
        rw [← unread rfl]
      rw [same]
      have polled := waits.polled
      rcases phase with phase | phase <;> rw [phase] at polled
      · exact waits_pending (waits.bounded passed (.inl passes)) (unread rfl) polled.1
          (polled.2 rfl)
      · exact waits_pending (waits.bounded passed (.inl passes)) (unread rfl) polled.1
          (polled.2 rfl)

/-- A poll that registers its waker, or did so, is the only one. -/
theorem Waits.alone (waits : run.Waits) (late : ¬Unregistered run.receiving)
    : run.waiting = none := by
  cases waiting : run.waiting with
  | none => rfl
  | some passed => exact absurd (waits.unregistered passed waiting) late

/-- `register` calls a waker itself: that of its own poll. -/
theorem Waits.wakes (waits : run.Waits) {waker : Waker}
    (phase : run.receiving = .waking passed waker) (same : waker = passed.waker)
    : Waits { run with wakes := run.wakes ++ [waker], receiving := .readingClosed passed } := by
  have alone := waits.alone (fun never => by rw [phase] at never; cases never)
  have short := waits.bounded passed (.inl (by rw [phase]; rfl))
  constructor
  case bounded =>
    intro other known
    rw [List.length_append]
    rcases known with polling | waiting
    · cases polling
      exact short.trans (Nat.le_add_right _ _)
    · cases alone.symm.trans waiting
  case unregistered => exact fun _ waiting => by cases alone.symm.trans waiting
  case polled =>
    subst same
    exact .inl (.inl (wokenSince_append short))
  case registered => exact fun _ waiting => by cases alone.symm.trans waiting
  case announced => exact fun _ waiting => by cases alone.symm.trans waiting

/-- The receiver's steps lose no wakeup. -/
theorem Waits.receiveStep (waits : run.Waits) (owned : run.WakerOwned)
    (done : run.receiveStep = .ok after)
    : after.Waits := by
  have holds := owned.holds
  have polled := waits.polled
  have alone := waits.alone
  unfold SlotRun.receiveStep at done
  cases phase : run.receiving with
  | idle =>
      rw [phase] at done
      cases done
      exact waits
  | looking attempt =>
      have looks
          : after = (if run.value = slotEmpty then run.attempted attempt none
              else { run with receiving := .swapping attempt }) := by
        rw [phase] at done
        dsimp only at done
        split at done <;> rename_i found <;> cases done
        · rw [if_pos found]
        · rw [if_neg found]
      subst looks
      split
      · rename_i empty
        have same : ({ run with value := slotEmpty } : SlotRun Thread Waker) = run := by
          rw [← empty]
        have attempted := waits.attempted (.inl phase) none (fun _ => empty)
        rwa [same] at attempted
      · rw [phase] at polled
        have unregistered : run.waiting = none ∨ Unregistered (.swapping attempt) := by
          cases waiting : run.waiting with
          | none => exact .inl rfl
          | some passed =>
              have early := waits.unregistered passed waiting
              rw [phase] at early
              cases early with
              | looking early => exact .inr (.swapping early)
        refine waits.receives (by rw [phase]; rfl) (.inl rfl) unregistered ?_
        cases attempt <;> exact polled
  | swapping attempt =>
      have swaps : after = { run with value := slotEmpty }.attempted attempt run.unread := by
        rw [phase] at done
        cases done
        rw [← phase]
      subst swaps
      exact waits.attempted (.inr phase) run.unread unread_eq_none.mp
  | claiming passed =>
      rw [phase] at done
      dsimp only at done
      split at done
      · cases done
        exact waits.forgets.receives (by rw [phase]; rfl) (.inr rfl) (.inl rfl) trivial
      · split at done
        · cases done
          exact waits.forgets.receives (by rw [phase]; rfl) (.inr rfl) (.inl rfl) trivial
        · cases done
  | storing passed =>
      rw [phase] at done alone
      cases done
      have alone := alone (fun never => by cases never)
      exact waits.receives (by rw [phase]; rfl) (.inr alone) (.inl alone) trivial
  | finishing passed =>
      rw [phase] at done alone holds
      have alone := alone (fun never => by cases never)
      dsimp only at done
      split at done
      · cases done
        exact waits.receives (by rw [phase]; rfl) (.inr alone) (.inl alone) (.inr holds.2)
      · split at done
        · cases done
          exact waits.receives (by rw [phase]; rfl) (.inr alone) (.inl alone) trivial
        · cases done
  | takingBack passed =>
      rw [phase] at done alone
      cases done
      have alone := alone (fun never => by cases never)
      exact waits.receives (by rw [phase]; rfl) (.inr alone) (.inl alone) trivial
  | resetting passed taken =>
      rw [phase] at done alone holds
      cases holds.2
      cases done
      have alone := alone (fun never => by cases never)
      exact waits.receives (by rw [phase]; rfl) (.inr alone) (.inl alone) trivial
  | waking passed waker =>
      rw [phase] at done holds
      cases done
      exact waits.wakes phase holds.2
  | readingClosed passed =>
      rw [phase] at done alone polled
      cases done
      have alone := alone (fun never => by cases never)
      refine waits.receives (by rw [phase]; rfl) (.inl rfl) (.inl alone) ⟨polled, ?_⟩
      exact fun unset closed => by cases unset.symm.trans closed

-----------------------------------------------------------------------------------------
-- Whole runs
-----------------------------------------------------------------------------------------

/-- A call of the receiver begins. -/
theorem Waits.calls (waits : run.Waits) {receiving : ReceivePhase Waker}
    (early : Unregistered receiving)
    (bounded
      : ∀ passed, receiving.passed = some passed → passed.since ≤ run.wakes.length)
    : Waits { run with receiving } where
  bounded := by
    intro passed known
    rcases known with polling | waiting
    · exact bounded passed polling
    · exact waits.bounded passed (.inr waiting)
  unregistered := fun _ _ => early
  polled := by
    cases early with
    | idle => trivial
    | @looking attempt early =>
        cases attempt with
        | last passed closed => exact absurd rfl (early passed closed)
        | alone => trivial
        | first passed => trivial
    | @swapping attempt early =>
        cases attempt with
        | last passed closed => exact absurd rfl (early passed closed)
        | alone => trivial
        | first passed => trivial
    | claiming => trivial
  registered := waits.registered
  announced := waits.announced

variable [DecidableEq Thread]

/-- Every event loses no wakeup. -/
theorem Waits.next {event : SlotEvent Thread Waker} (waits : run.Waits)
    (owned : run.WakerOwned) (step : (machine Thread Waker).Step run event after)
    : after.Waits := by
  have enabled := step.enabled
  have done := step.next
  cases event with
  | send thread value =>
      change run.send thread value = .ok after at done
      unfold SlotRun.send at done
      split at done
      · cases done
      · split at done
        · cases done
          exact waits.begins enabled.2.1 _ run.senderAlive
        · cases done
          exact waits
  | dropSender thread =>
      cases done
      exact waits.begins (enabled.2 thread) _ false
  | sendStep thread =>
      cases done
      exact waits.sendStep thread owned
  | tryRecv =>
      cases done
      exact waits.calls (.looking (fun _ _ never => by cases never)) (fun _ never => by cases never)
  | poll waker =>
      cases done
      refine waits.calls (.looking (fun _ _ never => by cases never)) (fun passed same => ?_)
      cases same
      exact Nat.le_refl _
  | receiveStep => exact waits.receiveStep owned done
  | dropReceiver =>
      cases done
      exact ⟨waits.bounded, waits.unregistered, waits.polled, waits.registered, waits.announced⟩

/-- Sending `EMPTY` is the only way to panic. -/
theorem panics_iff {event : SlotEvent Thread Waker}
    (reached : (machine Thread Waker).Reachable run)
    : (∃ panic, next run event = .error panic) ↔ ∃ thread, event = .send thread slotEmpty := by
  constructor
  · rintro ⟨panic, panics⟩
    cases event with
    | send thread value =>
        change run.send thread value = .error panic at panics
        unfold SlotRun.send at panics
        split at panics
        · rename_i empty
          exact ⟨thread, by rw [empty]⟩
        · split at panics <;> cases panics
    | receiveStep =>
        obtain ⟨after, done, _⟩ := (wakerOwned_reachable reached).receiveStep
        cases done.symm.trans panics
    | dropSender thread => cases panics
    | sendStep thread => cases panics
    | tryRecv => cases panics
    | poll waker => cases panics
    | dropReceiver => cases panics
  · rintro ⟨thread, rfl⟩
    have asserts
        : run.send thread slotEmpty = .error (.assertion "u64::MAX marks the empty slot") :=
      if_pos rfl
    exact ⟨_, asserts⟩

end SlotRun

end BoltLoad
