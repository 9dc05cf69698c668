import BoltLoad.Library.Fairness
import BoltLoad.Sync.WatchRuns

/-! No receiver of the watch channel stays waiting while there is something to tell it: a
listener still to be notified then has a thread that is to notify it, and that thread never has
to wait.
-/

namespace BoltLoad.Watch

variable {Thread ReceiverId Value : Type}

-----------------------------------------------------------------------------------------
-- Listeners
-----------------------------------------------------------------------------------------

/-- `poll_next` is under way. -/
def ReceivePhase.polls : ReceivePhase Value → Bool
  | .locking .pollNext => true
  | .loading .pollNext => true
  | .cloning .pollNext => true
  | .unlocking .pollNext _ => true
  | .checking .pollNext => true
  | .listening .pollNext => true
  | _ => false

/-- The receiver waits to be notified, or checks the state with its listener registered. -/
def ReceivePhase.attends : ReceivePhase Value → Bool
  | .checking _ => true
  | .listening _ => true
  | _ => false

/-- The state of the stream around a receiver. -/
def Receiver.streamState (receiver : Receiver Value) : Option StreamState :=
  receiver.stream.map WatchStream.state

/-- A receiver has a listener only while it waits for a newer version, or its stream does
between two polls.
-/
structure Receiver.Attends (receiver : Receiver Value) : Prop where
  listens
    : receiver.listener ≠ none
      → receiver.phase.attends = true
        ∨ receiver.phase = .idle ∧ receiver.streamState = some .waiting
  polls : receiver.phase.polls = true → receiver.streamState = some .waiting

namespace Receiver.Attends

variable {receiver : Receiver Value}

theorem new (seen : Nat)
    : (Receiver.new seen : Receiver Value).Attends :=
  ⟨fun never => absurd rfl never, fun never => by cases never⟩

/-- A receiver without a listener. -/
theorem deaf (none : receiver.listener = none)
    (polls : receiver.phase.polls = true → receiver.streamState = some .waiting)
    : receiver.Attends :=
  ⟨fun some => absurd none some, polls⟩

/-- Elsewhere the receiver has no listener. -/
theorem listener_eq_none (attends : receiver.Attends) (elsewhere : receiver.phase.attends = false)
    (busy : receiver.phase ≠ .idle)
    : receiver.listener = none := by
  by_contra some
  rcases attends.listens some with waiting | ⟨idle, _⟩
  · cases elsewhere.symm.trans waiting
  · exact busy idle

theorem notify (attends : receiver.Attends)
    : receiver.notify.Attends :=
  ⟨fun some => attends.listens (fun none => some (by rw [Receiver.notify, none]; rfl)),
    attends.polls⟩

theorem cancel : receiver.cancel.Attends :=
  deaf rfl (fun never => by cases never)

/-- Every step of the receiver. -/
theorem step (attends : receiver.Attends) (slot : Stored Value) (state : Nat) (accepts : Bool)
    : (receiver.step slot state accepts).Attends := by
  have polls := attends.polls
  have unheard := attends.listener_eq_none
  cases phase : receiver.phase with
  | idle =>
      simp only [Receiver.step, phase]
      exact attends
  | locking reading =>
      rw [phase] at polls unheard
      have none := unheard rfl (fun never => by cases never)
      cases reading with
      | borrow =>
          simp only [Receiver.step, phase]
          exact deaf none (fun never => by cases never)
      | borrowAndUpdate =>
          simp only [Receiver.step, phase]
          exact deaf none (fun never => by cases never)
      | waitFor rejected =>
          simp only [Receiver.step, phase]
          exact deaf none (fun never => by cases never)
      | pollNext =>
          simp only [Receiver.step, phase]
          exact deaf none (fun _ => polls rfl)
  | loading reading =>
      rw [phase] at polls unheard
      simp only [Receiver.step, phase]
      refine deaf (unheard rfl (fun never => by cases never)) ?_
      cases reading <;> exact polls
  | cloning reading =>
      rw [phase] at polls unheard
      simp only [Receiver.step, phase]
      refine deaf (unheard rfl (fun never => by cases never)) ?_
      cases reading <;> exact polls
  | unlocking reading read =>
      rw [phase] at unheard
      have none := unheard rfl (fun never => by cases never)
      simp only [Receiver.step, phase]
      cases reading with
      | borrow => exact deaf none (fun never => by cases never)
      | borrowAndUpdate => exact deaf none (fun never => by cases never)
      | waitFor rejected => exact deaf none (fun never => by cases never)
      | pollNext => exact deaf none (fun never => by cases never)
  | testing rejected read =>
      rw [phase] at unheard
      have none := unheard rfl (fun never => by cases never)
      simp only [Receiver.step, phase]
      split
      · exact deaf none (fun never => by cases never)
      · exact deaf none (fun never => by cases never)
  | checking waiting =>
      rw [phase] at polls
      rcases step_checking phase slot state accepts with
          ⟨_, found⟩ | ⟨_, _, found⟩ | ⟨_, _, found⟩
      · rw [found]
        cases waiting with
        | changed => exact deaf rfl (fun never => by cases never)
        | waitFor rejected => exact deaf rfl (fun never => by cases never)
        | pollNext => exact deaf rfl (fun _ => polls rfl)
      · rw [found]
        cases waiting with
        | changed => exact deaf rfl (fun never => by cases never)
        | waitFor rejected => exact deaf rfl (fun never => by cases never)
        | pollNext => exact deaf rfl (fun never => by cases never)
      · rw [found]
        refine ⟨fun _ => .inl rfl, ?_⟩
        cases waiting <;> exact polls
  | listening waiting =>
      rw [phase] at polls
      have checks (listener : Option Bool)
          : Attends { receiver with listener, phase := .checking waiting } := by
        refine ⟨fun _ => .inl rfl, ?_⟩
        cases waiting <;> exact polls
      simp only [Receiver.step, phase]
      split
      · exact checks (some false)
      · exact checks none
      · exact ⟨fun _ => .inr ⟨rfl, polls rfl⟩, fun never => by cases never⟩
      · exact attends

/-- Every call of the receiver, or of the stream around it. -/
theorem call {call : Call} (attends : receiver.Attends) (idle : receiver.phase = .idle)
    (fits : receiver.stream.isSome = call.ofStream) (state : Nat)
    : (receiver.call state call).Attends := by
  have deafened (other : receiver.streamState ≠ some .waiting) : receiver.listener = none := by
    by_contra some
    rcases attends.listens some with waiting | ⟨_, streaming⟩
    · rw [idle] at waiting
      cases waiting
    · exact other streaming
  have plain (outside : call.ofStream = false) : receiver.listener = none := by
    refine deafened (fun streaming => ?_)
    cases known : receiver.stream with
    | none =>
        rw [Receiver.streamState, known] at streaming
        cases streaming
    | some stream =>
        rw [known, outside] at fits
        cases fits
  cases call with
  | borrow => exact deaf (plain rfl) (fun never => by cases never)
  | borrowAndUpdate => exact deaf (plain rfl) (fun never => by cases never)
  | changed => exact deaf (plain rfl) (fun never => by cases never)
  | waitFor => exact deaf (plain rfl) (fun never => by cases never)
  | hasChanged => exact ⟨attends.listens, attends.polls⟩
  | isClosed => exact ⟨attends.listens, attends.polls⟩
  | markUnchanged => exact ⟨attends.listens, attends.polls⟩
  | intoStream =>
      refine deaf (plain rfl) (fun polls => ?_)
      change receiver.phase.polls = true at polls
      rw [idle] at polls
      cases polls
  | intoInner =>
      refine deaf rfl (fun polls => ?_)
      change receiver.phase.polls = true at polls
      rw [idle] at polls
      cases polls
  | pollNext =>
      simp only [Receiver.call]
      cases known : receiver.stream with
      | none =>
          rw [known] at fits
          cases fits
      | some stream =>
          obtain ⟨state, items⟩ := stream
          have streaming : receiver.streamState = some state := by
            rw [Receiver.streamState, known]
            rfl
          cases state with
          | first =>
              refine deaf (deafened (fun never => ?_)) (fun _ => ?_)
              · cases streaming.symm.trans never
              · change (receiver.stream.map _).map WatchStream.state = some .waiting
                rw [known]
                rfl
          | waiting => exact ⟨fun _ => .inl rfl, fun _ => rfl⟩
          | done =>
              refine deaf (deafened (fun never => ?_)) (fun never => by cases never)
              cases streaming.symm.trans never

end Receiver.Attends

-----------------------------------------------------------------------------------------
-- Who is to notify
-----------------------------------------------------------------------------------------

/-- The thread published a version or closed the channel, and is to notify the receivers. -/
inductive SendPhase.Due : SendPhase Value → Prop
  | replacing {published} : Due (.replacing published)
  | unlocking {previous published} : Due (.unlocking (.replaced previous published))
  | notifying {answer} : Due (.notifying answer)

/-- The receiver is not about to check the state. -/
def ReceivePhase.rests : ReceivePhase Value → Bool
  | .idle => true
  | .listening _ => true
  | _ => false

/-- The receiver has a listener that was not notified, and is not about to check the state. -/
structure Receiver.Parked (receiver : Receiver Value) : Prop where
  unheard : receiver.listener = some false
  rests : receiver.phase.rests = true

namespace Channel

variable {channel after : Channel Thread ReceiverId Value}

/-- There is something to tell a receiver: a version it has not seen, or the close. -/
def News (channel : Channel Thread ReceiverId Value) (receiver : Receiver Value) : Prop :=
  versionOf channel.state ≠ receiver.seen ∨ isClosed channel.state = true

/-- A parked receiver with something to be told has a thread that is to notify it. -/
def Covered (channel : Channel Thread ReceiverId Value) : Prop :=
  ∀ receiver known,
    channel.receivers receiver = some known
    → known.Parked
    → channel.News known
    → ∃ thread, (channel.sending thread).Due

/-- Every receiver has its listener only where it may. -/
def Attended (channel : Channel Thread ReceiverId Value) : Prop :=
  ∀ receiver known, channel.receivers receiver = some known → known.Attends

/-- What became of a receiver has its listener only where it may. -/
theorem Evolves.attends {receiver : ReceiverId} {later : Receiver Value}
    (evolves : Evolves channel after receiver later) (attended : channel.Attended)
    : later.Attends := by
  cases evolves with
  | stays was => exact attended receiver later was
  | notified was _ => exact (attended receiver _ was).notify
  | subscribed _ => exact .new _
  | cloned _ _ => exact .new _
  | called was idle fits _ => exact (attended receiver _ was).call idle fits _
  | stepped was _ _ => exact (attended receiver _ was).step _ _ _
  | cancelled _ _ _ => exact .cancel

end Channel

namespace Receiver.Parked

variable {receiver : Receiver Value} {state : Nat}

/-- A notified receiver is not parked. -/
theorem not_notify
    : ¬receiver.notify.Parked := by
  intro parked
  have unheard : receiver.listener.map (fun _ => true) = some false := parked.unheard
  cases heard : receiver.listener <;> rw [heard] at unheard <;> cases unheard

/-- A call leaves a receiver parked only where it was before, with nothing newly missed. -/
theorem of_call {call : Call} (attends : receiver.Attends) (idle : receiver.phase = .idle)
    (fits : receiver.stream.isSome = call.ofStream) (parked : (receiver.call state call).Parked)
    : receiver.Parked
      ∧ ((receiver.call state call).seen = receiver.seen
        ∨ (receiver.call state call).seen = versionOf state) := by
  have rests : receiver.phase.rests = true := by
    rw [idle]
    rfl
  cases call with
  | hasChanged => exact ⟨⟨parked.unheard, rests⟩, .inl rfl⟩
  | isClosed => exact ⟨⟨parked.unheard, rests⟩, .inl rfl⟩
  | markUnchanged => exact ⟨⟨parked.unheard, rests⟩, .inr rfl⟩
  | intoStream => exact ⟨⟨parked.unheard, rests⟩, .inl rfl⟩
  | borrow => cases parked.rests
  | borrowAndUpdate => cases parked.rests
  | changed => cases parked.rests
  | waitFor => cases parked.rests
  | intoInner => cases parked.unheard
  | pollNext =>
      have made := attends.call idle fits state
      have rested := parked.rests
      have unheard := parked.unheard
      simp only [Receiver.call] at rested unheard ⊢
      split at rested <;> rename_i known
      · cases rested
      · cases rested
      · simp only [known] at unheard ⊢
        exact ⟨⟨unheard, rests⟩, .inl rfl⟩
      · simp only [known] at unheard ⊢
        exact ⟨⟨unheard, rests⟩, .inl trivial⟩

/-- A step leaves a receiver parked only where it was before, or with nothing to be told. -/
theorem of_step {slot : Stored Value} {accepts : Bool} (attends : receiver.Attends)
    (busy : receiver.phase ≠ .idle) (parked : (receiver.step slot state accepts).Parked)
    : receiver.Parked ∧ (receiver.step slot state accepts).seen = receiver.seen
      ∨ versionOf state = (receiver.step slot state accepts).seen ∧ isClosed state = false := by
  have unheard := parked.unheard
  have rests := parked.rests
  have none (elsewhere : receiver.phase.attends = false)
      (same : (receiver.step slot state accepts).listener = receiver.listener)
      : False := by
    rw [same, attends.listener_eq_none elsewhere busy] at unheard
    cases unheard
  cases phase : receiver.phase with
  | idle => exact absurd phase busy
  | locking reading =>
      refine (none (by rw [phase]; rfl) ?_).elim
      cases reading <;> (simp only [Receiver.step, phase])
  | loading reading => exact (none (by rw [phase]; rfl) (by simp only [Receiver.step, phase])).elim
  | cloning reading =>
      exact (none (by rw [phase]; rfl) (by simp only [Receiver.step, phase]; rfl)).elim
  | unlocking reading read =>
      refine (none (by rw [phase]; rfl) ?_).elim
      simp only [Receiver.step, phase]
      cases reading <;> rfl
  | testing rejected read =>
      refine (none (by rw [phase]; rfl) ?_).elim
      simp only [Receiver.step, phase]
      split <;> rfl
  | checking waiting =>
      rcases step_checking phase slot state accepts with
          ⟨_, found⟩ | ⟨_, _, found⟩ | ⟨same, opened, found⟩
      · rw [found] at unheard
        cases waiting <;> cases unheard
      · rw [found] at unheard
        cases waiting <;> cases unheard
      · rw [found]
        exact .inr ⟨same, opened⟩
  | listening waiting =>
      have rested : receiver.phase.rests = true := by
        rw [phase]
        rfl
      simp only [Receiver.step, phase] at unheard rests ⊢
      split at rests
      · cases rests
      · cases rests
      · rename_i heard
        exact .inl ⟨⟨heard, rested⟩, rfl⟩
      · rename_i heard _
        exact .inl ⟨⟨heard, rested⟩, rfl⟩

end Receiver.Parked

namespace Channel

variable {channel after : Channel Thread ReceiverId Value}

/-- A receiver goes on while the threads do not. -/
theorem Covered.receives (covered : channel.Covered) (attended : channel.Attended)
    (sending : after.sending = channel.sending) (state : after.state = channel.state)
    (evolves
      : ∀ receiver later,
          after.receivers receiver = some later
          → Evolves channel after receiver later)
    : after.Covered := by
  intro receiver later present parked news
  rw [sending]
  rw [News, state] at news
  cases evolves receiver later present with
  | stays was => exact covered receiver later was parked news
  | notified was _ => exact absurd parked Receiver.Parked.not_notify
  | subscribed _ => cases parked.unheard
  | cloned _ _ => cases parked.unheard
  | @called known call was idle fits _ =>
      obtain ⟨before, same | marked⟩ := Receiver.Parked.of_call (attended receiver known was) idle
        fits parked
      · rw [same] at news
        exact covered receiver known was before news
      · exact covered receiver known was before (.inr (news.resolve_left (fun other =>
          other marked.symm)))
  | @stepped known accepts was goesOn _ =>
      have busy : known.phase ≠ .idle := by
        intro idle
        rw [Receiver.goesOn, idle] at goesOn
        cases goesOn
      rcases Receiver.Parked.of_step (attended receiver known was) busy parked with
          ⟨before, same⟩ | ⟨seen, opened⟩
      · rw [same] at news
        exact covered receiver known was before news
      · rcases news with unseen | closed
        · exact absurd seen unseen
        · cases opened.symm.trans closed
  | cancelled _ _ _ => cases parked.unheard

/-- Some thread is to notify. -/
theorem covered_of_due {thread : Thread} (owes : (after.sending thread).Due)
    : after.Covered :=
  fun _ _ _ _ _ => ⟨thread, owes⟩

section Threads

variable [DecidableEq Thread] {thread : Thread} {phase : SendPhase Value}

/-- What the other threads are to notify stays with them. -/
theorem due_sendingAt (was : ¬(channel.sending thread).Due)
    (due : ∃ other, (channel.sending other).Due)
    : ∃ other, ((channel.sendingAt thread phase).sending other).Due := by
  obtain ⟨other, owes⟩ := due
  have apart : other ≠ thread := fun same => was (same ▸ owes)
  exact ⟨other, by rwa [sendingAt_of_ne apart]⟩

/-- A thread goes on that is not to notify. -/
theorem Covered.goesOn (covered : channel.Covered) (was : ¬(channel.sending thread).Due)
    : (channel.sendingAt thread phase).Covered :=
  fun receiver known present parked news =>
    due_sendingAt was (covered receiver known present parked news)

/-- Every step of a thread. -/
theorem Covered.sendStep (covered : channel.Covered) (thread : Thread)
    : (channel.sendStep thread).Covered := by
  cases phase : channel.sending thread with
  | idle =>
      simp only [Channel.sendStep, phase]
      exact covered
  | publishing value =>
      simp only [Channel.sendStep, phase]
      exact covered.goesOn (fun owes => by rw [phase] at owes; cases owes)
  | borrowing =>
      simp only [Channel.sendStep, phase]
      exact covered.goesOn (fun owes => by rw [phase] at owes; cases owes)
  | bumping value =>
      simp only [Channel.sendStep, phase]
      exact covered_of_due (by rw [sendingAt_self]; exact .replacing)
  | replacing published =>
      simp only [Channel.sendStep, phase]
      exact covered_of_due (by rw [sendingAt_self]; exact .unlocking)
  | cloning =>
      simp only [Channel.sendStep, phase]
      exact covered.goesOn (fun owes => by rw [phase] at owes; cases owes)
  | unlocking answer =>
      cases answer with
      | replaced previous published =>
          simp only [Channel.sendStep, phase]
          exact covered_of_due (by rw [sendingAt_self]; exact .notifying)
      | borrowed current =>
          simp only [Channel.sendStep, phase]
          exact covered.goesOn (fun owes => by rw [phase] at owes; cases owes)
  | closing =>
      simp only [Channel.sendStep, phase]
      exact covered_of_due (by rw [sendingAt_self]; exact .notifying)
  | notifying answer =>
      simp only [Channel.sendStep, phase]
      intro receiver known present parked
      obtain ⟨before, _, rfl⟩ := Option.map_eq_some_iff.mp present
      exact absurd parked Receiver.Parked.not_notify

end Threads

variable [DecidableEq Thread] [DecidableEq ReceiverId]

/-- Every event. -/
theorem Covered.next {event : Event Thread ReceiverId Value} (covered : channel.Covered)
    (attended : channel.Attended) (step : (machine Thread ReceiverId Value).Step channel event after)
    : after.Covered := by
  have enabled := step.enabled
  have evolves := fun (receiver : ReceiverId) (later : Receiver Value)
    (present : after.receivers receiver = some later) => evolves step present
  have idle {thread : Thread} (idle : channel.sending thread = .idle)
      : ¬(channel.sending thread).Due := by
    rw [idle]
    exact fun never => by cases never
  cases step.next
  cases event with
  | sendReplace thread value => exact covered.goesOn (idle enabled.2)
  | senderBorrow thread => exact covered.goesOn (idle enabled.2)
  | dropSender thread => exact covered.goesOn (idle (enabled.2 thread))
  | sendStep thread => exact covered.sendStep thread
  | receiveStep receiver accepts =>
      have same := (state_receiveStep : (channel.receiveStep receiver accepts).state = _ ∧ _).1
      refine covered.receives attended ?_ same evolves
      change (channel.receiveStep receiver accepts).sending = channel.sending
      unfold receiveStep
      split <;> rfl
  | subscribe receiver => exact covered.receives attended rfl rfl evolves
  | call receiver call => exact covered.receives attended rfl rfl evolves
  | clone source target => exact covered.receives attended rfl rfl evolves
  | cancel receiver => exact covered.receives attended rfl rfl evolves
  | dropReceiver receiver => exact covered.receives attended rfl rfl evolves
  | passOn receiver => exact covered.receives attended rfl rfl evolves

theorem attended_reachable (reached : (machine Thread ReceiverId Value).Reachable channel)
    : channel.Attended := by
  refine reached.invariant ?_ ?_
  · rintro _ ⟨initial, receiver, rfl⟩ other known present
    cases receivers_channel present
    exact .new 0
  · exact fun before event after _ attended step receiver known present =>
      (evolves step present).attends attended

theorem covered_reachable (reached : (machine Thread ReceiverId Value).Reachable channel)
    : channel.Covered := by
  refine reached.invariant ?_ (fun _ _ _ reached covered step =>
    covered.next (attended_reachable reached) step)
  rintro _ ⟨initial, receiver, rfl⟩ other known present parked
  cases receivers_channel present
  cases parked.unheard

end Channel

end BoltLoad.Watch
