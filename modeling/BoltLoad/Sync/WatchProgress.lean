import BoltLoad.Library.Fairness
import BoltLoad.Sync.WatchWakes

/-! Endless fair runs of the watch channel. If every thread using the sender goes on, and every
receiver that was notified is resumed, no receiver waits for ever while there is something to
tell it.
-/

namespace BoltLoad.Watch

variable {Thread ReceiverId Value : Type}

/-- The receiver waits to be notified, in `changed`, in `wait_for`, or between two polls of its
stream.
-/
structure Receiver.Waits (receiver : Receiver Value) : Prop where
  listens : receiver.listener ≠ none
  rests : receiver.phase.rests = true

/-- How many steps a thread is to take until it notified the receivers. -/
def SendPhase.left : SendPhase Value → Nat
  | .replacing _ => 3
  | .unlocking _ => 2
  | .notifying _ => 1
  | _ => 0

/-- A receiver that rests is between two calls, or waits in one. -/
theorem ReceivePhase.rests_cases {phase : ReceivePhase Value} (rests : phase.rests = true)
    : phase = .idle ∨ ∃ waiting, phase = .listening waiting := by
  cases phase with
  | idle => exact .inl rfl
  | listening waiting => exact .inr ⟨waiting, rfl⟩
  | locking reading => cases rests
  | loading reading => cases rests
  | cloning reading => cases rests
  | unlocking reading read => cases rests
  | testing rejected read => cases rests
  | checking waiting => cases rests

/-- A notified receiver whose call goes on checks the state. -/
theorem Receiver.rests_step {receiver : Receiver Value} {unlocked : Bool}
    (rests : receiver.phase.rests = true) (heard : receiver.listener = some true)
    (goesOn : receiver.goesOn unlocked = true) (slot : Stored Value) (state : Nat)
    (accepts : Bool)
    : (receiver.step slot state accepts).phase.rests = false := by
  rcases ReceivePhase.rests_cases rests with idle | ⟨waiting, listening⟩
  · rw [Receiver.goesOn, idle] at goesOn
    cases goesOn
  · simp only [Receiver.step, listening, heard]
    rfl

/-- A check of the state with something to tell ends the wait. -/
theorem Receiver.step_ne_listening {receiver : Receiver Value} {waiting : Waiting Value}
    {state : Nat} (checking : receiver.phase = .checking waiting)
    (news : versionOf state ≠ receiver.seen ∨ isClosed state = true) (slot : Stored Value)
    (accepts : Bool) (other : Waiting Value)
    : (receiver.step slot state accepts).phase ≠ .listening other := by
  rcases step_checking checking slot state accepts with
      ⟨_, found⟩ | ⟨_, _, found⟩ | ⟨same, opened, _⟩
  · rw [found]
    cases waiting <;> exact fun never => by cases never
  · rw [found]
    cases waiting <;> exact fun never => by cases never
  · rcases news with unseen | closed
    · exact absurd same unseen
    · cases opened.symm.trans closed

/-- A call does not register a listener. -/
theorem Receiver.call_listener (receiver : Receiver Value) (state : Nat) (call : Call)
    : (receiver.call state call).listener = receiver.listener
      ∨ (receiver.call state call).listener = none := by
  cases call with
  | borrow => exact .inl rfl
  | borrowAndUpdate => exact .inl rfl
  | hasChanged => exact .inl rfl
  | markUnchanged => exact .inl rfl
  | isClosed => exact .inl rfl
  | changed => exact .inl rfl
  | waitFor => exact .inl rfl
  | intoStream => exact .inl rfl
  | intoInner => exact .inr rfl
  | pollNext =>
      simp only [Receiver.call]
      split <;> exact .inl rfl

namespace Channel

variable {channel after : Channel Thread ReceiverId Value}

/-- A receiver waits although there is something to tell it. -/
def Unserved (channel : Channel Thread ReceiverId Value) (receiver : ReceiverId) : Prop :=
  ∃ known, channel.receivers receiver = some known ∧ known.Waits ∧ channel.News known

/-- A thread using the sender goes on. -/
def Sends (thread : Thread) (_ : Channel Thread ReceiverId Value)
    (event : Event Thread ReceiverId Value)
    : Prop :=
  event = .sendStep thread

/-- A notified receiver is resumed: its stream is polled again, or its call goes on. -/
def Resumes (receiver : ReceiverId) (channel : Channel Thread ReceiverId Value)
    (event : Event Thread ReceiverId Value)
    : Prop :=
  (∃ known, channel.receivers receiver = some known ∧ known.listener = some true)
  ∧ (event = .call receiver .pollNext ∨ ∃ accepts, event = .receiveStep receiver accepts)

/-- Every registered listener was notified. -/
def Notified (channel : Channel Thread ReceiverId Value) : Prop :=
  ∀ receiver known, channel.receivers receiver = some known → known.listener ≠ some false

/-- A waiting receiver that every listener's notification reached was notified. -/
theorem Unserved.heard {receiver : ReceiverId} (unserved : channel.Unserved receiver)
    (notified : channel.Notified)
    : ∃ known, channel.receivers receiver = some known ∧ known.listener = some true := by
  obtain ⟨known, present, waits, _⟩ := unserved
  refine ⟨known, present, ?_⟩
  cases heard : known.listener with
  | none => exact absurd heard waits.listens
  | some told =>
      cases told with
      | true => rfl
      | false => exact absurd heard (notified receiver known present)

variable [DecidableEq Thread]

/-- A thread that is to notify comes nearer to it with every step. -/
theorem due_sendStep {thread : Thread} (owes : (channel.sending thread).Due)
    : ((channel.sendStep thread).sending thread).Due
        ∧ ((channel.sendStep thread).sending thread).left < (channel.sending thread).left
      ∨ (channel.sendStep thread).Notified := by
  cases phase : channel.sending thread with
  | replacing published =>
      simp only [sendStep, phase, sendingAt_self]
      exact .inl ⟨.unlocking, by simp only [SendPhase.left]; decide⟩
  | unlocking answer =>
      cases answer with
      | replaced previous published =>
          simp only [sendStep, phase, sendingAt_self]
          exact .inl ⟨.notifying, by simp only [SendPhase.left]; decide⟩
      | borrowed current =>
          rw [phase] at owes
          cases owes
  | notifying answer =>
      simp only [sendStep, phase]
      right
      intro receiver known present
      obtain ⟨before, _, rfl⟩ := Option.map_eq_some_iff.mp present
      intro unheard
      have unheard : before.listener.map (fun _ => true) = some false := unheard
      cases heard : before.listener <;> rw [heard] at unheard <;> cases unheard
  | idle => rw [phase] at owes; cases owes
  | publishing value => rw [phase] at owes; cases owes
  | borrowing => rw [phase] at owes; cases owes
  | bumping value => rw [phase] at owes; cases owes
  | cloning => rw [phase] at owes; cases owes
  | closing => rw [phase] at owes; cases owes

theorem sendStep_sending_of_ne {thread other : Thread} (apart : other ≠ thread)
    : (channel.sendStep thread).sending other = channel.sending other := by
  unfold sendStep
  split <;> first | rfl | exact sendingAt_of_ne apart

variable [DecidableEq ReceiverId]

/-- No other event concerns a thread that is to notify. -/
theorem due_other {thread : Thread} {event : Event Thread ReceiverId Value}
    (owes : (channel.sending thread).Due)
    (step : (machine Thread ReceiverId Value).Step channel event after)
    (other : event ≠ .sendStep thread)
    : after.sending thread = channel.sending thread := by
  have enabled := step.enabled
  have busy {another : Thread} (idle : channel.sending another = .idle) : thread ≠ another := by
    rintro rfl
    rw [idle] at owes
    cases owes
  cases step.next
  cases event with
  | sendReplace another value => exact sendingAt_of_ne (busy enabled.2)
  | senderBorrow another => exact sendingAt_of_ne (busy enabled.2)
  | dropSender another => exact sendingAt_of_ne (busy (enabled.2 another))
  | sendStep another =>
      exact sendStep_sending_of_ne (fun same => other (by rw [same]))
  | receiveStep receiver accepts =>
      change (channel.receiveStep receiver accepts).sending thread = channel.sending thread
      unfold receiveStep
      split <;> rfl
  | subscribe receiver => rfl
  | call receiver call => rfl
  | clone source target => rfl
  | cancel receiver => rfl
  | dropReceiver receiver => rfl
  | passOn receiver => rfl

/-- A notified receiver that still waits was not notified in vain. -/
theorem heard_next {event : Event Thread ReceiverId Value} {receiver : ReceiverId}
    {known later : Receiver Value}
    (step : (machine Thread ReceiverId Value).Step channel event after)
    (before : channel.receivers receiver = some known) (rests : known.phase.rests = true)
    (heard : known.listener = some true) (present : after.receivers receiver = some later)
    (waits : later.Waits)
    : later.listener = some true := by
  cases evolves step present with
  | stays was =>
      cases before.symm.trans was
      exact heard
  | notified was _ =>
      cases before.symm.trans was
      rw [Receiver.notify, heard]
      rfl
  | subscribed _ => exact absurd rfl waits.listens
  | cloned _ _ => exact absurd rfl waits.listens
  | called was _ _ _ =>
      cases before.symm.trans was
      rcases known.call_listener channel.state _ with same | none
      · exact same.trans heard
      · exact absurd none waits.listens
  | stepped was goesOn _ =>
      cases before.symm.trans was
      cases (known.rests_step rests heard goesOn _ _ _).symm.trans waits.rests
  | cancelled _ _ _ => exact absurd rfl waits.listens

/-- A notified receiver can be resumed. -/
theorem admits_resumes {receiver : ReceiverId} {known : Receiver Value}
    (attended : channel.Attended) (present : channel.receivers receiver = some known)
    (rests : known.phase.rests = true) (heard : known.listener = some true)
    : Machine.Endless.Admits (machine Thread ReceiverId Value) (Resumes receiver) channel := by
  rcases ReceivePhase.rests_cases rests with idle | ⟨waiting, listening⟩
  · rcases (attended receiver known present).listens (by rw [heard]; simp) with
        waiting | ⟨_, streaming⟩
    · rw [idle] at waiting
      cases waiting
    · obtain ⟨stream, around, _⟩ := Option.map_eq_some_iff.mp streaming
      exact ⟨.call receiver .pollNext, _, ⟨⟨known, present, heard⟩, .inl rfl⟩,
        ⟨known, present, idle, by rw [around]; rfl⟩, rfl⟩
  · refine ⟨.receiveStep receiver false, _, ⟨⟨known, present, heard⟩, .inr ⟨false, rfl⟩⟩,
      ⟨known, present, ?_⟩, rfl⟩
    rw [Receiver.goesOn, listening]
    cases waiting <;> simp only [heard] <;> rfl

/-- A resumed receiver checks the state. -/
theorem served_of_resumes {receiver : ReceiverId} {event : Event Thread ReceiverId Value}
    {known : Receiver Value} (attended : channel.Attended)
    (present : channel.receivers receiver = some known) (rests : known.phase.rests = true)
    (heard : known.listener = some true) (resumes : Resumes receiver channel event)
    (step : (machine Thread ReceiverId Value).Step channel event after)
    : ¬after.Unserved receiver := by
  have enabled := step.enabled
  cases step.next
  rintro ⟨later, there, waits, _⟩
  rcases resumes.2 with rfl | ⟨accepts, rfl⟩
  · obtain ⟨other, was, idle, _⟩ := enabled
    cases present.symm.trans was
    have streaming : known.stream.map WatchStream.state = some .waiting := by
      rcases (attended receiver known present).listens (by rw [heard]; simp) with
          waiting | ⟨_, streaming⟩
      · rw [idle] at waiting
        cases waiting
      · exact streaming
    change (channel.receiverAt receiver _).receivers receiver = some later at there
    rw [receiverAt_self, present] at there
    cases there
    have rested := waits.rests
    simp only [Receiver.call, streaming] at rested
    cases rested
  · obtain ⟨other, was, goesOn⟩ := enabled
    cases present.symm.trans was
    simp only [next, receiveStep, present] at there
    change (Channel.receiverAt _ receiver _).receivers receiver = some later at there
    rw [receiverAt_self] at there
    cases there
    cases (known.rests_step rests heard goesOn _ _ _).symm.trans waits.rests

/-- No receiver waits for ever while there is something to tell it: the thread that is to notify
it does, by the steps it has left, and then the receiver is resumed.
-/
theorem served_in_the_end {run : (machine Thread ReceiverId Value).Endless}
    (reached : (machine Thread ReceiverId Value).Reachable (run.states 0))
    (threads : ∀ thread, run.Fair (Sends thread))
    (receivers : ∀ receiver, run.Fair (Resumes receiver)) (receiver : ReceiverId)
    : ∃ time, ¬(run.states time).Unserved receiver := by
  by_contra! always
  have attended (time : Nat) : (run.states time).Attended :=
    attended_reachable (run.reachable reached time)
  let Heard (state : Channel Thread ReceiverId Value) : Prop :=
    ∃ known, state.receivers receiver = some known ∧ known.listener = some true
  have heard : ∃ time, 0 ≤ time ∧ Heard (run.states time) := by
    obtain ⟨known, present, waits, news⟩ := always 0
    cases listener : known.listener with
    | none => exact absurd listener waits.listens
    | some told =>
        cases told with
        | true => exact ⟨0, Nat.le_refl 0, known, present, listener⟩
        | false =>
            obtain ⟨thread, owes⟩ := covered_reachable reached receiver known present
              ⟨listener, waits.rests⟩ news
            have goes (time : Nat) (owes : ((run.states time).sending thread).Due)
                (taken : run.events time = .sendStep thread)
                : ((run.states (time + 1)).sending thread).Due
                    ∧ ((run.states (time + 1)).sending thread).left
                      < ((run.states time).sending thread).left
                  ∨ Heard (run.states (time + 1)) := by
              have after := (run.steps time).next
              rw [taken] at after
              have after : (run.states time).sendStep thread = run.states (time + 1) :=
                Except.ok.inj after
              rw [← after]
              refine (due_sendStep owes).imp_right (fun notified => ?_)
              have unserved := always (time + 1)
              rw [← after] at unserved
              exact unserved.heard notified
            refine (threads thread).leads_ranked (fun state => (state.sending thread).Due) Heard
              (fun state => (state.sending thread).left) ?_ ?_ ?_ owes
            · intro time owes
              by_cases taken : run.events time = .sendStep thread
              · exact (goes time owes taken).imp_left (fun nearer => ⟨nearer.1, nearer.2.le⟩)
              · rw [due_other owes (run.steps time) taken]
                exact .inl ⟨owes, Nat.le_refl _⟩
            · intro time owes
              refine ⟨.sendStep thread, _, rfl, ?_, rfl⟩
              change ((run.states time).sending thread).goesOn _ = true
              generalize (run.states time).sending thread = phase at owes
              cases owes <;> rfl
            · exact fun time owes taken => (goes time owes taken).imp_left And.right
  obtain ⟨start, _, told⟩ := heard
  let Told (state : Channel Thread ReceiverId Value) : Prop :=
    ∃ known,
      state.receivers receiver = some known
      ∧ known.phase.rests = true
      ∧ known.listener = some true
  have begins : Told (run.states start) := by
    obtain ⟨known, present, heard⟩ := told
    obtain ⟨same, there, waits, _⟩ := always start
    cases present.symm.trans there
    exact ⟨known, present, waits.rests, heard⟩
  have served : ∃ time, start ≤ time ∧ ¬(run.states time).Unserved receiver := by
    refine (receivers receiver).leads Told (fun state => ¬state.Unserved receiver) ?_ ?_ ?_ begins
    · rintro time ⟨known, before, rests, heard⟩
      obtain ⟨later, present, waits, _⟩ := always (time + 1)
      exact .inl ⟨later, present, waits.rests,
        heard_next (run.steps time) before rests heard present waits⟩
    · rintro time ⟨known, present, rests, heard⟩
      exact admits_resumes (attended time) present rests heard
    · rintro time ⟨known, present, rests, heard⟩ resumes
      exact served_of_resumes (attended time) present rests heard resumes (run.steps time)
  obtain ⟨time, _, served⟩ := served
  exact served (always time)

/-- A receiver only waits unnotified, with a version unseen or the channel closed, while a
thread that published or closed is still to notify it; its next check of the state tells it; and
in a fair run it does not wait for ever.
-/
theorem no_lost_wakeup (reached : (machine Thread ReceiverId Value).Reachable channel)
    {receiver : ReceiverId} {known : Receiver Value}
    (present : channel.receivers receiver = some known)
    : (known.Waits → channel.News known → channel.Quiet → known.listener = some true)
      ∧ (∀ waiting slot accepts other,
          known.phase = .checking waiting
          → channel.News known
          → (known.step slot channel.state accepts).phase ≠ .listening other)
      ∧ ∀ run : (machine Thread ReceiverId Value).Endless,
          run.states 0 = channel
          → (∀ thread, run.Fair (Sends thread))
          → (∀ receiver, run.Fair (Resumes receiver))
          → ∃ time, ¬(run.states time).Unserved receiver := by
  refine ⟨fun waits news quiet => ?_, ?_, ?_⟩
  · by_contra unheard
    have parked : known.Parked := by
      refine ⟨?_, waits.rests⟩
      cases heard : known.listener with
      | none => exact absurd heard waits.listens
      | some told =>
          cases told with
          | true => exact absurd heard unheard
          | false => rfl
    obtain ⟨thread, owes⟩ := covered_reachable reached receiver known present parked news
    rw [quiet thread] at owes
    cases owes
  · exact fun waiting slot accepts other checking news =>
      Receiver.step_ne_listening checking news slot accepts other
  · rintro run rfl threads receivers
    exact served_in_the_end reached threads receivers receiver

/-- A receiver waits in `changed` while a value is published. -/
theorem no_lost_wakeup_sent
    : ∃ (run : Channel Unit Nat Nat) (known : Receiver Nat),
        run.receivers 0 = some known
        ∧ known.phase = .listening .changed
        ∧ known.seen = 0
        ∧ versionOf run.state = 2
        ∧ known.listener = some true := by
  let events : List (Event Unit Nat Nat) :=
    .call 0 .changed :: List.replicate 3 (.receiveStep 0 false)
      ++ .sendReplace () 9 :: List.replicate 5 (.sendStep ())
  have begins : (machine Unit Nat Nat).Reachable (Channel.channel 7 0) := .initial ⟨7, 0, rfl⟩
  have ran : ((machine Unit Nat Nat).execute (Channel.channel 7 0) events).map
      (fun run => (run.state, run.sending (), (run.receivers 0).map (fun known =>
        (known.phase, known.seen, known.listener.isSome))))
      = some (2, .idle, some (.listening .changed, 0, true)) := by rfl
  obtain ⟨run, executed, result⟩ := Option.map_eq_some_iff.mp ran
  simp only [Prod.mk.injEq] at result
  obtain ⟨state, idle, waiting⟩ := result
  obtain ⟨known, present, facts⟩ := Option.map_eq_some_iff.mp waiting
  simp only [Prod.mk.injEq] at facts
  obtain ⟨listening, seen, listens⟩ := facts
  have waits : known.Waits := by
    refine ⟨fun none => ?_, by rw [listening]; rfl⟩
    rw [none] at listens
    cases listens
  have version : versionOf run.state = 2 := by
    rw [state]
    rfl
  have news : run.News known := by
    left
    rw [version, seen]
    decide
  exact ⟨run, known, present, listening, seen, version,
    (no_lost_wakeup (begins.execute events executed) present).1 waits news (fun _ => idle)⟩

end Channel

end BoltLoad.Watch
