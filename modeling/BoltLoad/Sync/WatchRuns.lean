import BoltLoad.Sync.WatchReads

/-! Every run of the watch channel: what an event does to a receiver, and what the receivers
observe in every state reached with fewer than `2 ^ 63` publications.
-/

namespace BoltLoad.Watch.Channel

variable {Thread ReceiverId Value : Type} {channel after : Channel Thread ReceiverId Value}

-----------------------------------------------------------------------------------------
-- What an event does to a receiver
-----------------------------------------------------------------------------------------

/-- What becomes of a receiver in one event: unless it stays as it was, the state does. -/
inductive Evolves (channel after : Channel Thread ReceiverId Value) (receiver : ReceiverId)
    : Receiver Value → Prop
  | stays {known} (was : channel.receivers receiver = some known)
    : Evolves channel after receiver known
  | notified {known} (was : channel.receivers receiver = some known)
    (same : after.state = channel.state)
    : Evolves channel after receiver known.notify
  | subscribed (same : after.state = channel.state)
    : Evolves channel after receiver (.new (versionOf channel.state))
  | cloned {source known} (was : channel.receivers source = some known)
    (same : after.state = channel.state)
    : Evolves channel after receiver (.new known.seen)
  | called {known call} (was : channel.receivers receiver = some known)
    (idle : known.phase = .idle) (fits : known.stream.isSome = call.ofStream)
    (same : after.state = channel.state)
    : Evolves channel after receiver (known.call channel.state call)
  | stepped {known accepts} (was : channel.receivers receiver = some known)
    (goesOn : known.goesOn channel.lock.isNone = true) (same : after.state = channel.state)
    : Evolves channel after receiver (known.step channel.slot channel.state accepts)
  | cancelled {known} (was : channel.receivers receiver = some known)
    (cancellable : known.cancellable = true) (same : after.state = channel.state)
    : Evolves channel after receiver known.cancel

theorem receivers_of_receiverAt [DecidableEq ReceiverId] {receiver other : ReceiverId}
    {now : Option (Receiver Value)} {later : Receiver Value}
    (present : (channel.receiverAt receiver now).receivers other = some later)
    : other = receiver ∧ now = some later ∨ channel.receivers other = some later := by
  by_cases here : other = receiver
  · rw [here, receiverAt_self] at present
    exact .inl ⟨here, present⟩
  · rw [receiverAt_of_ne here] at present
    exact .inr present

/-- A thread's step only ever notifies receivers. -/
theorem receivers_sendStep [DecidableEq Thread] (channel : Channel Thread ReceiverId Value)
    (thread : Thread)
    : (channel.sendStep thread).receivers = channel.receivers
      ∨ (∃ answer, channel.sending thread = .notifying answer)
        ∧ (channel.sendStep thread).receivers = channel.notify.receivers
        ∧ (channel.sendStep thread).state = channel.state := by
  unfold sendStep
  cases phase : channel.sending thread with
  | notifying answer => exact .inr ⟨⟨answer, rfl⟩, rfl, rfl⟩
  | unlocking answer =>
      cases answer with
      | replaced previous published => exact .inl rfl
      | borrowed current => exact .inl rfl
  | idle => exact .inl rfl
  | publishing value => exact .inl rfl
  | borrowing => exact .inl rfl
  | bumping value => exact .inl rfl
  | replacing published => exact .inl rfl
  | cloning => exact .inl rfl
  | closing => exact .inl rfl

variable [DecidableEq Thread] [DecidableEq ReceiverId]

/-- Every event. -/
theorem evolves {event : Event Thread ReceiverId Value} {receiver : ReceiverId}
    {later : Receiver Value} (step : (machine Thread ReceiverId Value).Step channel event after)
    (present : after.receivers receiver = some later)
    : Evolves channel after receiver later := by
  have enabled := step.enabled
  cases step.next
  cases event with
  | sendReplace thread value => exact .stays present
  | senderBorrow thread => exact .stays present
  | dropSender thread => exact .stays present
  | sendStep thread =>
      change (channel.sendStep thread).receivers receiver = some later at present
      rcases channel.receivers_sendStep thread with same | ⟨_, notified, same⟩
      · rw [same] at present
        exact .stays present
      · rw [notified] at present
        obtain ⟨known, was, rfl⟩ := Option.map_eq_some_iff.mp present
        exact .notified was same
  | subscribe other =>
      rcases receivers_of_receiverAt present with ⟨rfl, made⟩ | was
      · cases made
        exact .subscribed rfl
      · exact .stays was
  | call other call =>
      rcases receivers_of_receiverAt present with ⟨rfl, made⟩ | was
      · obtain ⟨known, was, idle, fits⟩ := enabled
        rw [Option.mem_def.mp was] at made
        cases made
        exact .called was idle fits rfl
      · exact .stays was
  | receiveStep other accepts =>
      obtain ⟨known, was, goesOn⟩ := enabled
      have same := (state_receiveStep : (channel.receiveStep other accepts).state = _ ∧ _).1
      simp only [Channel.next, receiveStep, Option.mem_def.mp was] at present
      rcases receivers_of_receiverAt present with ⟨rfl, made⟩ | still
      · cases made
        exact .stepped was goesOn same
      · exact .stays still
  | clone source target =>
      rcases receivers_of_receiverAt present with ⟨rfl, made⟩ | was
      · obtain ⟨⟨known, was, _⟩, _⟩ := enabled
        rw [Option.mem_def.mp was] at made
        cases made
        exact .cloned was rfl
      · exact .stays was
  | cancel other =>
      rcases receivers_of_receiverAt present with ⟨rfl, made⟩ | was
      · obtain ⟨known, was, cancellable⟩ := enabled
        rw [Option.mem_def.mp was] at made
        cases made
        exact .cancelled was cancellable rfl
      · exact .stays was
  | dropReceiver other =>
      rcases receivers_of_receiverAt present with ⟨_, never⟩ | was
      · cases never
      · exact .stays was
  | passOn other =>
      rcases receivers_of_receiverAt present with ⟨rfl, made⟩ | was
      · obtain ⟨known, was, rfl⟩ := Option.map_eq_some_iff.mp made
        exact .notified was rfl
      · exact .stays was

-----------------------------------------------------------------------------------------
-- Every run
-----------------------------------------------------------------------------------------

/-- Every receiver keeps track of the channel. -/
def Tracked (channel : Channel Thread ReceiverId Value) : Prop :=
  ∀ receiver known, channel.receivers receiver = some known → known.Tracks channel.state

omit [DecidableEq Thread] [DecidableEq ReceiverId] in
/-- What became of a receiver keeps track of the channel. -/
theorem Evolves.tracks {receiver : ReceiverId} {later : Receiver Value}
    (evolves : Evolves channel after receiver later) (tracked : channel.Tracked)
    (sound : channel.Sound) (guarded : Guards channel.lock channel.Inside)
    (advances : Advances channel.state after.state)
    (still
      : channel.Inside (.receiver receiver)
        → versionOf after.state = versionOf channel.state)
    : later.Tracks after.state := by
  cases evolves with
  | stays was =>
      exact (tracked receiver later was).advance advances
        (fun inside => still ((inside_receiver was).mpr inside))
  | notified was same =>
      rw [same]
      exact (tracked receiver _ was).notify
  | subscribed same =>
      rw [same]
      exact .new (Nat.le_refl _)
  | cloned was same =>
      rw [same]
      exact .new (tracked _ _ was).recorded.seen_le
  | called was idle fits same =>
      rw [same]
      exact (tracked receiver _ was).call idle fits
  | @stepped known accepts was goesOn same =>
      rw [same]
      exact (tracked receiver known was).step
        (fun inside => sound.slot_current guarded ((inside_receiver was).mpr inside)) accepts
  | cancelled was cancellable same =>
      rw [same]
      exact (tracked receiver _ was).cancel cancellable

/-- In every state reached with fewer than `2 ^ 63` publications, by induction on the run. -/
theorem tracked_reachable (reached : (machine Thread ReceiverId Value).Reachable channel)
    (few : channel.sends < 2 ^ 63)
    : channel.Tracked := by
  induction reached with
  | initial start =>
      obtain ⟨initial, receiver, rfl⟩ := start
      intro other known present
      cases receivers_channel present
      exact .new (Nat.zero_le _)
  | @step before event after reached step ih =>
      have fewer := (sends_le step).trans_lt few
      have sound := sound_reachable reached fewer
      have guarded := guards_reachable reached
      intro receiver known present
      exact (evolves step present).tracks (ih fewer) sound guarded (sound.advances few step)
        (fun inside => version_of_inside guarded inside step)

/-- The version a read marks as seen is that of the value it returns; the values one receiver
reads never go back in version; and once `changed` returned, with a version marked as seen, no
older value is read.
-/
theorem reads_in_order (reached : (machine Thread ReceiverId Value).Reachable channel)
    (few : channel.sends < 2 ^ 63) {receiver : ReceiverId} {known : Receiver Value}
    (present : channel.receivers receiver = some known)
    : (∀ value version,
          .read value (some version) ∈ known.history
          → version = value.version)
      ∧ known.values.Pairwise (fun earlier later => earlier.version ≤ later.version)
      ∧ known.history.Pairwise (fun earlier later =>
          ∀ seen value mark,
            earlier = .changed (.ok ()) seen
            → later = .read value mark
            → seen ≤ value.version) := by
  have recorded := (tracked_reachable reached few receiver known present).recorded
  refine ⟨recorded.marked, ?_, ?_⟩
  · refine recorded.ordered.filterMap _ (fun earlier later inOrder first isFirst second isSecond => ?_)
    cases earlier with
    | read value mark =>
        cases later with
        | read other mark' =>
            cases isFirst
            cases isSecond
            exact inOrder _ _ rfl _ rfl
        | marked version => cases isSecond
        | hasChanged is => cases isSecond
        | isClosed is => cases isSecond
        | changed result seen => cases isSecond
        | waited rejected result => cases isSecond
    | marked version => cases isFirst
    | hasChanged is => cases isFirst
    | isClosed is => cases isFirst
    | changed result seen => cases isFirst
    | waited rejected result => cases isFirst
  · refine recorded.ordered.imp ?_
    rintro _ _ inOrder seen value mark rfl rfl
    exact inOrder value mark rfl seen rfl

/-- A read of the initial value, a publication `changed` reports, and a read of it. -/
theorem reads_in_order_changed
    : ∃ known : Receiver Nat,
        known.history = [.read ⟨7, 0⟩ (some 0), .changed (.ok ()) 2, .read ⟨9, 2⟩ none]
        ∧ known.values.Pairwise (fun earlier later => earlier.version ≤ later.version) := by
  let receive (steps : Nat) : List (Event Unit Nat Nat) :=
    List.replicate steps (.receiveStep 0 false)
  let events : List (Event Unit Nat Nat) :=
    .call 0 .borrowAndUpdate :: receive 4 ++ .sendReplace () 9 :: List.replicate 5 (.sendStep ())
      ++ .call 0 .changed :: receive 1 ++ .call 0 .borrow :: receive 3
  have begins : (machine Unit Nat Nat).Reachable (Channel.channel 7 0) := .initial ⟨7, 0, rfl⟩
  have ran : ((machine Unit Nat Nat).execute (Channel.channel 7 0) events).map
      (fun run => (run.sends, (run.receivers 0).map Receiver.history))
      = some (1, some [.read ⟨7, 0⟩ (some 0), .changed (.ok ()) 2, .read ⟨9, 2⟩ none]) := by rfl
  obtain ⟨run, executed, result⟩ := Option.map_eq_some_iff.mp ran
  obtain ⟨sends, read⟩ := Prod.mk.inj result
  obtain ⟨known, present, history⟩ := Option.map_eq_some_iff.mp read
  have few : run.sends < 2 ^ 63 := by
    rw [sends]
    decide
  exact ⟨known, history, (reads_in_order (begins.execute events executed) few present).2.1⟩

/-- The end is told after the final version: `changed` returns `Closed` once it is the version
told of before, `wait_for` once `f` rejected its value, and a stream ends once it yielded it,
and then yields nothing more.
-/
theorem ends_after_final (reached : (machine Thread ReceiverId Value).Reachable channel)
    (few : channel.sends < 2 ^ 63) {receiver : ReceiverId} {known : Receiver Value}
    (present : channel.receivers receiver = some known)
    : (∀ before seen,
          before ++ [.changed (.error .closed) seen] <+: known.history
          → isClosed channel.state = true
            ∧ seen = versionOf channel.state
            ∧ Reported known.origin before seen)
      ∧ (∀ rejected,
          .waited rejected (.error .closed) ∈ known.history
          → isClosed channel.state = true
            ∧ ∃ final ∈ rejected.getLast?, final.version = versionOf channel.state)
      ∧ ∀ stream,
          known.stream = some stream
          → ∃ (yielded : List (Stored Value)) (ends : Nat),
              stream.items = yielded.map some ++ List.replicate ends none
              ∧ (0 < ends
                  → isClosed channel.state = true
                    ∧ ∃ final ∈ yielded.getLast?, final.version = versionOf channel.state) := by
  have tracks := tracked_reachable reached few receiver known present
  refine ⟨tracks.recorded.closed, tracks.recorded.waited, fun stream around => ?_⟩
  have streams := tracks.streams
  rw [around] at streams
  generalize known.phase = phase at streams
  cases streams with
  | first => exact ⟨[], 0, rfl, fun never => absurd never (Nat.lt_irrefl 0)⟩
  | @reading _ yielded _ =>
      exact ⟨yielded, 0, (List.append_nil _).symm, fun never => absurd never (Nat.lt_irrefl 0)⟩
  | @waiting _ yielded _ _ _ _ =>
      exact ⟨yielded, 0, (List.append_nil _).symm, fun never => absurd never (Nat.lt_irrefl 0)⟩
  | @done yielded last ends closed latest final =>
      exact ⟨yielded, ends, rfl, fun _ => ⟨closed, last, latest, final⟩⟩

/-- The sender is dropped: `changed` and `wait_for` of one receiver, and the stream around a
clone of it.
-/
theorem ends_after_final_dropped
    : ∃ (known : Receiver Nat) (stream : WatchStream Nat),
        known.history
          = [.changed (.error .closed) 0, .read ⟨7, 0⟩ (some 0), .changed (.error .closed) 0,
              .waited [⟨7, 0⟩] (.error .closed)]
        ∧ Reported known.origin ([] : List (Observation Nat)) 0
        ∧ stream.items = [some ⟨7, 0⟩, none]
        ∧ ∃ (yielded : List (Stored Nat)) (ends : Nat),
            stream.items = yielded.map some ++ List.replicate ends none := by
  let receive (receiver steps : Nat) : List (Event Unit Nat Nat) :=
    List.replicate steps (.receiveStep receiver false)
  let events : List (Event Unit Nat Nat) :=
    .clone 0 1 :: .call 1 .intoStream :: .call 1 .pollNext :: receive 1 4
      ++ .dropSender () :: List.replicate 2 (.sendStep ())
      ++ .call 0 .changed :: receive 0 1 ++ .call 0 .waitFor :: receive 0 6
      ++ .call 1 .pollNext :: receive 1 1
  let history : List (Observation Nat) :=
    [.changed (.error .closed) 0, .read ⟨7, 0⟩ (some 0), .changed (.error .closed) 0,
      .waited [⟨7, 0⟩] (.error .closed)]
  have begins : (machine Unit Nat Nat).Reachable (Channel.channel 7 0) := .initial ⟨7, 0, rfl⟩
  have ran : ((machine Unit Nat Nat).execute (Channel.channel 7 0) events).map
      (fun run => (run.sends, (run.receivers 0).map Receiver.history,
        (run.receivers 1).bind Receiver.stream))
      = some (0, some history, some ⟨.done, [some ⟨7, 0⟩, none]⟩) := by rfl
  obtain ⟨run, executed, result⟩ := Option.map_eq_some_iff.mp ran
  simp only [Prod.mk.injEq] at result
  obtain ⟨sends, observed, streamed⟩ := result
  obtain ⟨known, present, told⟩ := Option.map_eq_some_iff.mp observed
  obtain ⟨around, held, stream⟩ := Option.bind_eq_some_iff.mp streamed
  have few : run.sends < 2 ^ 63 := by
    rw [sends]
    decide
  have reached := begins.execute events executed
  have first : [] ++ [.changed (.error .closed) 0] <+: known.history := by
    rw [told]
    exact ⟨history.tail, rfl⟩
  obtain ⟨yielded, ends, items, _⟩ := (ends_after_final reached few held).2.2 _ stream
  exact ⟨known, _, told, ((ends_after_final reached few present).1 [] 0 first).2.2, rfl, yielded,
    ends, items⟩

end BoltLoad.Watch.Channel
