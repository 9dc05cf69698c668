import BoltLoad.Sync.WatchVersions

/-! What the receivers of the watch channel observe. A read marks the version of the value it
returns; what one receiver reads never goes back; and the end is only told to a receiver, or to
the reader of its stream, that was told of the final version before.
-/

namespace BoltLoad.Watch

variable {Thread ReceiverId Value : Type}

-----------------------------------------------------------------------------------------
-- Histories
-----------------------------------------------------------------------------------------

namespace Observation

/-- The version an observation is of. -/
def level : Observation Value → Option Nat
  | .read value _ => some value.version
  | .marked version => some version
  | .changed _ seen => some seen
  | _ => none

/-- The version an observation told the caller it has now seen. -/
def reports : Observation Value → Option Nat
  | .read _ mark => mark
  | .marked version => some version
  | .changed (.ok ()) seen => some seen
  | _ => none

/-- A read is of no older version than what was observed before it. -/
def InOrder (earlier later : Observation Value) : Prop :=
  ∀ value mark, later = .read value mark → ∀ level ∈ earlier.level, level ≤ value.version

end Observation

/-- What one receiver reads, in order. -/
def Receiver.values (receiver : Receiver Value) : List (Stored Value) :=
  receiver.history.filterMap (fun
    | .read value _ => some value
    | _ => none)

/-- The holder of a receiver knows that it has seen a version: the receiver was made so, or
told it since.
-/
def Reported (origin : Nat) (history : List (Observation Value)) (version : Nat) : Prop :=
  version = origin ∨ ∃ observation ∈ history, version ∈ observation.reports

/-- What a receiver may observe next, given what it observed before. -/
structure Observable (state origin : Nat) (history : List (Observation Value))
    (observation : Observation Value)
    : Prop where
  level_le : ∀ level ∈ observation.level, level ≤ versionOf state
  current
    : ∀ value mark,
        observation = .read value mark
        → value.version = versionOf state ∧ ∀ version ∈ mark, version = value.version
  closed
    : ∀ seen,
        observation = .changed (.error .closed) seen
        → isClosed state = true ∧ seen = versionOf state ∧ Reported origin history seen
  waited
    : ∀ rejected,
        observation = .waited rejected (.error .closed)
        → isClosed state = true ∧ ∃ final ∈ rejected.getLast?, final.version = versionOf state

/-- A receiver's history is sound: nothing in it is newer than the channel, reads are in order
and mark their own version, and the end only follows the final version.
-/
structure Recorded (state origin seen : Nat) (history : List (Observation Value)) : Prop where
  seen_le : seen ≤ versionOf state
  level_le : ∀ observation ∈ history, ∀ level ∈ observation.level, level ≤ versionOf state
  ordered : history.Pairwise Observation.InOrder
  marked : ∀ value version, .read value (some version) ∈ history → version = value.version
  closed
    : ∀ before seen,
        before ++ [.changed (.error .closed) seen] <+: history
        → isClosed state = true ∧ seen = versionOf state ∧ Reported origin before seen
  waited
    : ∀ rejected,
        .waited rejected (.error .closed) ∈ history
        → isClosed state = true ∧ ∃ final ∈ rejected.getLast?, final.version = versionOf state

namespace Observable

variable {state origin : Nat} {history : List (Observation Value)}

/-- A read of the latest value, that marks its version if any. -/
theorem read {value : Stored Value} {mark : Option Nat} (latest : value.version = versionOf state)
    (marked : ∀ version ∈ mark, version = value.version)
    : Observable state origin history (.read value mark) where
  level_le := by
    rintro _ ⟨⟩
    exact latest.le
  current := by
    rintro _ _ ⟨⟩
    exact ⟨latest, marked⟩
  closed := fun _ never => by cases never
  waited := fun _ never => by cases never

/-- A version marked as seen. -/
theorem marked {version : Nat} (known : version ≤ versionOf state)
    : Observable state origin history (.marked version) where
  level_le := by
    rintro _ ⟨⟩
    exact known
  current := fun _ _ never => by cases never
  closed := fun _ never => by cases never
  waited := fun _ never => by cases never

/-- A newer version, marked as seen. -/
theorem changed {seen : Nat} (known : seen ≤ versionOf state)
    : Observable state origin history (.changed (.ok ()) seen) where
  level_le := by
    rintro _ ⟨⟩
    exact known
  current := fun _ _ never => by cases never
  closed := fun _ never => by cases never
  waited := fun _ never => by cases never

/-- The end, once the final version was told of. -/
theorem ended {seen : Nat} (closed : isClosed state = true) (final : seen = versionOf state)
    (reported : Reported origin history seen)
    : Observable state origin history (.changed (.error .closed) seen) where
  level_le := by
    rintro _ ⟨⟩
    exact final.le
  current := fun _ _ never => by cases never
  closed := by
    rintro _ ⟨⟩
    exact ⟨closed, final, reported⟩
  waited := fun _ never => by cases never

/-- What `wait_for` returns: a value `f` accepted, or the end once it rejected the final one. -/
theorem returned {rejected : List (Stored Value)} {result : Except Closed (Stored Value)}
    (final
      : result = .error .closed
        → isClosed state = true ∧ ∃ final ∈ rejected.getLast?, final.version = versionOf state)
    : Observable state origin history (.waited rejected result) where
  level_le := fun _ never => by cases never
  current := fun _ _ never => by cases never
  closed := fun _ never => by cases never
  waited := by
    rintro _ ⟨⟩
    exact final rfl

theorem hasChanged (is : Bool)
    : Observable state origin history (.hasChanged is) where
  level_le := fun _ never => by cases never
  current := fun _ _ never => by cases never
  closed := fun _ never => by cases never
  waited := fun _ never => by cases never

theorem isClosed (is : Bool)
    : Observable state origin history (.isClosed is) where
  level_le := fun _ never => by cases never
  current := fun _ _ never => by cases never
  closed := fun _ never => by cases never
  waited := fun _ never => by cases never

end Observable

theorem Reported.append {origin version : Nat} {history : List (Observation Value)}
    (reported : Reported origin history version) (observation : Observation Value)
    : Reported origin (history ++ [observation]) version :=
  reported.imp_right (fun ⟨told, inside, reports⟩ =>
    ⟨told, List.mem_append_left _ inside, reports⟩)

theorem Reported.told {origin version : Nat} {history : List (Observation Value)}
    {observation : Observation Value} (reports : version ∈ observation.reports)
    : Reported origin (history ++ [observation]) version :=
  .inr ⟨observation, List.mem_append_right _ (List.mem_singleton_self _), reports⟩

namespace Recorded

variable {state origin seen : Nat} {history : List (Observation Value)}

theorem new (seen_le : seen ≤ versionOf state)
    : Recorded state origin seen ([] : List (Observation Value)) where
  seen_le := seen_le
  level_le := fun _ never => by cases never
  ordered := .nil
  marked := fun _ _ never => by cases never
  closed := fun before seen never => by
    have empty := List.prefix_nil.mp never
    exact absurd empty (by simp)
  waited := fun _ never => by cases never

/-- Another version is marked as seen. -/
theorem marks {later : Nat} (recorded : Recorded state origin seen history)
    (seen_le : later ≤ versionOf state)
    : Recorded state origin later history :=
  { recorded with seen_le }

/-- The channel goes on. -/
theorem advance {after : Nat} (recorded : Recorded state origin seen history)
    (advances : Advances state after)
    : Recorded after origin seen history where
  seen_le := recorded.seen_le.trans advances.version_le
  level_le := fun observation inside level known =>
    (recorded.level_le observation inside level known).trans advances.version_le
  ordered := recorded.ordered
  marked := recorded.marked
  closed := by
    intro before seen ended
    obtain ⟨closed, final, reported⟩ := recorded.closed before seen ended
    obtain ⟨same, still⟩ := advances.final closed
    exact ⟨still, final.trans same.symm, reported⟩
  waited := by
    intro rejected ended
    obtain ⟨closed, final, latest, version⟩ := recorded.waited rejected ended
    obtain ⟨same, still⟩ := advances.final closed
    exact ⟨still, final, latest, version.trans same.symm⟩

/-- The receiver observes something. -/
theorem observe {observation : Observation Value} (recorded : Recorded state origin seen history)
    (observable : Observable state origin history observation)
    : Recorded state origin seen (history ++ [observation]) := by
  constructor
  case seen_le => exact recorded.seen_le
  case level_le =>
    intro known inside
    rcases List.mem_append.mp inside with earlier | last
    · exact recorded.level_le known earlier
    · cases List.mem_singleton.mp last
      exact observable.level_le
  case ordered =>
    refine List.pairwise_append.mpr ⟨recorded.ordered, List.pairwise_singleton _ _, ?_⟩
    intro earlier inside later last value mark same level known
    cases List.mem_singleton.mp last
    rw [(observable.current value mark same).1]
    exact recorded.level_le earlier inside level known
  case marked =>
    intro value version inside
    rcases List.mem_append.mp inside with earlier | last
    · exact recorded.marked value version earlier
    · exact (observable.current value _ (List.mem_singleton.mp last).symm).2 version rfl
  case closed =>
    intro before known ended
    rcases List.prefix_concat_iff.mp ended with last | earlier
    · obtain ⟨same, ends⟩ := List.append_inj' last rfl
      rw [same]
      exact observable.closed known (List.singleton_inj.mp ends).symm
    · exact recorded.closed before known earlier
  case waited =>
    intro rejected inside
    rcases List.mem_append.mp inside with earlier | last
    · exact recorded.waited rejected earlier
    · exact observable.waited rejected (List.mem_singleton.mp last).symm

end Recorded

-----------------------------------------------------------------------------------------
-- What a receiver is about to do
-----------------------------------------------------------------------------------------

/-- How the version marked as seen stands to what the receiver is about to do. -/
def ReceivePhase.Agrees (state seen : Nat) : ReceivePhase Value → Prop
  | .loading reading => reading ≠ .borrow
  | .cloning reading => reading ≠ .borrow → seen = versionOf state
  | .unlocking reading read => reading ≠ .borrow → read.version = seen
  | .testing _ read => read.version = seen
  | .checking (.waitFor rejected) => ∃ last ∈ rejected.getLast?, last.version = seen
  | .listening (.waitFor rejected) => ∃ last ∈ rejected.getLast?, last.version = seen
  | _ => True

/-- The holder was told of the version marked as seen; it is not between the mark and the read
that tells of it.
-/
def ReceivePhase.settled : ReceivePhase Value → Bool
  | .locking .borrow => true
  | .locking _ => false
  | .loading _ => false
  | .cloning .borrow => true
  | .cloning _ => false
  | _ => true

/-- `poll_next` is reading the slot. -/
def ReceivePhase.readsNext : ReceivePhase Value → Bool
  | .locking .pollNext => true
  | .loading .pollNext => true
  | .cloning .pollNext => true
  | .unlocking .pollNext _ => true
  | _ => false

/-- The stream is between two polls, or `poll_next` is waiting for a newer version. -/
def ReceivePhase.waitsNext : ReceivePhase Value → Bool
  | .idle => true
  | .checking .pollNext => true
  | .listening .pollNext => true
  | _ => false

/-- What a stream's polls returned once ready: values, of which the last is the one marked as
seen, and after the final one only ends.
-/
inductive Streams (state seen : Nat) : ReceivePhase Value → Option (WatchStream Value) → Prop
  | receiver {phase} : Streams state seen phase none
  | first : Streams state seen .idle (some ⟨.first, []⟩)
  | reading {phase} {yielded : List (Stored Value)} (reads : phase.readsNext = true)
    : Streams state seen phase (some ⟨.waiting, yielded.map some⟩)
  | waiting {phase} {yielded : List (Stored Value)} {last} (waits : phase.waitsNext = true)
    (latest : last ∈ yielded.getLast?) (same : last.version = seen)
    : Streams state seen phase (some ⟨.waiting, yielded.map some⟩)
  | done {yielded : List (Stored Value)} {last} {ends : Nat} (closed : isClosed state = true)
    (latest : last ∈ yielded.getLast?) (final : last.version = versionOf state)
    : Streams state seen .idle (some ⟨.done, yielded.map some ++ List.replicate ends none⟩)

namespace Streams

variable {state seen : Nat} {phase : ReceivePhase Value} {stream : Option (WatchStream Value)}

/-- The channel goes on. -/
theorem advance {after : Nat} (streams : Streams state seen phase stream)
    (advances : Advances state after)
    : Streams after seen phase stream := by
  cases streams with
  | receiver => exact .receiver
  | first => exact .first
  | reading reads => exact .reading reads
  | waiting waits latest same => exact .waiting waits latest same
  | done closed latest final =>
      obtain ⟨same, still⟩ := advances.final closed
      exact .done still latest (final.trans same.symm)

/-- A receiver doing anything else has no stream around it. -/
theorem plain (streams : Streams state seen phase stream) (reads : phase.readsNext = false)
    (waits : phase.waitsNext = false)
    : stream = none := by
  cases streams with
  | receiver => rfl
  | first => cases waits
  | reading reads' => cases reads.symm.trans reads'
  | waiting waits' _ _ => cases waits.symm.trans waits'
  | done _ _ _ => cases waits

/-- A read of the slot goes on. -/
theorem reads {later : Nat} {next : ReceivePhase Value}
    (streams : Streams state seen phase stream) (waits : phase.waitsNext = false)
    (same : next.readsNext = phase.readsNext)
    : Streams state later next stream := by
  cases streams with
  | receiver => exact .receiver
  | first => cases waits
  | reading reads => exact .reading (same.trans reads)
  | waiting waits' _ _ => cases waits.symm.trans waits'
  | done _ _ _ => cases waits

/-- A wait for a newer version goes on. -/
theorem waits {next : ReceivePhase Value} (streams : Streams state seen phase stream)
    (reads : phase.readsNext = false) (busy : phase ≠ .idle)
    (same : next.waitsNext = phase.waitsNext)
    : Streams state seen next stream := by
  cases streams with
  | receiver => exact .receiver
  | first => exact absurd rfl busy
  | reading reads' => cases reads.symm.trans reads'
  | waiting waits latest known => exact .waiting (same.trans waits) latest known
  | done _ _ _ => exact absurd rfl busy

end Streams

/-- A receiver keeps track of the channel. -/
structure Receiver.Tracks (state : Nat) (receiver : Receiver Value) : Prop where
  recorded : Recorded state receiver.origin receiver.seen receiver.history
  reported
    : receiver.phase.settled = true
      → Reported receiver.origin receiver.history receiver.seen
  agrees : receiver.phase.Agrees state receiver.seen
  streams : Streams state receiver.seen receiver.phase receiver.stream

namespace Receiver.Tracks

variable {state : Nat} {receiver : Receiver Value}

/-- A receiver made now has seen the version it is made with. -/
theorem new {seen : Nat} (seen_le : seen ≤ versionOf state)
    : (Receiver.new seen : Receiver Value).Tracks state where
  recorded := .new seen_le
  reported := fun _ => .inl rfl
  agrees := trivial
  streams := .receiver

/-- The channel goes on, without the receiver. -/
theorem advance {after : Nat} (tracks : receiver.Tracks state)
    (advances : Advances state after)
    (still : receiver.phase.holdsLock = true → versionOf after = versionOf state)
    : receiver.Tracks after where
  recorded := tracks.recorded.advance advances
  reported := tracks.reported
  agrees := by
    have agrees := tracks.agrees
    cases phase : receiver.phase with
    | cloning reading =>
        rw [phase] at agrees still
        exact fun marks => (agrees marks).trans (still rfl).symm
    | checking waiting =>
        rw [phase] at agrees
        cases waiting <;> exact agrees
    | listening waiting =>
        rw [phase] at agrees
        cases waiting <;> exact agrees
    | loading reading =>
        rw [phase] at agrees
        exact agrees
    | unlocking reading read =>
        rw [phase] at agrees
        exact agrees
    | testing rejected read =>
        rw [phase] at agrees
        exact agrees
    | idle => trivial
    | locking reading => trivial
  streams := tracks.streams.advance advances

/-- A notification does not concern what the receiver observed. -/
theorem notify (tracks : receiver.Tracks state)
    : receiver.notify.Tracks state :=
  ⟨tracks.recorded, tracks.reported, tracks.agrees, tracks.streams⟩

/-- A read of the slot returns to its caller. -/
theorem reads {reading : Reading Value} {read : Stored Value} (tracks : receiver.Tracks state)
    (unlocking : receiver.phase = .unlocking reading read)
    : (receiver.reads read reading).Tracks state := by
  have agrees := tracks.agrees
  have reported := tracks.reported
  have streams := tracks.streams
  rw [unlocking] at agrees reported streams
  have settled := reported rfl
  cases reading with
  | borrow =>
      refine ⟨tracks.recorded, fun _ => settled, trivial, ?_⟩
      change Streams state receiver.seen .idle receiver.stream
      rw [streams.plain rfl rfl]
      exact .receiver
  | borrowAndUpdate =>
      refine ⟨tracks.recorded, fun _ => settled, trivial, ?_⟩
      change Streams state receiver.seen .idle receiver.stream
      rw [streams.plain rfl rfl]
      exact .receiver
  | waitFor rejected =>
      refine ⟨tracks.recorded, fun _ => settled, agrees (fun never => by cases never), ?_⟩
      change Streams state receiver.seen (.testing rejected read) receiver.stream
      rw [streams.plain rfl rfl]
      exact .receiver
  | pollNext =>
      refine ⟨tracks.recorded, fun _ => settled, trivial, ?_⟩
      have version := agrees (fun never => by cases never)
      change Streams state receiver.seen .idle (receiver.stream.map _)
      generalize receiver.stream = stream at streams ⊢
      cases streams with
      | receiver => exact .receiver
      | @reading _ yielded _ =>
          have one : yielded.map some ++ [some read] = (yielded ++ [read]).map some := by
            rw [List.map_append]
            rfl
          simp only [Option.map_some, one]
          exact .waiting rfl (List.getLast?_concat) version
      | waiting waits _ _ => cases waits

/-- A newer version was found. -/
theorem news {waiting : Waiting Value} (tracks : receiver.Tracks state)
    (checking : receiver.phase = .checking waiting)
    : Tracks state ({ receiver with seen := versionOf state, listener := none }.news waiting) := by
  have streams := tracks.streams
  rw [checking] at streams
  have marked := tracks.recorded.marks (Nat.le_refl (versionOf state))
  have told := marked.observe (.changed (Nat.le_refl (versionOf state)))
  cases waiting with
  | changed =>
      refine ⟨told, fun _ => .told rfl, trivial, ?_⟩
      change Streams state (versionOf state) .idle receiver.stream
      rw [streams.plain rfl rfl]
      exact .receiver
  | waitFor rejected =>
      refine ⟨told, (fun never => by cases never), trivial, ?_⟩
      change Streams state (versionOf state) (.locking (.waitFor rejected)) receiver.stream
      rw [streams.plain rfl rfl]
      exact .receiver
  | pollNext =>
      refine ⟨marked, (fun never => by cases never), trivial, ?_⟩
      change Streams state (versionOf state) (.locking .pollNext) receiver.stream
      generalize receiver.stream = stream at streams ⊢
      cases streams with
      | receiver => exact .receiver
      | reading reads => cases reads
      | waiting _ _ _ => exact .reading rfl

/-- The end was found, with no newer version. -/
theorem ends {waiting : Waiting Value} (tracks : receiver.Tracks state)
    (checking : receiver.phase = .checking waiting) (final : versionOf state = receiver.seen)
    (closed : isClosed state = true)
    : Tracks state ({ receiver with listener := none }.ends waiting) := by
  have agrees := tracks.agrees
  have streams := tracks.streams
  have reported := tracks.reported
  rw [checking] at agrees streams reported
  have settled := reported rfl
  have told := tracks.recorded.observe (.ended closed final.symm settled)
  cases waiting with
  | changed =>
      refine ⟨told, fun _ => settled.append _, trivial, ?_⟩
      change Streams state receiver.seen .idle receiver.stream
      rw [streams.plain rfl rfl]
      exact .receiver
  | waitFor rejected =>
      obtain ⟨last, latest, version⟩ := agrees
      have final : ∃ final ∈ rejected.getLast?, final.version = versionOf state :=
        ⟨last, latest, version.trans final.symm⟩
      refine ⟨told.observe (.returned (fun _ => ⟨closed, final⟩)), fun _ => (settled.append _).append _, trivial, ?_⟩
      change Streams state receiver.seen .idle receiver.stream
      rw [streams.plain rfl rfl]
      exact .receiver
  | pollNext =>
      refine ⟨tracks.recorded, fun _ => settled, trivial, ?_⟩
      change Streams state receiver.seen .idle ((receiver.stream.map _).map _)
      generalize receiver.stream = stream at streams ⊢
      cases streams with
      | receiver => exact .receiver
      | reading reads => cases reads
      | waiting _ latest same =>
          change Streams state _ _ (some ⟨.done, _ ++ List.replicate 1 none⟩)
          exact .done closed latest (same.trans final.symm)

/-- Every step of the receiver. -/
theorem step {slot : Stored Value} (tracks : receiver.Tracks state)
    (current : receiver.phase.holdsLock = true → slot.version = versionOf state) (accepts : Bool)
    : (receiver.step slot state accepts).Tracks state := by
  have agrees := tracks.agrees
  have reported := tracks.reported
  have streams := tracks.streams
  cases phase : receiver.phase with
  | idle =>
      simp only [Receiver.step, phase]
      exact tracks
  | locking reading =>
      rw [phase] at reported streams
      cases reading with
      | borrow =>
          simp only [Receiver.step, phase]
          exact ⟨tracks.recorded, fun _ => reported rfl, fun never => absurd rfl never,
            streams.reads rfl rfl⟩
      | borrowAndUpdate =>
          simp only [Receiver.step, phase]
          exact ⟨tracks.recorded, (fun never => by cases never), (fun never => by cases never),
            streams.reads rfl rfl⟩
      | waitFor rejected =>
          simp only [Receiver.step, phase]
          exact ⟨tracks.recorded, (fun never => by cases never), (fun never => by cases never),
            streams.reads rfl rfl⟩
      | pollNext =>
          simp only [Receiver.step, phase]
          exact ⟨tracks.recorded, (fun never => by cases never), (fun never => by cases never),
            streams.reads rfl rfl⟩
  | loading reading =>
      rw [phase] at agrees streams
      simp only [Receiver.step, phase]
      refine ⟨tracks.recorded.marks (Nat.le_refl _), ?_, fun _ => rfl, streams.reads rfl ?_⟩
      · intro settled
        cases reading with
        | borrow => exact absurd rfl agrees
        | borrowAndUpdate => cases settled
        | waitFor rejected => cases settled
        | pollNext => cases settled
      · cases reading <;> rfl
  | cloning reading =>
      rw [phase] at agrees reported streams current
      have latest := current rfl
      have marks : ∀ version ∈ reading.marks receiver.seen, version = slot.version := by
        intro version marked
        cases reading with
        | borrow => cases marked
        | borrowAndUpdate =>
            cases marked
            exact (agrees (fun never => by cases never)).trans latest.symm
        | waitFor rejected =>
            cases marked
            exact (agrees (fun never => by cases never)).trans latest.symm
        | pollNext =>
            cases marked
            exact (agrees (fun never => by cases never)).trans latest.symm
      simp only [Receiver.step, phase]
      refine ⟨tracks.recorded.observe (.read latest marks), fun _ => ?_, ?_, streams.reads rfl ?_⟩
      · cases reading with
        | borrow => exact (reported rfl).append _
        | borrowAndUpdate => exact .told rfl
        | waitFor rejected => exact .told rfl
        | pollNext => exact .told rfl
      · exact fun marking => latest.trans (agrees marking).symm
      · cases reading <;> rfl
  | unlocking reading read =>
      simp only [Receiver.step, phase]
      exact tracks.reads phase
  | testing rejected read =>
      rw [phase] at agrees reported streams
      simp only [Receiver.step, phase]
      split
      · refine ⟨tracks.recorded.observe (.returned (fun never => by cases never)),
          fun _ => (reported rfl).append _, trivial, ?_⟩
        change Streams state receiver.seen .idle receiver.stream
        rw [streams.plain rfl rfl]
        exact .receiver
      · refine ⟨tracks.recorded, fun _ => reported rfl, ⟨read, List.getLast?_concat, agrees⟩, ?_⟩
        change Streams state receiver.seen (.checking (.waitFor _)) receiver.stream
        rw [streams.plain rfl rfl]
        exact .receiver
  | checking waiting =>
      rcases step_checking phase slot state accepts with
          ⟨_, found⟩ | ⟨same, closed, found⟩ | ⟨_, _, found⟩
      · rw [found]
        exact tracks.news phase
      · rw [found]
        exact tracks.ends phase same closed
      · rw [phase] at agrees reported streams
        rw [found]
        refine ⟨tracks.recorded, fun _ => reported rfl, ?_, ?_⟩
        · cases waiting <;> exact agrees
        · refine streams.waits ?_ (fun never => by cases never) ?_ <;> cases waiting <;> rfl
  | listening waiting =>
      rw [phase] at agrees reported streams
      have checks (listener : Option Bool)
          : Tracks state { receiver with listener, phase := .checking waiting } := by
        refine ⟨tracks.recorded, fun _ => reported rfl, ?_, ?_⟩
        · cases waiting <;> exact agrees
        · refine streams.waits ?_ (fun never => by cases never) ?_ <;> cases waiting <;> rfl
      simp only [Receiver.step, phase]
      split
      · exact checks (some false)
      · exact checks none
      · exact ⟨tracks.recorded, fun _ => reported rfl, trivial,
          streams.waits rfl (fun never => by cases never) rfl⟩
      · exact tracks

/-- Every call of the receiver, or of the stream around it. -/
theorem call {call : Call} (tracks : receiver.Tracks state) (idle : receiver.phase = .idle)
    (fits : receiver.stream.isSome = call.ofStream)
    : (receiver.call state call).Tracks state := by
  have reported := tracks.reported
  have streams := tracks.streams
  rw [idle] at reported streams
  have settled := reported rfl
  have moves {phase : ReceivePhase Value} (outside : call.ofStream = false)
      (agrees : phase.Agrees state receiver.seen)
      : Tracks state { receiver with phase } := by
    refine ⟨tracks.recorded, fun _ => settled, agrees, ?_⟩
    have none : receiver.stream = none := by
      rw [outside] at fits
      exact Option.not_isSome_iff_eq_none.mp (by rw [fits]; exact Bool.false_ne_true)
    change Streams state receiver.seen phase receiver.stream
    rw [none]
    exact .receiver
  cases call with
  | borrow => exact moves rfl trivial
  | borrowAndUpdate => exact moves rfl trivial
  | changed => exact moves rfl trivial
  | waitFor => exact moves rfl trivial
  | hasChanged =>
      exact ⟨tracks.recorded.observe (.hasChanged _), fun _ => settled.append _, tracks.agrees,
        tracks.streams⟩
  | isClosed =>
      exact ⟨tracks.recorded.observe (.isClosed _), fun _ => settled.append _, tracks.agrees,
        tracks.streams⟩
  | markUnchanged =>
      have marked := tracks.recorded.marks (Nat.le_refl (versionOf state))
      refine ⟨marked.observe (.marked (Nat.le_refl _)), fun _ => .told rfl, ?_, ?_⟩
      · change receiver.phase.Agrees state (versionOf state)
        rw [idle]
        trivial
      · have none : receiver.stream = none :=
          Option.not_isSome_iff_eq_none.mp (by rw [fits]; exact Bool.false_ne_true)
        change Streams state (versionOf state) receiver.phase receiver.stream
        rw [none]
        exact .receiver
  | intoStream =>
      refine ⟨tracks.recorded, tracks.reported, tracks.agrees, ?_⟩
      change Streams state receiver.seen receiver.phase (some ⟨.first, []⟩)
      rw [idle]
      exact .first
  | intoInner => exact ⟨tracks.recorded, tracks.reported, tracks.agrees, .receiver⟩
  | pollNext =>
      simp only [Receiver.call]
      cases known : receiver.stream with
      | none =>
          rw [known] at fits
          cases fits
      | some stream =>
          rw [known] at streams
          cases streams with
          | first =>
              refine ⟨tracks.recorded, (fun never => by cases never), trivial, ?_⟩
              change Streams state receiver.seen (.locking .pollNext) (receiver.stream.map _)
              rw [known]
              change Streams state _ _ (some ⟨.waiting, ([] : List (Stored Value)).map some⟩)
              exact .reading rfl
          | reading reads => cases reads
          | waiting waits latest same =>
              exact ⟨tracks.recorded, fun _ => settled, trivial, .waiting rfl latest same⟩
          | @done yielded _ ends closed latest final =>
              refine ⟨tracks.recorded, fun _ => settled, trivial, ?_⟩
              change Streams state receiver.seen .idle (receiver.stream.map _)
              rw [known]
              simp only [Option.map_some, List.append_assoc, ← List.replicate_succ']
              exact .done closed latest final

/-- The receiver's future is dropped. -/
theorem cancel (tracks : receiver.Tracks state) (cancellable : receiver.cancellable = true)
    : receiver.cancel.Tracks state := by
  have reported := tracks.reported
  have streams := tracks.streams
  have plain : receiver.phase.settled = true ∧ receiver.stream = none := by
    unfold Receiver.cancellable at cancellable
    cases phase : receiver.phase with
    | testing rejected read =>
        rw [phase] at streams
        exact ⟨rfl, streams.plain rfl rfl⟩
    | listening waiting =>
        rw [phase] at streams cancellable
        cases waiting with
        | changed => exact ⟨rfl, streams.plain rfl rfl⟩
        | waitFor rejected => exact ⟨rfl, streams.plain rfl rfl⟩
        | pollNext => cases cancellable
    | idle => rw [phase] at cancellable; cases cancellable
    | locking reading => rw [phase] at cancellable; cases cancellable
    | loading reading => rw [phase] at cancellable; cases cancellable
    | cloning reading => rw [phase] at cancellable; cases cancellable
    | unlocking reading read => rw [phase] at cancellable; cases cancellable
    | checking waiting => rw [phase] at cancellable; cases cancellable
  refine ⟨tracks.recorded, fun _ => reported plain.1, trivial, ?_⟩
  change Streams state receiver.seen .idle receiver.stream
  rw [plain.2]
  exact .receiver

end Receiver.Tracks

end BoltLoad.Watch
