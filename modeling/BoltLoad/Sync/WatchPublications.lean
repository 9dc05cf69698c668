import BoltLoad.Sync.WatchRuns

/-! The watch channel against a log of its values. Every publication appends one value to the
log and returns the one before it; no two publications have the same place in it; and every
read returns the value the log has at the read's version.
-/

namespace BoltLoad.Watch

variable {Thread ReceiverId Value : Type}

/-- The log has the value at its version. -/
def Logged (log : List Value) (stored : Stored Value) : Prop :=
  ∃ index, stored.version = versionStep * index ∧ log[index]? = some stored.value

/-- What a call of the sender returned is in the log: a publication next to the value before. -/
def SenderAnswer.Logged (log : List Value) : SenderAnswer Value → Prop
  | .replaced previous published =>
      Watch.Logged log previous
      ∧ Watch.Logged log published
      ∧ previous.version + versionStep = published.version
  | .borrowed current => Watch.Logged log current

/-- What a thread holds is in the log. -/
def SendPhase.Logged (log : List Value) : SendPhase Value → Prop
  | .replacing published => Watch.Logged log published
  | .unlocking answer => answer.Logged log
  | .notifying (some answer) => answer.Logged log
  | _ => True

/-- The value a call of the sender published. -/
def SenderAnswer.published : SenderAnswer Value → Option (Stored Value)
  | .replaced _ published => some published
  | .borrowed _ => none

/-- The value a thread counted the state up for. -/
def SendPhase.published : SendPhase Value → Option (Stored Value)
  | .replacing published => some published
  | .unlocking answer => answer.published
  | .notifying (some answer) => answer.published
  | _ => none

namespace Logged

variable {log : List Value} {stored : Stored Value}

/-- Logged values stay where they are. -/
theorem append (logged : Logged log stored) (value : Value)
    : Logged (log ++ [value]) stored := by
  obtain ⟨index, version, there⟩ := logged
  have short := (List.getElem?_eq_some_iff.mp there).1
  exact ⟨index, version, by rw [List.getElem?_append_left short, there]⟩

theorem last (log : List Value) (value : Value)
    : Logged (log ++ [value]) ⟨value, versionStep * log.length⟩ :=
  ⟨log.length, rfl, List.getElem?_concat_length⟩

theorem version_lt (logged : Logged log stored)
    : stored.version < versionStep * log.length := by
  obtain ⟨index, version, there⟩ := logged
  have short := (List.getElem?_eq_some_iff.mp there).1
  rw [version]
  exact Nat.mul_lt_mul_of_pos_left short (by decide)

end Logged

theorem SenderAnswer.Logged.append {log : List Value} {answer : SenderAnswer Value}
    (logged : answer.Logged log) (value : Value)
    : answer.Logged (log ++ [value]) := by
  cases answer with
  | replaced previous published =>
      exact ⟨logged.1.append value, logged.2.1.append value, logged.2.2⟩
  | borrowed current => exact Watch.Logged.append logged value

/-- A published value is in the log. -/
theorem SenderAnswer.Logged.of_published {log : List Value} {answer : SenderAnswer Value}
    {published : Stored Value} (logged : answer.Logged log) (of : published ∈ answer.published)
    : Watch.Logged log published := by
  cases answer with
  | replaced previous other =>
      cases of
      exact logged.2.1
  | borrowed current => cases of

namespace SendPhase

variable {log : List Value} {phase : SendPhase Value}

theorem Logged.append (logged : phase.Logged log) (value : Value)
    : phase.Logged (log ++ [value]) := by
  cases phase with
  | replacing published => exact Watch.Logged.append logged value
  | unlocking answer => exact SenderAnswer.Logged.append logged value
  | notifying answer =>
      cases answer with
      | none => trivial
      | some answer => exact SenderAnswer.Logged.append logged value
  | idle => trivial
  | publishing other => trivial
  | borrowing => trivial
  | bumping other => trivial
  | cloning => trivial
  | closing => trivial

theorem Logged.of_published {published : Stored Value} (logged : phase.Logged log)
    (of : published ∈ phase.published)
    : Watch.Logged log published := by
  cases phase with
  | replacing other =>
      cases of
      exact logged
  | unlocking answer => exact SenderAnswer.Logged.of_published logged of
  | notifying answer =>
      cases answer with
      | none => cases of
      | some answer => exact SenderAnswer.Logged.of_published logged of
  | idle => cases of
  | publishing other => cases of
  | borrowing => cases of
  | bumping other => cases of
  | cloning => cases of
  | closing => cases of

end SendPhase

-----------------------------------------------------------------------------------------
-- One publication for each place in the log
-----------------------------------------------------------------------------------------

/-- Every version up to the latest was published once: by a thread whose call goes on, or by a
call that returned.
-/
structure Once (publishing : Thread → Option (Stored Value))
    (returned : List (SenderAnswer Value)) (sends : Nat)
    : Prop where
  threads
    : ∀ thread other,
        ∀ published ∈ publishing thread,
        ∀ value ∈ publishing other,
        published.version = value.version
        → thread = other
  pending
    : ∀ thread,
        ∀ published ∈ publishing thread,
        ∀ answer ∈ returned,
        ∀ value ∈ answer.published,
        value.version ≠ published.version
  past
    : returned.Pairwise (fun earlier later =>
        ∀ published ∈ earlier.published,
        ∀ value ∈ later.published,
        published.version ≠ value.version)
  every
    : ∀ index,
        0 < index
        → index ≤ sends
        → (∃ thread, ∃ published ∈ publishing thread, published.version = versionStep * index)
          ∨ ∃ answer ∈ returned,
              ∃ published ∈ answer.published, published.version = versionStep * index

namespace Once

variable {publishing : Thread → Option (Stored Value)} {returned : List (SenderAnswer Value)}
  {sends : Nat}

theorem begins : Once (fun _ : Thread => (none : Option (Stored Value))) [] 0 where
  threads := fun _ _ _ never => by cases never
  pending := fun _ _ never => by cases never
  past := .nil
  every := fun _ positive none => absurd positive (Nat.not_lt.mpr none)

variable [DecidableEq Thread] {thread : Thread}

/-- A thread publishes the version after the latest. -/
theorem publishes {value : Value} (once : Once publishing returned sends)
    (none : publishing thread = none)
    (pending : ∀ other, ∀ published ∈ publishing other, published.version ≤ versionStep * sends)
    (past
      : ∀ answer ∈ returned,
          ∀ published ∈ answer.published,
          published.version ≤ versionStep * sends)
    : Once (Function.update publishing thread (some ⟨value, versionStep * (sends + 1)⟩))
        returned (sends + 1) := by
  have cases' (other : Thread) (published : Stored Value)
      (publishes
        : published ∈ Function.update publishing thread
            (some ⟨value, versionStep * (sends + 1)⟩) other)
      : other = thread ∧ published.version = versionStep * (sends + 1)
        ∨ other ≠ thread ∧ published ∈ publishing other := by
    by_cases here : other = thread
    · rw [here, Function.update_self] at publishes
      cases publishes
      exact .inl ⟨here, rfl⟩
    · rw [Function.update_of_ne here] at publishes
      exact .inr ⟨here, publishes⟩
  have newer : versionStep * sends < versionStep * (sends + 1) :=
    Nat.mul_lt_mul_of_pos_left (Nat.lt_succ_self sends) (by decide)
  constructor
  case threads =>
    intro first second published publishes value' publishes' same
    rcases cases' first published publishes with ⟨rfl, latest⟩ | ⟨_, known⟩
    · rcases cases' second value' publishes' with ⟨rfl, _⟩ | ⟨_, known'⟩
      · rfl
      · have bound := pending second value' known'
        omega
    · rcases cases' second value' publishes' with ⟨rfl, latest'⟩ | ⟨_, known'⟩
      · have bound := pending first published known
        omega
      · exact once.threads first second published known value' known' same
  case pending =>
    intro other published publishes answer inside value' of same
    rcases cases' other published publishes with ⟨_, latest⟩ | ⟨_, known⟩
    · have bound := past answer inside value' of
      omega
    · exact once.pending other published known answer inside value' of same
  case past => exact once.past
  case every =>
    intro index positive upTo
    rcases Nat.lt_or_ge sends index with beyond | earlier
    · have latest : index = sends + 1 := Nat.le_antisymm upTo beyond
      exact .inl ⟨thread, _, by rw [Function.update_self]; rfl, by rw [latest]⟩
    · refine (once.every index positive earlier).imp_left ?_
      rintro ⟨other, published, publishes, version⟩
      have apart : other ≠ thread := by
        rintro rfl
        rw [none] at publishes
        cases publishes
      exact ⟨other, published, by rwa [Function.update_of_ne apart], version⟩

/-- A call of the sender returns. -/
theorem returns {answer : SenderAnswer Value} (once : Once publishing returned sends)
    (same : answer.published = publishing thread)
    : Once (Function.update publishing thread none) (returned ++ [answer]) sends := by
  have others {other : Thread} {published : Stored Value}
      (publishes : published ∈ Function.update publishing thread none other)
      : other ≠ thread ∧ published ∈ publishing other := by
    by_cases here : other = thread
    · rw [here, Function.update_self] at publishes
      cases publishes
    · rw [Function.update_of_ne here] at publishes
      exact ⟨here, publishes⟩
  constructor
  case threads =>
    intro first second published publishes value publishes' same
    exact once.threads first second published (others publishes).2 value (others publishes').2 same
  case pending =>
    intro other published publishes answer' inside value of version
    obtain ⟨apart, known⟩ := others publishes
    rcases List.mem_append.mp inside with earlier | last
    · exact once.pending other published known answer' earlier value of version
    · cases List.mem_singleton.mp last
      rw [same] at of
      exact apart (once.threads other thread published known value of version.symm)
  case past =>
    refine List.pairwise_append.mpr ⟨once.past, List.pairwise_singleton _ _, ?_⟩
    intro earlier inside later last published of value of'
    cases List.mem_singleton.mp last
    rw [same] at of'
    exact once.pending thread value of' earlier inside published of
  case every =>
    intro index positive upTo
    rcases once.every index positive upTo with
        ⟨other, published, publishes, version⟩ | ⟨earlier, inside, known⟩
    · by_cases here : other = thread
      · right
        refine ⟨answer, List.mem_append_right _ (List.mem_singleton_self _), published, ?_, version⟩
        rw [same, ← here]
        exact publishes
      · exact .inl ⟨other, published, by rwa [Function.update_of_ne here], version⟩
    · exact .inr ⟨earlier, List.mem_append_left _ inside, known⟩

/-- A thread goes on with what it publishes. -/
theorem goesOn {phases : Thread → SendPhase Value} {phase : SendPhase Value}
    (once : Once (fun other => (phases other).published) returned sends)
    (same : phase.published = (phases thread).published)
    : Once (fun other => (Function.update phases thread phase other).published) returned sends := by
  have unchanged
      : (fun other => (Function.update phases thread phase other).published)
        = fun other => (phases other).published := by
    funext other
    by_cases here : other = thread
    · rw [here, Function.update_self, same]
    · rw [Function.update_of_ne here]
  rw [unchanged]
  exact once

end Once

/-- What a phase publishes is what the thread does. -/
theorem published_update [DecidableEq Thread] (phases : Thread → SendPhase Value)
    (thread : Thread) (phase : SendPhase Value)
    : (fun other => (Function.update phases thread phase other).published)
      = Function.update (fun other => (phases other).published) thread phase.published := by
  funext other
  by_cases here : other = thread
  · rw [here, Function.update_self, Function.update_self]
  · rw [Function.update_of_ne here, Function.update_of_ne here]

-----------------------------------------------------------------------------------------
-- What the receivers read
-----------------------------------------------------------------------------------------

namespace Receiver

variable {receiver : Receiver Value} {value : Stored Value} {mark : Option Nat}

/-- A step of a receiver reads the slot, if anything. -/
theorem read_of_step {slot : Stored Value} {state : Nat} {accepts : Bool}
    (inside : .read value mark ∈ (receiver.step slot state accepts).history)
    : value = slot ∨ .read value mark ∈ receiver.history := by
  have observed {past : List (Observation Value)} {observation : Observation Value}
      (apart : ∀ value mark, observation ≠ .read value mark)
      (inside : .read value mark ∈ past ++ [observation])
      : .read value mark ∈ past :=
    (List.mem_append.mp inside).resolve_right
      (fun last => absurd (List.mem_singleton.mp last).symm (apart value mark))
  cases phase : receiver.phase with
  | cloning reading =>
      simp only [step, phase] at inside
      rcases List.mem_append.mp inside with earlier | last
      · exact .inr earlier
      · cases List.mem_singleton.mp last
        exact .inl rfl
  | unlocking reading read =>
      simp only [step, phase] at inside
      cases reading <;> exact .inr inside
  | testing rejected read =>
      simp only [step, phase] at inside
      cases accepts with
      | true => exact .inr (observed (fun _ _ never => by cases never) inside)
      | false => exact .inr inside
  | checking waiting =>
      right
      rcases step_checking phase slot state accepts with
          ⟨_, found⟩ | ⟨_, _, found⟩ | ⟨_, _, found⟩
      · rw [found] at inside
        cases waiting with
        | changed => exact observed (fun _ _ never => by cases never) inside
        | waitFor rejected => exact observed (fun _ _ never => by cases never) inside
        | pollNext => exact inside
      · rw [found] at inside
        cases waiting with
        | changed => exact observed (fun _ _ never => by cases never) inside
        | waitFor rejected =>
            exact observed (fun _ _ never => by cases never)
              (observed (fun _ _ never => by cases never) inside)
        | pollNext => exact inside
      · rw [found] at inside
        exact inside
  | idle =>
      simp only [step, phase] at inside
      exact .inr inside
  | locking reading =>
      simp only [step, phase] at inside
      cases reading <;> exact .inr inside
  | loading reading =>
      simp only [step, phase] at inside
      exact .inr inside
  | listening waiting =>
      simp only [step, phase] at inside
      split at inside <;> exact .inr inside

/-- A call of a receiver has read nothing yet. -/
theorem read_of_call {state : Nat} {call : Call}
    (inside : .read value mark ∈ (receiver.call state call).history)
    : .read value mark ∈ receiver.history := by
  have observed {observation : Observation Value}
      (apart : ∀ value mark, observation ≠ .read value mark)
      (inside : .read value mark ∈ receiver.history ++ [observation])
      : .read value mark ∈ receiver.history :=
    (List.mem_append.mp inside).resolve_right
      (fun last => absurd (List.mem_singleton.mp last).symm (apart value mark))
  cases call with
  | hasChanged => exact observed (fun _ _ never => by cases never) inside
  | markUnchanged => exact observed (fun _ _ never => by cases never) inside
  | isClosed => exact observed (fun _ _ never => by cases never) inside
  | pollNext =>
      simp only [Receiver.call] at inside
      split at inside <;> exact inside
  | borrow => exact inside
  | borrowAndUpdate => exact inside
  | changed => exact inside
  | waitFor => exact inside
  | intoStream => exact inside
  | intoInner => exact inside

end Receiver

namespace Channel

variable {channel after : Channel Thread ReceiverId Value} {receiver : ReceiverId}

/-- What a receiver read after an event it read before, or it is in the slot. -/
theorem Evolves.read {later : Receiver Value} {value : Stored Value} {mark : Option Nat}
    (evolves : Evolves channel after receiver later) (inside : .read value mark ∈ later.history)
    : value = channel.slot
      ∨ ∃ known, channel.receivers receiver = some known ∧ .read value mark ∈ known.history := by
  cases evolves with
  | stays was => exact .inr ⟨_, was, inside⟩
  | notified was same => exact .inr ⟨_, was, inside⟩
  | subscribed same => cases inside
  | cloned was same => cases inside
  | called was idle fits same => exact .inr ⟨_, was, Receiver.read_of_call inside⟩
  | stepped was goesOn same =>
      exact (Receiver.read_of_step inside).imp_right (fun earlier => ⟨_, was, earlier⟩)
  | cancelled was cancellable same => exact .inr ⟨_, was, inside⟩

-----------------------------------------------------------------------------------------
-- Every run
-----------------------------------------------------------------------------------------

/-- The log has the initial value and one value for each publication, in order; what the slot,
the threads and the returned calls have, and what the receivers read, is in it.
-/
structure Logs (log : List Value) (channel : Channel Thread ReceiverId Value) : Prop where
  length : log.length = channel.sends + 1
  slot : Logged log channel.slot
  sending : ∀ thread, (channel.sending thread).Logged log
  past : ∀ answer ∈ channel.returned, answer.Logged log
  reads
    : ∀ receiver known value mark,
        channel.receivers receiver = some known
        → .read value mark ∈ known.history
        → Logged log value
  once
    : Once (fun thread => (channel.sending thread).published) channel.returned channel.sends

namespace Logs

variable {log : List Value}

theorem begins [DecidableEq ReceiverId] (initial : Value) (receiver : ReceiverId)
    : Logs [initial] (Channel.channel initial receiver : Channel Thread ReceiverId Value) where
  length := rfl
  slot := ⟨0, rfl, rfl⟩
  sending := fun _ => trivial
  past := fun _ never => by cases never
  reads := fun other known value mark present inside => by
    cases receivers_channel present
    cases inside
  once := .begins

/-- What a receiver read after an event is in the log. -/
theorem reads_next [DecidableEq Thread] [DecidableEq ReceiverId]
    {event : Event Thread ReceiverId Value} (logs : channel.Logs log)
    (step : (machine Thread ReceiverId Value).Step channel event after) (receiver : ReceiverId)
    (known : Receiver Value) (value : Stored Value) (mark : Option Nat)
    (present : after.receivers receiver = some known) (inside : .read value mark ∈ known.history)
    : Logged log value := by
  rcases (evolves step present).read inside with rfl | ⟨earlier, was, read⟩
  · exact logs.slot
  · exact logs.reads receiver earlier value mark was read

/-- What happens among the receivers, or to the lock, does not concern the log. -/
theorem same (logs : channel.Logs log) (slot : after.slot = channel.slot)
    (sends : after.sends = channel.sends) (sending : after.sending = channel.sending)
    (past : after.returned = channel.returned)
    (reads
      : ∀ receiver known value mark,
          after.receivers receiver = some known
          → .read value mark ∈ known.history
          → Logged log value)
    : after.Logs log := by
  constructor
  case length =>
    rw [sends]
    exact logs.length
  case slot =>
    rw [slot]
    exact logs.slot
  case sending =>
    rw [sending]
    exact logs.sending
  case past =>
    rw [past]
    exact logs.past
  case reads => exact reads
  case once =>
    rw [sending, past, sends]
    exact logs.once

section Threads

variable [DecidableEq Thread] {thread : Thread}

/-- The phases of the threads after one of them goes on are logged. -/
theorem sending_update {phase : SendPhase Value} (logs : channel.Logs log)
    (logged : phase.Logged log) (other : Thread)
    : ((channel.sendingAt thread phase).sending other).Logged log := by
  by_cases here : other = thread
  · rw [here, sendingAt_self]
    exact logged
  · rw [sendingAt_of_ne here]
    exact logs.sending other

/-- A thread goes on with what it publishes. -/
theorem goesOn {phase : SendPhase Value} (logs : channel.Logs log) (logged : phase.Logged log)
    (same : phase.published = (channel.sending thread).published)
    : (channel.sendingAt thread phase).Logs log where
  length := logs.length
  slot := logs.slot
  sending := logs.sending_update logged
  past := logs.past
  reads := logs.reads
  once := logs.once.goesOn same

/-- A thread's call returns what it published, or only borrowed. -/
theorem returns {answer : SenderAnswer Value} (logs : channel.Logs log)
    (logged : answer.Logged log)
    (same : answer.published = (channel.sending thread).published)
    : Logs log { channel.sendingAt thread .idle with
        returned := channel.returned ++ [answer] } where
  length := logs.length
  slot := logs.slot
  sending := logs.sending_update trivial
  past := by
    intro earlier inside
    rcases List.mem_append.mp inside with known | last
    · exact logs.past earlier known
    · cases List.mem_singleton.mp last
      exact logged
  reads := logs.reads
  once := by
    change Once (fun other => (Function.update channel.sending thread .idle other).published) _ _
    rw [published_update]
    exact logs.once.returns same

/-- A publication appends its value to the log. -/
theorem publishes {value : Value} (logs : channel.Logs log) (sound : channel.Sound)
    (bumping : channel.sending thread = .bumping value) (few : channel.sends + 1 < 2 ^ 63)
    : (channel.sendStep thread).Logs (log ++ [value]) := by
  have counted := sound.counted
  have added : fetchAddStep channel.state = channel.state + 2 :=
    fetchAddStep_of_lt (by rw [counted]; exact few)
  have version : versionOf (channel.state + 2) = versionStep * (channel.sends + 1) := by
    rw [versionOf_eq, versionStep]
    omega
  have bound {published : Stored Value} (logged : Logged log published)
      : published.version ≤ versionStep * channel.sends := by
    obtain ⟨index, same, there⟩ := logged
    have short := (List.getElem?_eq_some_iff.mp there).1
    have length := logs.length
    rw [same]
    exact Nat.mul_le_mul_left versionStep (by omega)
  unfold sendStep
  rw [bumping, added, version]
  constructor
  case length =>
    rw [List.length_append, logs.length]
    rfl
  case slot => exact logs.slot.append value
  case sending =>
    intro other
    by_cases here : other = thread
    · rw [here, sendingAt_self]
      have last := Logged.last log value
      rw [logs.length] at last
      exact last
    · rw [sendingAt_of_ne here]
      exact (logs.sending other).append value
  case past => exact fun answer inside => (logs.past answer inside).append value
  case reads =>
    exact fun receiver known read mark present inside =>
      (logs.reads receiver known read mark present inside).append value
  case once =>
    change Once (fun other => (Function.update channel.sending thread _ other).published) _ _
    rw [published_update]
    refine logs.once.publishes ?_ ?_ ?_
    · rw [bumping]
      rfl
    · exact fun other published publishes => bound ((logs.sending other).of_published publishes)
    · exact fun answer inside published of => bound ((logs.past answer inside).of_published of)

/-- Every step of a thread. -/
theorem sendStep (logs : channel.Logs log) (sound : channel.Sound)
    (few : (channel.sendStep thread).sends < 2 ^ 63)
    (reads
      : ∀ receiver known value mark,
          (channel.sendStep thread).receivers receiver = some known
          → .read value mark ∈ known.history
          → Logged log value)
    : ∃ appended : List Value, (channel.sendStep thread).Logs (log ++ appended) := by
  have logged := logs.sending thread
  cases phase : channel.sending thread with
  | bumping value =>
      simp only [Channel.sendStep, phase] at few
      exact ⟨[value], logs.publishes sound phase few⟩
  | idle =>
      simp only [Channel.sendStep, phase]
      exact ⟨[], by rwa [List.append_nil]⟩
  | publishing value =>
      refine ⟨[], ?_⟩
      simp only [Channel.sendStep, phase, List.append_nil] at reads ⊢
      have moved : (channel.sendingAt thread (.bumping value)).Logs log :=
        logs.goesOn trivial (by rw [phase]; rfl)
      exact moved.same rfl rfl rfl rfl reads
  | borrowing =>
      refine ⟨[], ?_⟩
      simp only [Channel.sendStep, phase, List.append_nil] at reads ⊢
      have moved : (channel.sendingAt thread .cloning).Logs log :=
        logs.goesOn trivial (by rw [phase]; rfl)
      exact moved.same rfl rfl rfl rfl reads
  | replacing published =>
      rw [phase] at logged
      have behind := (sound.replacing thread published phase).2
      refine ⟨[], ?_⟩
      simp only [Channel.sendStep, phase, List.append_nil] at reads ⊢
      have moved
          : (channel.sendingAt thread
              (.unlocking (.replaced channel.slot published))).Logs log :=
        logs.goesOn ⟨logs.slot, logged, behind⟩ (by rw [phase]; rfl)
      exact ⟨moved.length, logged, moved.sending, moved.past, moved.reads, moved.once⟩
  | cloning =>
      refine ⟨[], ?_⟩
      simp only [Channel.sendStep, phase, List.append_nil]
      exact logs.goesOn logs.slot (by rw [phase]; rfl)
  | unlocking answer =>
      rw [phase] at logged
      refine ⟨[], ?_⟩
      cases answer with
      | replaced previous published =>
          simp only [Channel.sendStep, phase, List.append_nil] at reads ⊢
          have moved
              : (channel.sendingAt thread
                  (.notifying (some (.replaced previous published)))).Logs log :=
            logs.goesOn logged (by rw [phase]; rfl)
          exact moved.same rfl rfl rfl rfl reads
      | borrowed current =>
          simp only [Channel.sendStep, phase, List.append_nil] at reads ⊢
          have moved
              : Logs log { channel.sendingAt thread .idle with
                  returned := channel.returned ++ [.borrowed current] } :=
            logs.returns logged (by rw [phase]; rfl)
          exact moved.same rfl rfl rfl rfl reads
  | closing =>
      refine ⟨[], ?_⟩
      simp only [Channel.sendStep, phase, List.append_nil] at reads ⊢
      have moved : (channel.sendingAt thread (.notifying none)).Logs log :=
        logs.goesOn trivial (by rw [phase]; rfl)
      exact moved.same rfl rfl rfl rfl reads
  | notifying answer =>
      rw [phase] at logged
      refine ⟨[], ?_⟩
      cases answer with
      | none =>
          simp only [Channel.sendStep, phase, List.append_nil, Option.toList_none] at reads ⊢
          have moved : (channel.sendingAt thread .idle).Logs log :=
            logs.goesOn trivial (by rw [phase]; rfl)
          exact moved.same rfl rfl rfl rfl reads
      | some answer =>
          simp only [Channel.sendStep, phase, List.append_nil, Option.toList_some] at reads ⊢
          have moved := logs.returns logged (by rw [phase]; rfl)
          exact moved.same rfl rfl rfl rfl reads

end Threads

variable [DecidableEq Thread] [DecidableEq ReceiverId]

/-- Every event, below `2 ^ 63` publications: the log only grows. -/
theorem next {event : Event Thread ReceiverId Value} (logs : channel.Logs log)
    (sound : channel.Sound) (few : after.sends < 2 ^ 63)
    (step : (machine Thread ReceiverId Value).Step channel event after)
    : ∃ appended : List Value, after.Logs (log ++ appended) := by
  have reads := logs.reads_next step
  have enabled := step.enabled
  cases step.next
  have unchanged {now : Channel Thread ReceiverId Value} (same : now.Logs log)
      : ∃ appended : List Value, now.Logs (log ++ appended) :=
    ⟨[], by rwa [List.append_nil]⟩
  have begins {thread : Thread} {phase : SendPhase Value} (idle : channel.sending thread = .idle)
      (logged : phase.Logged log) (none : phase.published = none)
      : (channel.sendingAt thread phase).Logs log :=
    logs.goesOn logged (by rw [idle, none]; rfl)
  cases event with
  | sendReplace thread value => exact unchanged (begins enabled.2 trivial rfl)
  | senderBorrow thread => exact unchanged (begins enabled.2 trivial rfl)
  | dropSender thread =>
      have moved : (channel.sendingAt thread .closing).Logs log :=
        begins (enabled.2 thread) trivial rfl
      exact unchanged (moved.same rfl rfl rfl rfl reads)
  | sendStep thread => exact logs.sendStep sound few reads
  | receiveStep receiver accepts =>
      obtain ⟨known, present, _⟩ := enabled
      simp only [Channel.next, receiveStep, Option.mem_def.mp present] at reads ⊢
      exact unchanged (logs.same rfl rfl rfl rfl reads)
  | subscribe receiver => exact unchanged (logs.same rfl rfl rfl rfl reads)
  | call receiver call => exact unchanged (logs.same rfl rfl rfl rfl reads)
  | clone source target => exact unchanged (logs.same rfl rfl rfl rfl reads)
  | cancel receiver => exact unchanged (logs.same rfl rfl rfl rfl reads)
  | dropReceiver receiver => exact unchanged (logs.same rfl rfl rfl rfl reads)
  | passOn receiver => exact unchanged (logs.same rfl rfl rfl rfl reads)

end Logs

/-- What a call that returned published is in the slot by now, or something newer. -/
theorem Logs.slot_ge {log : List Value} (logs : channel.Logs log) (sound : channel.Sound)
    {answer : SenderAnswer Value} (inside : answer ∈ channel.returned) {published : Stored Value}
    (of : published ∈ answer.published)
    : published.version ≤ channel.slot.version := by
  obtain ⟨index, version, there⟩ := (logs.past answer inside).of_published of
  have short := (List.getElem?_eq_some_iff.mp there).1
  have length := logs.length
  have counted := sound.counted
  have latest : versionOf channel.state = versionStep * channel.sends := by
    rw [versionOf_eq, counted]
    rfl
  by_cases none : ∀ thread published, channel.sending thread ≠ .replacing published
  · rw [sound.current none, latest, version]
    exact Nat.mul_le_mul_left versionStep (by omega)
  · push Not at none
    obtain ⟨thread, value, replacing⟩ := none
    obtain ⟨newest, behind⟩ := sound.replacing thread value replacing
    have apart : published.version ≠ value.version :=
      logs.once.pending thread value (by rw [replacing]; rfl) answer inside published of
    simp only [versionStep] at behind latest version
    omega

variable [DecidableEq Thread] [DecidableEq ReceiverId]

/-- In every state reached with fewer than `2 ^ 63` publications, by induction on the run. -/
theorem logs_reachable (reached : (machine Thread ReceiverId Value).Reachable channel)
    (few : channel.sends < 2 ^ 63)
    : ∃ log, channel.Logs log := by
  induction reached with
  | initial start =>
      obtain ⟨initial, receiver, rfl⟩ := start
      exact ⟨[initial], .begins initial receiver⟩
  | step reached step ih =>
      have fewer := (sends_le step).trans_lt few
      obtain ⟨log, logs⟩ := ih fewer
      obtain ⟨appended, later⟩ := logs.next (sound_reachable reached fewer) few step
      exact ⟨log ++ appended, later⟩

/-- The publications of concurrent senders have one order, and everyone sees it: there is a log
of the initial value and one value for each publication, in which each `send_replace` that
returned has its value next to the one it replaced, no two of them have the same, and every
other read returns the value the log has at the read's version. Once a publication returned, the
slot has no older value; once no call of the sender is under way, it has the log's last one, and
every publication in the log returned.
-/
theorem publications_linear (reached : (machine Thread ReceiverId Value).Reachable channel)
    (few : channel.sends < 2 ^ 63)
    : ∃ log : List Value,
        log.length = channel.sends + 1
        ∧ (∀ answer ∈ channel.returned, answer.Logged log)
        ∧ channel.returned.Pairwise (fun earlier later =>
            ∀ published ∈ earlier.published,
            ∀ value ∈ later.published,
            published.version ≠ value.version)
        ∧ (∀ receiver known,
            channel.receivers receiver = some known
            → ∀ value ∈ known.values, Logged log value)
        ∧ (∀ answer ∈ channel.returned,
            ∀ published ∈ answer.published,
            published.version ≤ channel.slot.version)
        ∧ (channel.Quiet
            → log.getLast? = some channel.slot.value
              ∧ ∀ index,
                  0 < index
                  → index ≤ channel.sends
                  → ∃ answer ∈ channel.returned,
                      ∃ published ∈ answer.published, published.version = versionStep * index) := by
  have sound := sound_reachable reached few
  obtain ⟨log, logs⟩ := logs_reachable reached few
  refine ⟨log, logs.length, logs.past, logs.once.past, ?_, ?_, fun quiet => ⟨?_, ?_⟩⟩
  · intro receiver known present value inside
    obtain ⟨observation, observed, read⟩ := List.mem_filterMap.mp inside
    cases observation with
    | read value' mark =>
        cases read
        exact logs.reads receiver known _ mark present observed
    | marked version => cases read
    | hasChanged is => cases read
    | isClosed is => cases read
    | changed result seen => cases read
    | waited rejected result => cases read
  · exact fun answer inside published of => logs.slot_ge sound inside of
  · obtain ⟨index, version, there⟩ := logs.slot
    have latest := sound.current (fun thread _ never => by cases (quiet thread).symm.trans never)
    have counted := sound.counted
    rw [versionOf_eq, counted, version, versionStep] at latest
    have last : index = log.length - 1 := by
      rw [logs.length]
      omega
    rw [List.getLast?_eq_getElem?, ← last, there]
  · intro index positive upTo
    refine (logs.once.every index positive upTo).resolve_left ?_
    rintro ⟨thread, published, publishes, _⟩
    rw [quiet thread] at publishes
    cases publishes

/-- Two threads publish at once: the second to take the lock replaces what the first one
published, though its call returns first.
-/
theorem publications_linear_returned
    : ∃ log : List Nat,
        log.length = 3
        ∧ (SenderAnswer.replaced ⟨8, 2⟩ ⟨9, 4⟩).Logged log
        ∧ (SenderAnswer.replaced ⟨7, 0⟩ ⟨8, 2⟩).Logged log
        ∧ log.getLast? = some 9 := by
  let events : List (Event Bool Nat Nat) :=
    .sendReplace true 8 :: .sendReplace false 9 :: List.replicate 4 (.sendStep true)
      ++ List.replicate 5 (.sendStep false) ++ [.sendStep true]
  have begins : (machine Bool Nat Nat).Reachable (Channel.channel 7 0) := .initial ⟨7, 0, rfl⟩
  have ran : ((machine Bool Nat Nat).execute (Channel.channel 7 0) events).map
      (fun run => (run.sends, run.returned, run.slot.value,
        (run.sending true, run.sending false)))
      = some (2, [.replaced ⟨8, 2⟩ ⟨9, 4⟩, .replaced ⟨7, 0⟩ ⟨8, 2⟩], 9, (.idle, .idle)) := by
    rfl
  obtain ⟨run, executed, result⟩ := Option.map_eq_some_iff.mp ran
  simp only [Prod.mk.injEq] at result
  obtain ⟨sends, past, slot, idle, idle'⟩ := result
  have few : run.sends < 2 ^ 63 := by
    rw [sends]
    decide
  have quiet : run.Quiet := by
    intro thread
    cases thread with
    | true => exact idle
    | false => exact idle'
  obtain ⟨log, length, logged, _, _, _, ended⟩ :=
    publications_linear (begins.execute events executed) few
  rw [past] at logged
  rw [sends] at length
  have last := (ended quiet).1
  rw [slot] at last
  exact ⟨log, length, logged _ (.head _), logged _ (.tail _ (.head _)), last⟩

end Channel

end BoltLoad.Watch
