import BoltLoad.Http.RangeResponse

/-! Holding the body of a range response to exactly the bytes its `Content-Range` covers. -/

namespace BoltLoad

/-- `Poll`. -/
inductive Poll (α : Type)
  | pending
  | ready (value : α)
  deriving DecidableEq, Repr

/-- An item of a body: a chunk, or an error. -/
abbrev BodyItem := Except AdapterError Bytes

/-- What polling a body answers: `ready none` is its end. -/
abbrev BodyPoll := Poll (Option BodyItem)

/-- `RangeBody`. -/
structure RangeBody where
  /-- `body.is_some()`: the body has not failed the check. -/
  attached : Bool
  got : ContentRange
  remaining : Nat
  deriving DecidableEq, Repr

/-- `limit_range_body`. -/
def limitRangeBody (got : ContentRange) : Checked RangeBody := do
  let span ← Checked.sub got.last got.first
  let remaining ← Checked.add span 1
  return { attached := true, got, remaining }

namespace RangeBody

/-- `RangeBody::poll_next`, where polling an attached body answers `polled`. -/
def pollNext (body : RangeBody) (polled : BodyPoll) : Checked (RangeBody × BodyPoll) :=
  if body.attached then
    match polled with
    | .pending => .ok (body, .pending)
    | .ready (some (.ok chunk)) =>
        if chunk.length ≤ body.remaining then
          .ok ({ body with remaining := body.remaining - chunk.length }, polled)
        else
          .ok ({ body with attached := false },
            .ready (some (.error (.unretryable (.rangeBodyTooLong body.got)))))
    | .ready (some (.error _)) => .ok (body, polled)
    | .ready none =>
        if 0 < body.remaining then do
          let span ← Checked.sub body.got.last body.got.first
          let covered ← Checked.add span 1
          let received ← Checked.sub covered body.remaining
          return ({ body with attached := false },
            .ready (some (.error (.unretryable (.rangeBodyTooShort body.got received)))))
        else
          .ok (body, polled)
  else
    .ok (body, .ready none)

/-- What the limited body yields until its end or the last answer of the upstream given, and
the state it is left in.
-/
def drain (body : RangeBody) : List BodyPoll → Checked (List BodyItem × RangeBody)
  | [] => .ok ([], body)
  | polled :: rest => do
      let (after, answer) ← body.pollNext polled
      match answer with
      | .pending => drain after rest
      | .ready none => return ([], after)
      | .ready (some item) =>
          let (items, last) ← drain after rest
          return (item :: items, last)

end RangeBody

-----------------------------------------------------------------------------------------
-- What a body carries
-----------------------------------------------------------------------------------------

/-- The chunks among the items of a body. -/
def chunksOf (items : List BodyItem) : List Bytes := items.filterMap Except.toOption

/-- How many bytes the chunks of a body have. -/
def bodyBytes (items : List BodyItem) : Nat := ((chunksOf items).map List.length).sum

/-- The items a body yields before its end. -/
def itemsOf : List BodyPoll → List BodyItem
  | [] => []
  | .pending :: rest => itemsOf rest
  | .ready none :: _ => []
  | .ready (some item) :: rest => item :: itemsOf rest

/-- Whether a body ends. -/
def ends : List BodyPoll → Bool
  | [] => false
  | .ready none :: _ => true
  | _ :: rest => ends rest

@[simp] theorem chunksOf_append (first second : List BodyItem)
    : chunksOf (first ++ second) = chunksOf first ++ chunksOf second :=
  List.filterMap_append

@[simp] theorem chunksOf_ok (chunk : Bytes) (rest : List BodyItem)
    : chunksOf (.ok chunk :: rest) = chunk :: chunksOf rest :=
  rfl

@[simp] theorem chunksOf_error (error : AdapterError) (rest : List BodyItem)
    : chunksOf (.error error :: rest) = chunksOf rest :=
  rfl

@[simp] theorem bodyBytes_append (first second : List BodyItem)
    : bodyBytes (first ++ second) = bodyBytes first + bodyBytes second := by
  simp only [bodyBytes, chunksOf_append, List.map_append, List.sum_append]

@[simp] theorem bodyBytes_ok (chunk : Bytes) (rest : List BodyItem)
    : bodyBytes (.ok chunk :: rest) = chunk.length + bodyBytes rest := by
  simp only [bodyBytes, chunksOf_ok, List.map_cons, List.sum_cons]

@[simp] theorem bodyBytes_error (error : AdapterError) (rest : List BodyItem)
    : bodyBytes (.error error :: rest) = bodyBytes rest :=
  rfl

-----------------------------------------------------------------------------------------
-- What the limited body yields
-----------------------------------------------------------------------------------------

/-- What a body of `items` yields once limited, with `room` left for it, and whether it stays
attached: all of it if it ends with the last byte, or does not end; and otherwise what came
before it failed, with the error of the check.
-/
inductive Limited (got : ContentRange) (items : List BodyItem) (ended : Bool) (room : Nat)
    : List BodyItem → Bool → Prop
  | whole (fits : bodyBytes items ≤ room) (exact : ended = true → bodyBytes items = room)
    : Limited got items ended room items true
  | short (isEnded : ended = true) (missing : bodyBytes items < room) {received : Nat}
      (counted : received + room = got.last - got.first + 1 + bodyBytes items)
    : Limited got items ended room
        (items ++ [.error (.unretryable (.rangeBodyTooShort got received))]) false
  | long {before : List BodyItem} {chunk : Bytes} {after : List BodyItem}
      (crossing : items = before ++ .ok chunk :: after)
      (fits : bodyBytes before ≤ room) (crosses : room < bodyBytes before + chunk.length)
    : Limited got items ended room
        (before ++ [.error (.unretryable (.rangeBodyTooLong got))]) false

namespace Limited

variable {got : ContentRange} {items yielded : List BodyItem} {ended attached : Bool}
  {room : Nat}

/-- An error of the upstream passes unchanged. -/
theorem error (limited : Limited got items ended room yielded attached)
    (error : AdapterError)
    : Limited got (.error error :: items) ended room (.error error :: yielded) attached := by
  cases limited with
  | whole fits exact => exact .whole fits exact
  | short isEnded missing counted =>
      rw [← List.cons_append]
      exact @short got (.error error :: items) ended room isEnded missing _ counted
  | long crossing fits crosses =>
      rw [← List.cons_append]
      exact .long (congrArg (List.cons _) crossing) fits crosses

/-- A chunk that fits passes, and leaves less room. -/
theorem chunk {chunk : Bytes} (enough : chunk.length ≤ room)
    (limited : Limited got items ended (room - chunk.length) yielded attached)
    : Limited got (.ok chunk :: items) ended room (.ok chunk :: yielded) attached := by
  have bytes (rest : List BodyItem) := bodyBytes_ok chunk rest
  cases limited with
  | whole fits exact =>
      refine .whole ?_ (fun isEnded => ?_)
      · rw [bytes]
        omega
      · have rest := exact isEnded
        rw [bytes]
        omega
  | short isEnded missing counted =>
      rw [← List.cons_append]
      refine .short isEnded ?_ ?_
      · rw [bytes]
        omega
      · rw [bytes]
        omega
  | long crossing fits crosses =>
      rw [← List.cons_append]
      refine .long (congrArg (List.cons _) crossing) ?_ ?_
      · rw [bytes]
        omega
      · rw [bytes]
        omega

/-- The chunks that pass are a prefix of the upstream's. -/
theorem isPrefix (limited : Limited got items ended room yielded attached)
    : chunksOf yielded <+: chunksOf items := by
  cases limited with
  | whole fits exact => exact List.prefix_refl _
  | short isEnded missing counted =>
      rw [chunksOf_append]
      exact ⟨[], by simp only [chunksOf_error, List.append_nil]; exact List.append_nil _⟩
  | @long before chunk after crossing fits crosses =>
      rw [crossing, chunksOf_append, chunksOf_append]
      exact ⟨chunk :: chunksOf after, by simp only [chunksOf_error, chunksOf_ok]; simp [chunksOf]⟩

/-- The chunks that pass never take more than the room there was. -/
theorem bytes_le (limited : Limited got items ended room yielded attached)
    : bodyBytes yielded ≤ room := by
  cases limited with
  | whole fits exact => exact fits
  | short isEnded missing counted =>
      rw [bodyBytes_append, bodyBytes_error]
      exact missing.le
  | long crossing fits crosses =>
      rw [bodyBytes_append, bodyBytes_error]
      exact fits

/-- The check adds an error of its own exactly when the upstream's chunks take more than the
room there was, or it ends with fewer bytes.
-/
theorem detached_iff (limited : Limited got items ended room yielded attached)
    : attached = false ↔ room < bodyBytes items ∨ ended = true ∧ bodyBytes items < room := by
  cases limited with
  | whole fits exact =>
      constructor
      · intro never
        cases never
      · rintro (exceeds | ⟨isEnded, missing⟩)
        · exact absurd fits exceeds.not_ge
        · exact absurd (exact isEnded) missing.ne
  | short isEnded missing counted => exact ⟨fun _ => .inr ⟨isEnded, missing⟩, fun _ => rfl⟩
  | @long before chunk after crossing fits crosses =>
      refine ⟨fun _ => .inl ?_, fun _ => rfl⟩
      rw [crossing, bodyBytes_append, bodyBytes_ok]
      omega

end Limited

namespace RangeBody

/-- A body that failed the check ends, and stays ended. -/
theorem pollNext_detached {body : RangeBody} (detached : body.attached = false)
    (polled : BodyPoll)
    : body.pollNext polled = .ok (body, .ready none) := by
  unfold pollNext
  rw [if_neg (fun attached => by cases detached.symm.trans attached)]

theorem drain_detached (got : ContentRange) (room : Nat) (polls : List BodyPoll)
    : drain ⟨false, got, room⟩ polls = .ok ([], ⟨false, got, room⟩) := by
  cases polls with
  | nil => rfl
  | cons polled rest => rfl

/-- The limited body, by induction on the answers of the upstream: each chunk takes its
bytes of the room left.
-/
theorem drain_limited {got : ContentRange} (ordered : got.first ≤ got.last)
    (fits : got.last - got.first + 1 < u64Size) (upstream : List BodyPoll) (room : Nat)
    (within : room ≤ got.last - got.first + 1)
    : ∃ yielded last,
        drain ⟨true, got, room⟩ upstream = .ok (yielded, last)
          ∧ Limited got (itemsOf upstream) (ends upstream) room yielded last.attached := by
  induction upstream generalizing room with
  | nil => exact ⟨[], _, rfl, .whole (Nat.zero_le _) (fun never => by cases never)⟩
  | cons polled rest ih =>
      match polled with
      | .pending => exact ih room within
      | .ready none =>
          by_cases missing : 0 < room
          · let received := got.last - got.first + 1 - room
            have counted : received + room = got.last - got.first + 1 + 0 :=
              Nat.sub_add_cancel within
            refine ⟨[.error (.unretryable (.rangeBodyTooShort got received))],
              ⟨false, got, room⟩, ?_, .short rfl missing counted⟩
            simp only [drain, pollNext, if_true, if_pos missing, Checked.sub_eq ordered,
              Checked.add_eq fits, Checked.sub_eq within, Checked.ok_bind, pure_bind,
              drain_detached]
            rfl
          · refine ⟨[], ⟨true, got, room⟩, ?_, .whole (Nat.zero_le _) (fun _ => ?_)⟩
            · simp only [drain, pollNext, if_true, if_neg missing, Checked.ok_bind]
              rfl
            · exact (Nat.eq_zero_of_not_pos missing).symm
      | .ready (some (.error error)) =>
          obtain ⟨yielded, last, drained, limited⟩ := ih room within
          refine ⟨.error error :: yielded, last, ?_, limited.error error⟩
          simp only [drain, pollNext, if_true, Checked.ok_bind, drained]
          rfl
      | .ready (some (.ok chunk)) =>
          by_cases enough : chunk.length ≤ room
          · obtain ⟨yielded, last, drained, limited⟩ :=
              ih (room - chunk.length) ((Nat.sub_le _ _).trans within)
            refine ⟨.ok chunk :: yielded, last, ?_, limited.chunk enough⟩
            simp only [drain, pollNext, if_true, if_pos enough, Checked.ok_bind, drained]
            rfl
          · have crosses : room < bodyBytes [] + chunk.length := by
              rw [show bodyBytes [] = 0 from rfl]
              omega
            refine ⟨[.error (.unretryable (.rangeBodyTooLong got))], ⟨false, got, room⟩, ?_,
              .long (List.nil_append _).symm (Nat.zero_le _) crosses⟩
            simp only [drain, pollNext, if_true, if_neg enough, Checked.ok_bind, drain_detached]
            rfl

end RangeBody

-----------------------------------------------------------------------------------------
-- A validated response and its limited body
-----------------------------------------------------------------------------------------

/-- A response that passes the checks carries a part of the range requested, and its limited
body yields the upstream's items up to the last byte of that part: an error is added only to
a body of another length, and ends it.
-/
theorem range_body_exact {status : Nat} {headers : RangeHeaders} {requested : Range}
    {expectedTotal : Option Nat} {got : ContentRange} (fits : requested.stop < u64Size)
    (valid : validateRangeResponse status headers requested expectedTotal = .ok got)
    (upstream : List BodyPoll)
    : Validated status headers requested expectedTotal got
      ∧ got.last - got.first + 1 ≤ requested.stop - requested.start
      ∧ ∃ body yielded last,
          limitRangeBody got = .ok body
            ∧ body.drain upstream = .ok (yielded, last)
            ∧ Limited got (itemsOf upstream) (ends upstream) (got.last - got.first + 1) yielded
              last.attached
            ∧ chunksOf yielded <+: chunksOf (itemsOf upstream)
            ∧ bodyBytes yielded ≤ got.last - got.first + 1
            ∧ (last.attached = false
              ↔ got.last - got.first + 1 < bodyBytes (itemsOf upstream)
                ∨ ends upstream = true
                  ∧ bodyBytes (itemsOf upstream) < got.last - got.first + 1)
            ∧ (last.attached = false
              → ∀ polled, last.pollNext polled = .ok (last, .ready none)) := by
  have validated := validated_of_ok valid
  have first := validated.first
  have ordered := validated.ordered
  have within := validated.last
  have short : got.last - got.first + 1 ≤ requested.stop - requested.start := by omega
  have representable : got.last - got.first + 1 < u64Size := by omega
  have starts : limitRangeBody got = .ok ⟨true, got, got.last - got.first + 1⟩ := by
    simp only [limitRangeBody, Checked.sub_eq ordered, Checked.add_eq representable,
      Checked.ok_bind]
    rfl
  obtain ⟨yielded, last, drained, limited⟩ :=
    RangeBody.drain_limited ordered representable upstream _ (Nat.le_refl _)
  exact ⟨validated, short, _, yielded, last, starts, drained, limited, limited.isPrefix,
    limited.bytes_le, limited.detached_iff, RangeBody.pollNext_detached⟩

/-- Three bytes validated, and a body that pauses, fails once and carries one byte too many. -/
theorem range_body_exact_crosses
    : ∃ body yielded last,
        limitRangeBody ⟨10, 12, some 100⟩ = .ok body
          ∧ body.drain [.ready (some (.ok [1, 2])), .pending,
              .ready (some (.error (.retryable (.status 500)))), .ready (some (.ok [3, 4])),
              .ready none] = .ok (yielded, last)
          ∧ chunksOf yielded <+: [[1, 2], [3, 4]]
          ∧ last.attached = false := by
  obtain ⟨_, _, body, yielded, last, starts, drained, _, passes, _, detached, _⟩ :=
    @range_body_exact 206
      { contentRange := some "bytes 10-12/100", contentEncoding := some " Identity " }
      ⟨10, 20⟩ (some 100) ⟨10, 12, some 100⟩ (by decide) (by decide +kernel)
      [.ready (some (.ok [1, 2])), .pending,
        .ready (some (.error (.retryable (.status 500)))), .ready (some (.ok [3, 4])),
        .ready none]
  exact ⟨body, yielded, last, starts, drained, passes, detached.mpr (.inl (by decide))⟩

end BoltLoad
