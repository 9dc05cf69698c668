import BoltLoad.Http.ContentRange
import BoltLoad.Strategy.RunnerOutcomeSampler

/-! Whether a range response carries the requested bytes: its status and headers. -/

namespace BoltLoad

-----------------------------------------------------------------------------------------
-- Content codings
-----------------------------------------------------------------------------------------

/-- A content coding other than `identity`. -/
inductive ContentCoding
  | gzip
  | deflate
  | brotli
  | zstd
  | other (name : String)
  deriving DecidableEq, Repr

namespace ContentCoding

/-- `ContentCoding::from_name`. -/
def fromName (name : Text) : ContentCoding :=
  match String.ofList (name.map Char.toLower) with
  | "gzip" => gzip
  | "x-gzip" => gzip
  | "deflate" => deflate
  | "br" => brotli
  | "zstd" => zstd
  | name => other name

/-- `ContentCoding::parse_list`. -/
def parseList (value : String) : List ContentCoding :=
  let names := (value.toList.splitOn ',').map Text.trim
  let codings := names.filter
    (fun name => !name.isEmpty && !Text.eqIgnoreAsciiCase name "identity".toList)
  codings.map fromName

end ContentCoding

-----------------------------------------------------------------------------------------
-- Statuses and headers
-----------------------------------------------------------------------------------------

/-- `MAX_RETRY_AFTER`. -/
def maxRetryAfter : Duration := seconds 120

/-- `classify_status`. -/
def classifyStatus (status : Nat) (retryAfter : Option Duration) : AdapterError :=
  if status = 401 then
    .unretryable (.unauthorized status "unauthorized")
  else if status = 403 then
    .unretryable (.unauthorized status "forbidden")
  else if status = 404 ∨ status = 410 then
    .unretryable (.notFound status)
  else if status = 408 then
    .retryable (.status status)
  else if status = 416 then
    .unretryable (.rangeNotSatisfiable none)
  else if status = 429 ∨ status = 503 then
    .unretryable (.congestion status (retryAfter.map (fun delay => min delay maxRetryAfter)))
  else if 500 ≤ status ∧ status ≤ 599 then
    .retryable (.status status)
  else
    .unretryable (.status status)

/-- `RangeHeaders`: the response headers that are read, each as its combined value. -/
structure RangeHeaders where
  contentRange : Option String := none
  contentType : Option String := none
  contentEncoding : Option String := none
  retryAfter : Option Duration := none
  deriving Repr

/-- `is_multipart`. -/
def isMultipart (contentType : String) : Bool :=
  (contentType.toList.splitOn ',').any (fun value =>
    let mediaType := Text.trim ((value.splitOn ';').headD [])
    Text.eqIgnoreAsciiCase mediaType "multipart/byteranges".toList)

/-- The headers tell of a body in several parts. -/
def RangeHeaders.multipart (headers : RangeHeaders) : Bool :=
  headers.contentType.any isMultipart

/-- The combined `Content-Encoding`, unless it names no coding. -/
def RangeHeaders.coded (headers : RangeHeaders) : Option String :=
  headers.contentEncoding.filter (fun coding => !(ContentCoding.parseList coding).isEmpty)

/-- Two complete lengths that are both known are the same. -/
def sameTotal : Option Nat → Option Nat → Bool
  | some complete, some total => complete == total
  | _, _ => true

/-- `check_partial`. -/
def checkPartial (headers : RangeHeaders) (requested : Range) (expectedTotal : Option Nat)
    : Except AdapterError ContentRange :=
  let parsed := headers.contentRange.bind ContentRange.fromStr
  match parsed with
  | some got =>
      if !headers.multipart && got.first == requested.start && got.last < requested.stop
          && sameTotal got.complete expectedTotal then
        match headers.coded with
        | none => .ok got
        | some coding => .error (.unretryable (.rangeContentCoded coding))
      else
        .error (.unretryable (.rangeMismatch requested parsed))
  | none => .error (.unretryable (.rangeMismatch requested parsed))

/-- `validate_range_response`. -/
def validateRangeResponse (status : Nat) (headers : RangeHeaders) (requested : Range)
    (expectedTotal : Option Nat)
    : Except AdapterError ContentRange :=
  if status = 206 then
    checkPartial headers requested expectedTotal
  else if status = 200 then
    .error (.unretryable .rangeIgnored)
  else if status = 416 then
    .error (.unretryable
      (.rangeNotSatisfiable (headers.contentRange.bind ContentRange.unsatisfiedComplete)))
  else if 400 ≤ status ∧ status ≤ 599 then
    .error (classifyStatus status headers.retryAfter)
  else
    .error (.unretryable (.status status))

/-- What a response that passes the checks says of its body. -/
structure Validated (status : Nat) (headers : RangeHeaders) (requested : Range)
    (expectedTotal : Option Nat) (got : ContentRange)
    : Prop where
  isPartial : status = 206
  first : got.first = requested.start
  ordered : got.first ≤ got.last
  last : got.last < requested.stop
  total
    : ∀ complete total,
        got.complete = some complete → expectedTotal = some total → complete = total
  singlePart : headers.multipart = false
  uncoded : ∀ coding, headers.contentEncoding = some coding → ContentCoding.parseList coding = []

theorem validated_of_ok {status : Nat} {headers : RangeHeaders} {requested : Range}
    {expectedTotal : Option Nat} {got : ContentRange}
    (valid : validateRangeResponse status headers requested expectedTotal = .ok got)
    : Validated status headers requested expectedTotal got := by
  unfold validateRangeResponse at valid
  split at valid
  case isFalse =>
    split at valid
    · cases valid
    · split at valid
      · cases valid
      · split at valid <;> cases valid
  case isTrue isPartial =>
    unfold checkPartial at valid
    dsimp only at valid
    split at valid
    case h_2 => cases valid
    case h_1 range parsed =>
      split at valid
      case isFalse => cases valid
      case isTrue checked =>
        split at valid
        case h_2 => cases valid
        case h_1 uncoded =>
          cases valid
          obtain ⟨value, _, accepted⟩ := Option.bind_eq_some_iff.mp parsed
          simp only [Bool.and_eq_true, Bool.not_eq_true', beq_iff_eq, decide_eq_true_eq]
            at checked
          obtain ⟨⟨⟨singlePart, first⟩, last⟩, total⟩ := checked
          refine {
            isPartial
            first
            ordered := (ContentRange.wellFormed_of_fromStr accepted).ordered
            last
            total := fun complete known isComplete isKnown => ?_
            singlePart
            uncoded := fun coding names => ?_
          }
          · rw [isComplete, isKnown] at total
            exact beq_iff_eq.mp total
          · rw [RangeHeaders.coded, names] at uncoded
            simpa using uncoded

end BoltLoad
