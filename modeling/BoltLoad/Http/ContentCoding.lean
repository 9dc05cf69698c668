import BoltLoad.Http.RangeResponse
import BoltLoad.Task.Status

/-! Whether a body is encoded, as the metadata, the range responses and the full responses tell
it from the same combined `Content-Encoding`.
-/

namespace BoltLoad

/-- `is_identity`. -/
def isIdentity (contentEncoding : String) : Bool :=
  ((contentEncoding.toList.splitOn ',').map Text.trim).all
    (fun coding => coding.isEmpty || Text.eqIgnoreAsciiCase coding "identity".toList)

/-- `BoltLoadAdapterMeta::with_content_encoding`. -/
def BoltLoadAdapterMeta.withContentEncoding (metadata : BoltLoadAdapterMeta)
    (contentEncoding : Option String)
    : BoltLoadAdapterMeta :=
  { metadata with contentEncoding := contentEncoding.filter (fun value => !isIdentity value) }

/-- The media types of the files a coding produces. -/
def ContentCoding.formats : ContentCoding → List String
  | gzip => ["application/gzip", "application/x-gzip"]
  | deflate => ["application/zlib"]
  | zstd => ["application/zstd"]
  | brotli => []
  | other _ => []

/-- `ContentCoding::is_format_of`. -/
def ContentCoding.isFormatOf (coding : ContentCoding) (contentType : String) : Bool :=
  let mediaType := Text.trim ((contentType.toList.splitOn ';').headD [])
  coding.formats.any (fun format => Text.eqIgnoreAsciiCase mediaType format.toList)

/-- `check_content_coding`. -/
def checkContentCoding (contentEncoding contentType : Option String) : Except AdapterError Unit :=
  match contentEncoding with
  | none => .ok ()
  | some value =>
      let coded := .error (.unretryable (.contentCoded value))
      match ContentCoding.parseList value with
      | [] => .ok ()
      | [only] => if contentType.any only.isFormatOf then .ok () else coded
      | _ => coded

/-- The metadata asks whether a value lists no coding, item by item. -/
theorem isIdentity_iff {value : String}
    : isIdentity value = true ↔ ContentCoding.parseList value = [] := by
  simp only [isIdentity, ContentCoding.parseList, List.all_eq_true, List.map_eq_nil_iff,
    List.filter_eq_nil_iff]
  refine forall₂_congr fun coding _ => ?_
  cases coding.isEmpty <;> cases Text.eqIgnoreAsciiCase coding "identity".toList <;> decide

namespace RangeHeaders

variable {headers : RangeHeaders} {requested : Range} {expectedTotal : Option Nat}
  {got : ContentRange}

/-- A value that names no coding counts as none. -/
theorem coded_eq (value : String)
    : { headers with contentEncoding := some value }.coded
      = if ContentCoding.parseList value = [] then none else some value := by
  rw [RangeHeaders.coded, Option.filter_some]
  cases ContentCoding.parseList value <;> rfl

/-- A range response that is valid but for its coding is refused for that coding only. -/
theorem checkPartial_coded {value : String}
    (valid : checkPartial { headers with contentEncoding := none } requested expectedTotal
      = .ok got)
    : checkPartial { headers with contentEncoding := some value } requested expectedTotal
      = if ContentCoding.parseList value = [] then
          .ok got
        else
          .error (.unretryable (.rangeContentCoded value)) := by
  unfold checkPartial at valid ⊢
  cases parsed : headers.contentRange.bind ContentRange.fromStr with
  | none =>
      simp only [parsed] at valid
      cases valid
  | some range =>
      simp only [parsed] at valid ⊢
      split at valid
      case isFalse => cases valid
      case isTrue checked =>
        cases valid
        -- The coding is not among what is checked first.
        have unchanged
            : (!{ headers with contentEncoding := some value }.multipart
                && got.first == requested.start && got.last < requested.stop
                && sameTotal got.complete expectedTotal) = true :=
          checked
        rw [if_pos unchanged, coded_eq]
        by_cases uncoded : ContentCoding.parseList value = []
        · rw [if_pos uncoded, if_pos uncoded]
        · rw [if_neg uncoded, if_neg uncoded]

end RangeHeaders

/-- A full response without a content type passes exactly without a coding. -/
theorem checkContentCoding_untyped (value : String)
    : checkContentCoding (some value) none
      = if ContentCoding.parseList value = [] then
          .ok ()
        else
          .error (.unretryable (.contentCoded value)) := by
  cases listed : ContentCoding.parseList value with
  | nil => simp [checkContentCoding, listed]
  | cons first rest => cases rest <;> simp [checkContentCoding, listed]

/-- The metadata, the range responses and the full responses agree on whether a value lists a
coding.
-/
theorem codings_agree (value : String)
    : (∀ metadata : BoltLoadAdapterMeta,
        ContentCoding.parseList value = []
          ↔ (metadata.withContentEncoding (some value)).contentEncoding = none)
      ∧ (∀ (headers : RangeHeaders) (requested : Range) (expectedTotal : Option Nat)
          (got : ContentRange),
          checkPartial { headers with contentEncoding := none } requested expectedTotal = .ok got →
          (ContentCoding.parseList value = []
            ↔ ∃ passed, checkPartial { headers with contentEncoding := some value } requested
                expectedTotal = .ok passed))
      ∧ (ContentCoding.parseList value = [] ↔ checkContentCoding (some value) none = .ok ()) := by
  refine ⟨fun metadata => ?_, fun headers requested expectedTotal got valid => ?_, ?_⟩
  · simp only [BoltLoadAdapterMeta.withContentEncoding, Option.filter_eq_none_iff,
      Option.some.injEq, forall_eq', Bool.not_eq_true', Bool.not_eq_false]
    exact isIdentity_iff.symm
  · rw [RangeHeaders.checkPartial_coded valid]
    split
    · rename_i uncoded
      exact iff_of_true uncoded ⟨got, rfl⟩
    · rename_i coded
      exact iff_of_false coded (fun ⟨_, never⟩ => by cases never)
  · rw [checkContentCoding_untyped]
    split
    · rename_i uncoded
      exact iff_of_true uncoded rfl
    · rename_i coded
      exact iff_of_false coded (fun never => by cases never)

/-- Empty items and `identity` in any letter case pass where a response without the header
does.
-/
theorem codings_agree_identity
    : let headers : RangeHeaders := { contentRange := some "bytes 2-5/10" }
      let value := " Identity,, "
      (∀ metadata : BoltLoadAdapterMeta,
          (metadata.withContentEncoding (some value)).contentEncoding = none)
        ∧ (∃ passed, checkPartial { headers with contentEncoding := some value } ⟨2, 6⟩ (some 10)
            = .ok passed)
        ∧ checkContentCoding (some value) none = .ok () := by
  intro headers value
  have agree := codings_agree value
  have uncoded : ContentCoding.parseList value = [] := by decide +kernel
  have valid : checkPartial { headers with contentEncoding := none } ⟨2, 6⟩ (some 10)
      = .ok ⟨2, 5, some 10⟩ := by decide +kernel
  exact ⟨fun metadata => (agree.1 metadata).mp uncoded,
    (agree.2.1 headers ⟨2, 6⟩ (some 10) _ valid).mp uncoded, agree.2.2.mp uncoded⟩

end BoltLoad
