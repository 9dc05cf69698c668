import BoltLoad.Http.ExtendedValue
import BoltLoad.Library.Quoted

/-! The `Content-Disposition` header: a type, and parameters whose values are tokens, quoted
strings or extended values.
-/

namespace BoltLoad

/-- `split_once`: at the first needle, or at the end. -/
def splitOnce (haystack : Text) (needle : Char) : Text × Text :=
  (Text.splitOnce (· == needle) haystack).getD (haystack, [])

/-- `split_once_and_trim`. -/
def splitOnceAndTrim (haystack : Text) (needle : Char) : Text × Text :=
  let (first, last) := splitOnce haystack needle
  (first.trimEnd, last.trimStart)

inductive DispositionType
  | inline
  | attachment
  | formData
  | ext (value : Text)
  deriving DecidableEq, Repr

/-- `From<&str>`. -/
def DispositionType.ofText (origin : Text) : DispositionType :=
  if origin.eqIgnoreAsciiCase "inline".toList then
    .inline
  else if origin.eqIgnoreAsciiCase "attachment".toList then
    .attachment
  else if origin.eqIgnoreAsciiCase "form-data".toList then
    .formData
  else
    .ext origin

inductive DispositionParam (Tag : Type)
  | name (value : Text)
  | filename (value : Text)
  | filenameExt (value : ExtendedValue Tag)
  | unknown (name value : Text)
  | unknownExt (name : Text) (value : ExtendedValue Tag)
  deriving DecidableEq

structure ContentDisposition (Tag : Type) where
  disposition : DispositionType
  parameters : List (DispositionParam Tag)
  deriving DecidableEq

namespace ContentDisposition

-----------------------------------------------------------------------------------------
-- Parsing
-----------------------------------------------------------------------------------------

def invalidParameter : InvalidInput := ⟨"invalid parameter"⟩

/-- The `str` from a byte on, which panics inside a character. -/
def strFrom (bytes : Bytes) : Checked Text :=
  match Text.fromUtf8 bytes with
  | some text => .ok text
  | none => .error .bounds

/-- A value that begins with a quote: the quoted string, and what is left after the next
semicolon.
-/
def quotedValue (left : Text) : Checked (Except InvalidInput (Text × Text)) :=
  match Quoted.scan 0x5C 0x22 false [] (left.asBytes.drop 1) with
  | none => .ok (.error invalidParameter)
  | some (quotedString, after) => do
      let left ← strFrom after
      let left := (splitOnce left ';').2.trimStart
      match Text.fromUtf8 quotedString with
      | none => pure (.error invalidParameter)
      | some value => pure (.ok (value, left))

/-- A value that is a token, up to the next semicolon. -/
def tokenValue (left : Text) : Except InvalidInput (Text × Text) :=
  let (token, left) := splitOnceAndTrim left ';'
  if token.isEmpty then .error invalidParameter else .ok (token, left)

/-- `str::strip_suffix`. -/
def stripSuffix (text : Text) (last : Char) : Option Text :=
  if text.getLast? = some last then some text.dropLast else none

theorem utf8_encodes
    : Quoted.Encodes String.utf8EncodeChar '\\' '"' 0x5C 0x22 where
  escapes := rfl
  quotes := rfl
  nonempty := Text.encode_ne_nil
  apart character other apart byte inside :=
    ⟨Text.not_mem_encode (by decide) other byte inside,
      Text.not_mem_encode (by decide) apart byte inside⟩

/-- The quoted string is scanned as its characters are: the scan splits none of them, so that
slicing after it does not panic, and the string is UTF-8.
-/
theorem quotedValue_eq (text : Text)
    : quotedValue ('"' :: text)
      = .ok
          (match Quoted.scan '\\' '"' false [] text with
          | none => .error invalidParameter
          | some (value, after) => .ok (value, (splitOnce after ';').2.trimStart)) := by
  have bytes : (Text.asBytes ('"' :: text)).drop 1 = text.flatMap String.utf8EncodeChar := rfl
  rw [quotedValue, bytes,
    Quoted.scan_encode utf8_encodes (by decide) (by decide) false [] text]
  cases Quoted.scan '\\' '"' false [] text with
  | none => rfl
  | some scanned =>
      obtain ⟨value, after⟩ := scanned
      have left : Text.fromUtf8 (after.flatMap String.utf8EncodeChar) = some after :=
        Text.fromUtf8_asBytes after
      have string : Text.fromUtf8 (value.flatMap String.utf8EncodeChar) = some value :=
        Text.fromUtf8_asBytes value
      simp only [Option.map_some, List.nil_append, strFrom, left, string, Checked.ok_bind]
      rfl

-----------------------------------------------------------------------------------------
-- What is left gets shorter
-----------------------------------------------------------------------------------------

theorem length_trimStart_le (text : Text)
    : text.trimStart.length ≤ text.length :=
  (List.dropWhile_sublist _).length_le

theorem length_splitOnce_le (text : Text) (needle : Char)
    : (splitOnce text needle).2.length ≤ text.length := by
  unfold splitOnce
  cases found : Text.splitOnce (· == needle) text with
  | none => exact Nat.zero_le _
  | some pieces =>
      obtain ⟨before, after⟩ := pieces
      obtain ⟨_, _, same, _⟩ := Text.splitOnce_eq_some_iff.mp found
      rw [same]
      simp only [Option.getD_some, List.length_append, List.length_cons]
      omega

theorem length_splitOnceAndTrim_le (text : Text) (needle : Char)
    : (splitOnceAndTrim text needle).2.length ≤ text.length :=
  (length_trimStart_le _).trans (length_splitOnce_le text needle)

/-- Something is left after a needle only if there was one. -/
theorem length_splitOnceAndTrim_lt {text : Text} {needle : Char}
    (some : (splitOnceAndTrim text needle).2 ≠ [])
    : (splitOnceAndTrim text needle).2.length < text.length := by
  cases found : Text.splitOnce (· == needle) text with
  | none =>
      have none : (splitOnceAndTrim text needle).2 = [] := by
        simp only [splitOnceAndTrim, splitOnce, found]
        rfl
      exact absurd none some
  | some pieces =>
      obtain ⟨before, after⟩ := pieces
      obtain ⟨_, _, same, _⟩ := Text.splitOnce_eq_some_iff.mp found
      have less := length_trimStart_le after
      simp only [splitOnceAndTrim, splitOnce, found, Option.getD_some]
      rw [same, List.length_append, List.length_cons]
      omega

theorem length_quotedValue_le {left value after : Text}
    (quoted : left.head? = some '"') (is : quotedValue left = .ok (.ok (value, after)))
    : after.length ≤ left.length := by
  cases left with
  | nil => cases quoted
  | cons head text =>
      cases quoted
      rw [quotedValue_eq] at is
      cases scanned : Quoted.scan '\\' '"' false [] text with
      | none =>
          rw [scanned] at is
          cases is
      | some pieces =>
          obtain ⟨string, rest⟩ := pieces
          rw [scanned] at is
          cases is
          have less := Quoted.length_lt_of_scan scanned
          have trimmed := length_trimStart_le (splitOnce rest ';').2
          have split := length_splitOnce_le rest ';'
          rw [List.length_cons]
          omega

-----------------------------------------------------------------------------------------
-- The loop
-----------------------------------------------------------------------------------------

section Parameters

variable {Tag : Type}

/-- The parameter of a plain name. -/
def regularParam (paramName value : Text) : DispositionParam Tag :=
  if paramName.eqIgnoreAsciiCase "name".toList then
    .name value
  else if paramName.eqIgnoreAsciiCase "filename".toList then
    .filename value
  else
    .unknown paramName value

/-- The parameter of a name with an asterisk. -/
def extendedParam (paramName : Text) (value : ExtendedValue Tag) : DispositionParam Tag :=
  if paramName.eqIgnoreAsciiCase "filename".toList then
    .filenameExt value
  else
    .unknownExt paramName value

variable [LanguageTag Tag] [PercentEncoding]

/-- One turn of the loop of `from_raw`: a parameter, and what is left after it. -/
def parseParameter (left : Text) : Checked (Except InvalidInput (DispositionParam Tag × Text)) :=
  let (paramName, left) := splitOnceAndTrim left '='
  if paramName.isEmpty || paramName = ['*'] || left.isEmpty then
    .ok (.error invalidParameter)
  else
    match stripSuffix paramName '*' with
    | some paramName =>
        let (extValue, left) := splitOnceAndTrim left ';'
        match ExtendedValue.parseExtendedValue extValue with
        | .error error => .ok (.error error)
        | .ok value => .ok (.ok (extendedParam paramName value, left))
    | none => do
        let value ← (if left.head? = some '"' then quotedValue left else .ok (tokenValue left))
        match value with
        | .error error => pure (.error error)
        | .ok (value, left) => pure (.ok (regularParam paramName value, left))

theorem length_parseParameter_lt {left after : Text} {param : DispositionParam Tag}
    (is : parseParameter left = .ok (.ok (param, after)))
    : after.length < left.length := by
  unfold parseParameter at is
  generalize pieces : splitOnceAndTrim left '=' = split at is
  obtain ⟨paramName, rest⟩ := split
  dsimp only at is
  split at is
  · cases is
  · rename_i named
    have nonempty : rest ≠ [] := by
      rintro rfl
      simp at named
    have less : (splitOnceAndTrim left '=').2.length < left.length :=
      length_splitOnceAndTrim_lt (by rw [pieces]; exact nonempty)
    rw [pieces] at less
    split at is
    · have fewer := length_splitOnceAndTrim_le rest ';'
      split at is
      · cases is
      · cases is
        exact Nat.lt_of_le_of_lt fewer less
    · obtain ⟨value, valued, same⟩ := Checked.bind_eq_ok.mp is
      cases value with
      | error error => cases same
      | ok pair =>
          obtain ⟨value, remains⟩ := pair
          cases same
          refine Nat.lt_of_le_of_lt ?_ less
          split at valued
          · rename_i quoted
            exact length_quotedValue_le quoted valued
          · have token := Except.ok.inj valued
            simp only [tokenValue] at token
            split at token
            · cases token
            · cases token
              exact length_splitOnceAndTrim_le rest ';'

/-- The loop of `from_raw`. -/
def parseParameters (left : Text) (parsed : List (DispositionParam Tag))
    : Checked (Except InvalidInput (List (DispositionParam Tag))) :=
  if left.isEmpty then
    .ok (.ok parsed)
  else
    match turn : parseParameter left with
    | .error panic => .error panic
    | .ok (.error error) => .ok (.error error)
    | .ok (.ok (param, after)) => parseParameters after (parsed ++ [param])
termination_by left.length
decreasing_by exact length_parseParameter_lt turn

/-- `ContentDisposition::from_raw`. -/
def fromRaw (hv : Bytes) : Checked (Except InvalidInput (ContentDisposition Tag)) :=
  match Text.fromUtf8 hv with
  | none => .ok (.error ⟨"invalid utf-8"⟩)
  | some hv =>
      let (dispType, left) := splitOnceAndTrim hv.trim ';'
      if dispType.isEmpty then
        .ok (.error ⟨"disposition type is missing"⟩)
      else do
        match ← parseParameters left [] with
        | .error error => pure (.error error)
        | .ok parameters => pure (.ok ⟨.ofText dispType, parameters⟩)

end Parameters

-----------------------------------------------------------------------------------------
-- Constructing and reading
-----------------------------------------------------------------------------------------

/-- `ContentDisposition::attachment`. -/
def attachment {Tag : Type} (filename : Text) : ContentDisposition Tag where
  disposition := .attachment
  parameters := [.filename filename]

/-- `get_filename`, with `as_filename`. -/
def getFilename {Tag : Type} (header : ContentDisposition Tag) : Option Text :=
  header.parameters.findSome? (fun
    | .filename value => some value
    | _ => none)

-----------------------------------------------------------------------------------------
-- Displaying
-----------------------------------------------------------------------------------------

/-- `[\x00-\x08\x10-\x1F\x7F"\\]`. -/
def isEscaped (character : Char) : Bool :=
  let code := character.toNat
  code ≤ 0x08 || (0x10 ≤ code && code ≤ 0x1F) || code == 0x7F || character == '"'
    || character == '\\'

/-- A quoted string, with a backslash before each character that needs one. -/
def quoted (value : Text) : Text := '"' :: (Quoted.write '\\' isEscaped value ++ ['"'])

/-- `Display` of a type. -/
def displayType : DispositionType → Text
  | .inline => "inline".toList
  | .attachment => "attachment".toList
  | .formData => "form-data".toList
  | .ext value => value

section Display

variable {Tag : Type} [LanguageTag Tag] [PercentEncoding]

/-- `Display` of a parameter. -/
def displayParam : DispositionParam Tag → Text
  | .name value => "name=".toList ++ value
  | .filename value => "filename=".toList ++ quoted value
  | .unknown name value => name ++ '=' :: quoted value
  | .filenameExt value => "filename*=".toList ++ value.display
  | .unknownExt name value => name ++ "*=".toList ++ value.display

/-- `Display`. -/
def display (header : ContentDisposition Tag) : Text :=
  displayType header.disposition
    ++ header.parameters.flatMap (fun param => "; ".toList ++ displayParam param)

end Display

end ContentDisposition

end BoltLoad
