import BoltLoad.Rust.Utf8

/-! Extended parameter values: a charset, a language, and bytes with a percent sign before the
codes of those that cannot stand for themselves.
-/

namespace BoltLoad

/-- `io::Error` of the kind `InvalidInput`, with its text. -/
structure InvalidInput where
  message : String
  deriving DecidableEq, Repr

/-- `language_tags::LanguageTag`, with its `FromStr` and `Display`. -/
class LanguageTag (Tag : Type) where
  parse : Text → Option Tag
  display : Tag → Text

/-- A tag is displayed as what it is parsed from, in letters, digits and hyphens. -/
class LawfulLanguageTag (Tag : Type) [LanguageTag Tag] : Prop where
  parse_display : ∀ tag : Tag, LanguageTag.parse (LanguageTag.display tag) = some tag
  nonempty : ∀ tag : Tag, LanguageTag.display tag ≠ []
  plain
    : ∀ tag : Tag,
        ∀ character ∈ LanguageTag.display tag, character.isAlphanum = true ∨ character = '-'

-----------------------------------------------------------------------------------------
-- Percent encoding
-----------------------------------------------------------------------------------------

/-- `percent_encoding`: `percent_encode`, by the set of bytes it encodes, and `percent_decode`. -/
class PercentEncoding where
  percentEncode : (UInt8 → Bool) → Bytes → Text
  percentDecode : Bytes → Bytes

/-- A hexadecimal digit in upper case. -/
def hexDigit (value : Nat) : Char :=
  if value < 10 then Char.ofNat (0x30 + value) else Char.ofNat (0x41 + (value - 10))

/-- The value of a hexadecimal digit. -/
def hexValue (byte : UInt8) : Option Nat :=
  let code := byte.toNat
  if 0x30 ≤ code && code ≤ 0x39 then
    some (code - 0x30)
  else if 0x41 ≤ code && code ≤ 0x46 then
    some (code - 0x41 + 10)
  else if 0x61 ≤ code && code ≤ 0x66 then
    some (code - 0x61 + 10)
  else
    none

/-- A byte of the set, or one beyond ASCII, is written as its code; another as itself. -/
def percentEncodeByte (asciiSet : UInt8 → Bool) (byte : UInt8) : Text :=
  if asciiSet byte || decide (0x80 ≤ byte.toNat) then
    ['%', hexDigit (byte.toNat / 16), hexDigit (byte.toNat % 16)]
  else
    [Char.ofNat byte.toNat]

/-- Bytes are encoded one by one. They are decoded so, a percent sign together with two digits. -/
class LawfulPercentEncoding [PercentEncoding] : Prop where
  encode
    : ∀ asciiSet bytes,
        PercentEncoding.percentEncode asciiSet bytes = bytes.flatMap (percentEncodeByte asciiSet)
  decode_nil : PercentEncoding.percentDecode [] = []
  decode_cons
    : ∀ byte rest,
        byte ≠ 0x25
        → PercentEncoding.percentDecode (byte :: rest) = byte :: PercentEncoding.percentDecode rest
  decode_escape
    : ∀ high low high' low' rest,
        hexValue high = some high'
        → hexValue low = some low'
        → PercentEncoding.percentDecode (0x25 :: high :: low :: rest)
          = UInt8.ofNat (high' * 16 + low') :: PercentEncoding.percentDecode rest

/-- The characters of `HTTP_VALUE` beside the controls. -/
def httpValueSet : Text :=
  [' ', '"', '%', '\'', '(', ')', '*', ',', '/', ':', ';', '<', '-', '>', '?', '[', '\\', ']', '{',
    '}']

/-- `HTTP_VALUE`. -/
def httpValue (byte : UInt8) : Bool :=
  byte.toNat < 0x20 || byte.toNat == 0x7F || httpValueSet.contains (Char.ofNat byte.toNat)

-----------------------------------------------------------------------------------------
-- Extended values
-----------------------------------------------------------------------------------------

/-- `str::splitn`. -/
def Text.splitn (separates : Char → Bool) : Nat → Text → List Text
  | 0, _ => []
  | 1, text => [text]
  | count + 2, text =>
      match Text.splitOnce separates text with
      | some (before, after) => before :: splitn separates (count + 1) after
      | none => [text]

structure ExtendedValue (Tag : Type) where
  charset : Text
  languageTag : Option Tag
  value : Bytes
  deriving DecidableEq

namespace ExtendedValue

variable {Tag : Type} [LanguageTag Tag] [PercentEncoding]

/-- The second piece of an extended value. -/
def parseLanguage (piece : Text) : Except InvalidInput (Option Tag) :=
  if piece.isEmpty then
    .ok none
  else
    match LanguageTag.parse piece with
    | some tag => .ok (some tag)
    | none => .error ⟨"language tag is invalid"⟩

/-- `parse_extended_value`. -/
def parseExtendedValue (val : Text) : Except InvalidInput (ExtendedValue Tag) :=
  match Text.splitn (· == '\'') 3 val with
  | [] => .error ⟨"charset is missing"⟩
  | [_] => .error ⟨"language tag is missing"⟩
  | charset :: language :: pieces => do
      let languageTag ← parseLanguage language
      match pieces with
      | [] => .error ⟨"value is missing"⟩
      | value :: _ => pure { charset, languageTag, value := PercentEncoding.percentDecode value.asBytes }

/-- `Display`. -/
def display (value : ExtendedValue Tag) : Text :=
  value.charset ++ '\'' :: (value.languageTag.map LanguageTag.display).getD []
    ++ '\'' :: PercentEncoding.percentEncode httpValue value.value

end ExtendedValue

-----------------------------------------------------------------------------------------
-- What is encoded is decoded
-----------------------------------------------------------------------------------------

/-- A letter or digit is not whitespace. -/
theorem isWhitespace_of_isAlphanum {character : Char} (is : character.isAlphanum = true)
    : Text.isWhitespace character = false := by
  have bounds : 0x30 ≤ character.toNat ∧ character.toNat ≤ 0x7A := by
    simp only [Char.isAlphanum, Char.isAlpha, Char.isUpper, Char.isLower, Char.isDigit,
      Bool.or_eq_true, Bool.and_eq_true, decide_eq_true_eq, ge_iff_le, UInt32.le_iff_toNat_le] at is
    simp only [Char.toNat]
    change ((65 ≤ _ ∧ _ ≤ 90) ∨ (97 ≤ _ ∧ _ ≤ 122)) ∨ (48 ≤ _ ∧ _ ≤ 57) at is
    omega
  simp only [Text.isWhitespace, Bool.or_eq_false_iff, Bool.and_eq_false_iff,
    decide_eq_false_iff_not, beq_eq_false_iff_ne]
  omega

/-- The digits of a byte are read back. -/
theorem hexValue_hexDigit {value : Nat} (digit : value < 16)
    : hexValue (UInt8.ofNat (hexDigit value).toNat) = some value := by
  revert value
  decide

/-- A digit is ASCII, and none of the characters that mean something. -/
theorem hexDigit_plain {value : Nat} (digit : value < 16)
    : (hexDigit value).isAlphanum = true ∧ (hexDigit value).toNat ≤ 0x7F := by
  revert value
  decide

/-- A byte that stands for itself is a graphic character of ASCII, and not special. -/
theorem unencoded {byte : UInt8}
    (plain : (httpValue byte || decide (0x80 ≤ byte.toNat)) = false)
    : (Char.ofNat byte.toNat).toNat = byte.toNat
      ∧ 0x20 ≤ byte.toNat
      ∧ byte.toNat < 0x7F
      ∧ Char.ofNat byte.toNat ∉ httpValueSet := by
  simp only [httpValue, Bool.or_eq_false_iff, decide_eq_false_iff_not, not_lt, beq_eq_false_iff_ne,
    not_le, List.contains_eq_mem] at plain
  obtain ⟨⟨⟨above, other⟩, apart⟩, below⟩ := plain
  refine ⟨?_, above, by omega, apart⟩
  have valid : byte.toNat.isValidChar := Or.inl (by omega)
  rw [Char.ofNat, dif_pos valid]
  rfl

section Lawful

variable [PercentEncoding] [LawfulPercentEncoding]

/-- One byte, before whatever follows. -/
theorem percentDecode_byte (byte : UInt8) (rest : Bytes)
    : PercentEncoding.percentDecode ((percentEncodeByte httpValue byte).asBytes ++ rest)
      = byte :: PercentEncoding.percentDecode rest := by
  cases needs : httpValue byte || decide (0x80 ≤ byte.toNat) with
  | true =>
      have high : byte.toNat / 16 < 16 := by
        have := byte.toNat_lt
        omega
      have low : byte.toNat % 16 < 16 := Nat.mod_lt _ (by decide)
      have written : (percentEncodeByte httpValue byte).asBytes
          = [0x25, UInt8.ofNat (hexDigit (byte.toNat / 16)).toNat,
              UInt8.ofNat (hexDigit (byte.toNat % 16)).toNat] := by
        rw [percentEncodeByte, if_pos needs, Text.asBytes]
        simp only [List.flatMap_cons, List.flatMap_nil, Text.encode_of_ascii (hexDigit_plain high).2,
          Text.encode_of_ascii (hexDigit_plain low).2]
        rfl
      rw [written]
      simp only [List.cons_append, List.nil_append]
      rw [LawfulPercentEncoding.decode_escape _ _ _ _ rest (hexValue_hexDigit high)
        (hexValue_hexDigit low), Nat.div_add_mod', UInt8.ofNat_toNat]
  | false =>
      obtain ⟨code, _, below, apart⟩ := unencoded needs
      have written : (percentEncodeByte httpValue byte).asBytes = [byte] := by
        rw [percentEncodeByte, needs]
        simp only [Bool.false_eq_true, if_false, Text.asBytes, List.flatMap_cons, List.flatMap_nil]
        rw [Text.encode_of_ascii (by omega), code, UInt8.ofNat_toNat]
        rfl
      rw [written, List.singleton_append]
      refine LawfulPercentEncoding.decode_cons byte rest ?_
      rintro rfl
      exact apart (by decide)

/-- Encoded bytes are decoded, by induction on them. -/
theorem percentDecode_percentEncode (bytes : Bytes)
    : PercentEncoding.percentDecode (PercentEncoding.percentEncode httpValue bytes).asBytes
      = bytes := by
  rw [LawfulPercentEncoding.encode]
  induction bytes with
  | nil => exact LawfulPercentEncoding.decode_nil
  | cons byte bytes ih => rw [List.flatMap_cons, Text.asBytes_append, percentDecode_byte, ih]

/-- The characters of an encoded value: no control, no space, and of the special ones only the
percent sign.
-/
theorem percentEncode_plain {bytes : Bytes} {character : Char}
    (inside : character ∈ PercentEncoding.percentEncode httpValue bytes)
    : Text.isWhitespace character = false ∧ character ≠ ';' ∧ character ≠ '\'' := by
  rw [LawfulPercentEncoding.encode] at inside
  obtain ⟨byte, _, inside⟩ := List.mem_flatMap.mp inside
  have alphanumeric (is : character.isAlphanum = true)
      : Text.isWhitespace character = false ∧ character ≠ ';' ∧ character ≠ '\'' := by
    refine ⟨?_, ?_, ?_⟩
    · exact isWhitespace_of_isAlphanum is
    · rintro rfl
      cases is
    · rintro rfl
      cases is
  cases needs : httpValue byte || decide (0x80 ≤ byte.toNat) with
  | true =>
      have high : byte.toNat / 16 < 16 := by
        have := byte.toNat_lt
        omega
      have low : byte.toNat % 16 < 16 := Nat.mod_lt _ (by decide)
      rw [percentEncodeByte, if_pos needs] at inside
      simp only [List.mem_cons, List.not_mem_nil, or_false] at inside
      rcases inside with rfl | rfl | rfl
      · decide
      · exact alphanumeric (hexDigit_plain high).1
      · exact alphanumeric (hexDigit_plain low).1
  | false =>
      obtain ⟨code, above, below, apart⟩ := unencoded needs
      rw [percentEncodeByte, needs] at inside
      simp only [Bool.false_eq_true, if_false, List.mem_singleton] at inside
      rw [← inside] at code apart
      have ne {special : Char} (is : special ∈ httpValueSet) : character ≠ special := by
        rintro rfl
        exact apart is
      refine ⟨?_, ne (by decide), ne (by decide)⟩
      have other : character ≠ ' ' := ne (by decide)
      have space : character.toNat ≠ 0x20 := fun same => other (Char.toNat_inj.mp same)
      simp only [Text.isWhitespace, Bool.or_eq_false_iff, Bool.and_eq_false_iff,
        decide_eq_false_iff_not, beq_eq_false_iff_ne]
      omega

end Lawful

-----------------------------------------------------------------------------------------
-- What is displayed is parsed
-----------------------------------------------------------------------------------------

namespace ExtendedValue

variable {Tag : Type} [LanguageTag Tag]

theorem splitOnce_quote {before : Text} (plain : '\'' ∉ before) (after : Text)
    : Text.splitOnce (· == '\'') (before ++ '\'' :: after) = some (before, after) := by
  refine Text.splitOnce_eq_some_iff.mpr ⟨'\'', rfl, rfl, fun character inside => ?_⟩
  simp only [beq_eq_false_iff_ne]
  rintro rfl
  exact plain inside

/-- A language is read back. -/
theorem parseLanguage_display [LawfulLanguageTag Tag] (languageTag : Option Tag)
    : parseLanguage ((languageTag.map LanguageTag.display).getD []) = .ok languageTag := by
  cases languageTag with
  | none => rfl
  | some tag =>
      simp only [parseLanguage, Option.map_some, Option.getD_some]
      rw [if_neg (by simpa using LawfulLanguageTag.nonempty tag), LawfulLanguageTag.parse_display]

/-- The characters of a language. -/
theorem language_plain [LawfulLanguageTag Tag] {languageTag : Option Tag} {character : Char}
    (inside : character ∈ (languageTag.map LanguageTag.display).getD [])
    : character.isAlphanum = true ∨ character = '-' := by
  cases languageTag with
  | none => cases inside
  | some tag => exact LawfulLanguageTag.plain tag character inside

variable [PercentEncoding]

/-- What was parsed has no quote in its charset. -/
theorem charset_of_parse {val : Text} {value : ExtendedValue Tag}
    (parsed : parseExtendedValue val = .ok value)
    : ∃ rest, val = value.charset ++ '\'' :: rest ∧ '\'' ∉ value.charset := by
  unfold parseExtendedValue at parsed
  cases found : Text.splitOnce (· == '\'') val with
  | none =>
      simp only [Text.splitn, found] at parsed
      cases parsed
  | some pieces =>
      obtain ⟨before, after⟩ := pieces
      obtain ⟨separator, is, same, clean⟩ := Text.splitOnce_eq_some_iff.mp found
      rw [beq_iff_eq.mp is] at same
      have plain : '\'' ∉ before := fun inside => by simpa using clean _ inside
      have charset : value.charset = before := by
        simp only [Text.splitn, found] at parsed
        cases later : Text.splitOnce (· == '\'') after with
        | none =>
            simp only [later] at parsed
            cases language : (parseLanguage after : Except InvalidInput (Option Tag)) with
            | error refused =>
                rw [language] at parsed
                cases parsed
            | ok tag =>
                rw [language] at parsed
                cases parsed
        | some pieces =>
            obtain ⟨piece, rest⟩ := pieces
            simp only [later] at parsed
            cases language : (parseLanguage piece : Except InvalidInput (Option Tag)) with
            | error refused =>
                rw [language] at parsed
                cases parsed
            | ok tag =>
                rw [language] at parsed
                cases parsed
                rfl
      exact ⟨after, by rw [charset]; exact same, by rw [charset]; exact plain⟩

/-- A displayed value without a quote in its charset is parsed to itself. -/
theorem parse_display [LawfulLanguageTag Tag] [LawfulPercentEncoding] {value : ExtendedValue Tag}
    (plain : '\'' ∉ value.charset)
    : parseExtendedValue value.display = .ok value := by
  have language : '\'' ∉ (value.languageTag.map LanguageTag.display).getD [] := by
    intro inside
    rcases language_plain inside with never | never
    · cases never
    · cases never
  unfold parseExtendedValue display
  rw [List.append_assoc, List.cons_append]
  simp only [Text.splitn, splitOnce_quote plain, splitOnce_quote language, parseLanguage_display]
  exact congrArg Except.ok (by rw [percentDecode_percentEncode])

/-- A value without a quote in its charset is displayed as it is parsed, and no other is parsed from
anything.
-/
theorem parse_display_iff [LawfulLanguageTag Tag] [LawfulPercentEncoding]
    (value : ExtendedValue Tag)
    : (parseExtendedValue value.display = .ok value ↔ '\'' ∉ value.charset)
      ∧ ((∃ val, parseExtendedValue val = .ok value) ↔ '\'' ∉ value.charset) := by
  have plain {val : Text} (parsed : parseExtendedValue val = .ok value) : '\'' ∉ value.charset := by
    obtain ⟨_, _, plain⟩ := charset_of_parse parsed
    exact plain
  refine ⟨⟨plain, parse_display⟩, ?_, fun is => ⟨value.display, parse_display is⟩⟩
  rintro ⟨val, parsed⟩
  exact plain parsed

end ExtendedValue

-----------------------------------------------------------------------------------------
-- Decoding byte by byte
-----------------------------------------------------------------------------------------

namespace Bytewise

/-- A percent sign stands for itself unless two digits follow. -/
def percentDecode : Bytes → Bytes
  | [] => []
  | [byte] => [byte]
  | [first, second] => [first, second]
  | byte :: high :: low :: rest =>
      if byte = 0x25 then
        match hexValue high, hexValue low with
        | some high', some low' => UInt8.ofNat (high' * 16 + low') :: percentDecode rest
        | _, _ => byte :: percentDecode (high :: low :: rest)
      else
        byte :: percentDecode (high :: low :: rest)

scoped instance : PercentEncoding where
  percentEncode asciiSet bytes := bytes.flatMap (percentEncodeByte asciiSet)
  percentDecode := percentDecode

scoped instance : LawfulPercentEncoding where
  encode _ _ := rfl
  decode_nil := rfl
  decode_cons byte rest apart := by
    match rest with
    | [] => rfl
    | [_] => rfl
    | _ :: _ :: _ => exact if_neg apart
  decode_escape high low high' low' rest isHigh isLow := by
    change percentDecode (0x25 :: high :: low :: rest) = _
    simp only [percentDecode, if_true, isHigh, isLow]
    rfl

/-- Two languages. -/
inductive Language
  | en
  | de
  deriving DecidableEq

scoped instance : LanguageTag Language where
  parse text :=
    if text = ['e', 'n'] then some .en else if text = ['d', 'e'] then some .de else none
  display
    | .en => ['e', 'n']
    | .de => ['d', 'e']

scoped instance : LawfulLanguageTag Language where
  parse_display tag := by cases tag <;> rfl
  nonempty tag := by cases tag <;> exact List.cons_ne_nil _ _
  plain tag character inside := by
    have letters : character ∈ ['e', 'n', 'd'] := by
      cases tag with
      | en => exact List.mem_append_left ['d'] inside
      | de => exact (by decide : ['d', 'e'] ⊆ ['e', 'n', 'd']) inside
    simp only [List.mem_cons, List.not_mem_nil, or_false] at letters
    rcases letters with rfl | rfl | rfl
    · exact .inl rfl
    · exact .inl rfl
    · exact .inl rfl

end Bytewise

section Bytewise

open Bytewise

/-- The pound sign, and a space. -/
def pound : ExtendedValue Bytewise.Language := ⟨"UTF-8".toList, some .en, [0xC2, 0xA3, 0x20]⟩

theorem ExtendedValue.parse_display_pound
    : ExtendedValue.parseExtendedValue pound.display = .ok pound :=
  (ExtendedValue.parse_display_iff pound).1.mpr (by decide)

end Bytewise

end BoltLoad
