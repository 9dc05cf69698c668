import BoltLoad.Rust.Text

/-! The bytes of a text, and trimming one of its ends. -/

namespace BoltLoad.Text

/-- `str::as_bytes`. -/
def asBytes (text : Text) : Bytes := text.flatMap String.utf8EncodeChar

/-- `String::from_utf8`, or `str::from_utf8`. -/
def fromUtf8 (bytes : Bytes) : Option Text := bytes.toByteArray.utf8Decode?.map Array.toList

/-- `str::trim_start`. -/
def trimStart (text : Text) : Text := text.dropWhile isWhitespace

-----------------------------------------------------------------------------------------
-- Bytes
-----------------------------------------------------------------------------------------

@[simp] theorem asBytes_append (left right : Text)
    : asBytes (left ++ right) = asBytes left ++ asBytes right :=
  List.flatMap_append

theorem fromUtf8_asBytes (text : Text)
    : fromUtf8 (asBytes text) = some text := by
  have decoded : (asBytes text).toByteArray.utf8Decode? = some text.toArray :=
    List.utf8Decode?_utf8Encode
  rw [fromUtf8, decoded, Option.map_some]

/-- The bytes that are UTF-8 are those of a text. -/
theorem fromUtf8_eq_some_iff {bytes : Bytes} {text : Text}
    : fromUtf8 bytes = some text ↔ bytes = asBytes text := by
  constructor
  · intro is
    obtain ⟨characters, decoded, rfl⟩ := Option.map_eq_some_iff.mp is
    have valid : bytes.toByteArray.utf8Decode?.isSome = true := by
      rw [decoded]
      rfl
    have encoded := ByteArray.utf8Encode_get_utf8Decode? (h := valid)
    have same : bytes.toByteArray.utf8Decode?.get valid = characters :=
      Option.get_of_eq_some valid decoded
    rw [same] at encoded
    exact (List.toByteArray_inj.mp encoded).symm
  · rintro rfl
    exact fromUtf8_asBytes text

/-- An ASCII character is one byte, its code. -/
theorem encode_of_ascii {character : Char} (ascii : character.toNat ≤ 0x7F)
    : String.utf8EncodeChar character = [UInt8.ofNat character.toNat] :=
  if_pos ascii

/-- Another one has bytes beyond ASCII only. -/
theorem le_of_mem_encode {character : Char} (beyond : 0x7F < character.toNat) {byte : UInt8}
    (inside : byte ∈ String.utf8EncodeChar character)
    : 0x80 ≤ byte.toNat := by
  have large {lead tail : Nat} (marked : 0x80 ≤ lead) (fits : lead + tail < 0x100)
      (is : byte = UInt8.ofNat (tail + lead))
      : 0x80 ≤ byte.toNat := by
    rw [is, UInt8.toNat_ofNat']
    omega
  have more : ¬character.val.toNat ≤ 0x7F := Nat.not_le.mpr beyond
  unfold String.utf8EncodeChar at inside
  simp only [if_neg more] at inside
  split at inside
  · simp only [List.mem_cons, List.not_mem_nil, or_false] at inside
    rcases inside with is | is
    · exact large (by decide) (by omega) is
    · exact large (by decide) (by omega) is
  · split at inside
    · simp only [List.mem_cons, List.not_mem_nil, or_false] at inside
      rcases inside with is | is | is
      · exact large (by decide) (by omega) is
      · exact large (by decide) (by omega) is
      · exact large (by decide) (by omega) is
    · simp only [List.mem_cons, List.not_mem_nil, or_false] at inside
      rcases inside with is | is | is | is
      · exact large (by decide) (by omega) is
      · exact large (by decide) (by omega) is
      · exact large (by decide) (by omega) is
      · exact large (by decide) (by omega) is

theorem encode_ne_nil (character : Char)
    : String.utf8EncodeChar character ≠ [] := by
  intro none
  have positive := character.utf8Size_pos
  rw [← String.length_utf8EncodeChar, none] at positive
  exact Nat.lt_irrefl _ positive

/-- The byte of an ASCII character is in no other one. -/
theorem not_mem_encode {special character : Char} (ascii : special.toNat ≤ 0x7F)
    (apart : character ≠ special)
    : ∀ byte ∈ String.utf8EncodeChar character, byte ≠ UInt8.ofNat special.toNat := by
  rintro _ inside rfl
  have small : (UInt8.ofNat special.toNat).toNat = special.toNat := by
    rw [UInt8.toNat_ofNat']
    omega
  rcases Nat.lt_or_ge 0x7F character.toNat with beyond | within
  · have large := le_of_mem_encode beyond inside
    omega
  · rw [encode_of_ascii within, List.mem_singleton] at inside
    have same := congrArg UInt8.toNat inside
    rw [small, UInt8.toNat_ofNat', Nat.mod_eq_of_lt (by omega)] at same
    exact apart (Char.toNat_inj.mp same.symm)

-----------------------------------------------------------------------------------------
-- Trimming
-----------------------------------------------------------------------------------------

/-- The text does not begin with whitespace. -/
def StartsPlain (text : Text) : Prop := ∀ character ∈ text.head?, isWhitespace character = false

instance (text : Text) : Decidable text.StartsPlain :=
  inferInstanceAs (Decidable (∀ character ∈ text.head?, _))

/-- The text does not end with whitespace. -/
def EndsPlain (text : Text) : Prop := ∀ character ∈ text.getLast?, isWhitespace character = false

instance (text : Text) : Decidable text.EndsPlain :=
  inferInstanceAs (Decidable (∀ character ∈ text.getLast?, _))

variable {text left right : Text}

theorem trim_eq (text : Text)
    : trim text = trimEnd (trimStart text) :=
  rfl

theorem trimStart_eq_self (plain : StartsPlain text)
    : trimStart text = text := by
  cases text with
  | nil => rfl
  | cons head rest =>
      rw [trimStart, List.dropWhile_cons_of_neg (by rw [plain head rfl]; exact Bool.false_ne_true)]

theorem trimEnd_eq_self (plain : EndsPlain text)
    : trimEnd text = text := by
  refine List.rdropWhile_eq_self_iff.mpr (fun nonempty => ?_)
  rw [plain _ (List.getLast?_eq_some_getLast nonempty)]
  exact Bool.false_ne_true

theorem startsPlain_trimStart (text : Text)
    : StartsPlain (trimStart text) := by
  intro character first
  have stops := List.head?_dropWhile_not isWhitespace text
  rw [show text.dropWhile isWhitespace = trimStart text from rfl, first] at stops
  exact stops

theorem endsPlain_trimEnd (text : Text)
    : EndsPlain (trimEnd text) := by
  intro character last
  have nonempty : trimEnd text ≠ [] := by
    intro none
    rw [none] at last
    cases last
  have stops : ¬isWhitespace ((trimEnd text).getLast nonempty) = true :=
    List.rdropWhile_last_not isWhitespace text nonempty
  rw [List.getLast?_eq_some_getLast nonempty, Option.mem_some_iff] at last
  rw [← last]
  exact eq_false_of_ne_true stops

theorem trimEnd_isPrefix (text : Text)
    : trimEnd text <+: text :=
  List.rdropWhile_prefix isWhitespace text

theorem StartsPlain.of_isPrefix (plain : StartsPlain text) (part : left <+: text)
    : StartsPlain left := by
  obtain ⟨rest, rfl⟩ := part
  cases left with
  | nil => exact fun _ never => by cases never
  | cons head left => exact plain

/-- What ends a text decides how it is trimmed. -/
theorem trimEnd_append (solid : ∃ character ∈ right, isWhitespace character = false)
    : trimEnd (left ++ right) = left ++ trimEnd right := by
  obtain ⟨character, inside, plain⟩ := solid
  have some : ¬∀ other ∈ right.reverse, isWhitespace other = true := by
    intro blank
    rw [blank character (List.mem_reverse.mpr inside)] at plain
    cases plain
  have stops : right.reverse.dropWhile isWhitespace ≠ [] :=
    fun none => some (List.dropWhile_eq_nil_iff.mp none)
  rw [trimEnd, trimEnd, List.reverse_append, List.dropWhile_append]
  rw [if_neg (by simpa using stops), List.reverse_append, List.reverse_reverse]

/-- A text that does not end with whitespace is not trimmed. -/
theorem EndsPlain.trimEnd_append (plain : EndsPlain left) (right : Text)
    : trimEnd (left ++ right) = left ++ trimEnd right := by
  by_cases solid : ∃ character ∈ right, isWhitespace character = false
  · exact Text.trimEnd_append solid
  · have blank : ∀ character ∈ right.reverse, isWhitespace character = true := by
      intro character inside
      refine eq_true_of_ne_false (fun apart => solid ⟨character, ?_, apart⟩)
      exact List.mem_reverse.mp inside
    have none : trimEnd right = [] := by
      rw [trimEnd, List.dropWhile_eq_nil_iff.mpr blank]
      rfl
    have same : trimEnd (left ++ right) = trimEnd left := by
      rw [trimEnd, List.reverse_append, List.dropWhile_append_of_pos blank]
      rfl
    rw [same, none, List.append_nil, trimEnd_eq_self plain]

/-- The end of a text that is not whitespace stays. -/
theorem EndsPlain.append (plain : EndsPlain right) (nonempty : right ≠ [])
    : EndsPlain (left ++ right) := by
  intro character last
  rw [List.getLast?_append_of_ne_nil _ nonempty] at last
  exact plain character last

/-- A text that is not blank does not end with whitespace once trimmed. -/
theorem exists_of_startsPlain (plain : StartsPlain text) (nonempty : text ≠ [])
    : ∃ character ∈ text, isWhitespace character = false := by
  cases text with
  | nil => exact absurd rfl nonempty
  | cons head rest => exact ⟨head, .head _, plain head rfl⟩

end BoltLoad.Text
