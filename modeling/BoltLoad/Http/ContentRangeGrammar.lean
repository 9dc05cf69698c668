import BoltLoad.Http.ContentRange

/-! The `Content-Range` values that are accepted, as a grammar: the unit `bytes`, whitespace and
`first-last/complete` with whitespace around each part; and the printed form of a range, which
is one of them.
-/

namespace BoltLoad

namespace ContentRange

/-- The decimal digits of a number of 64 bits. -/
structure DecimalOf (digits : Text) (value : Nat) : Prop where
  nonempty : digits ≠ []
  isDigit : ∀ character ∈ digits, character.isDigit = true
  denotes : Nat.ofDigitChars 10 digits 0 = value
  fits : value < u64Size

/-- The complete length of a range: `*` for an unknown one, or its digits. -/
inductive CompleteOf : Text → Option Nat → Prop
  | unknown : CompleteOf "*".toList none
  | known {digits : Text} {complete : Nat} (number : DecimalOf digits complete)
    : CompleteOf digits (some complete)

/-- The first byte of a range is not behind its last, which is within a known length. -/
structure Ordered (range : ContentRange) : Prop where
  span : range.first ≤ range.last
  within : ∀ complete, range.complete = some complete → range.last < complete

/-- What the parts of a value are, once it is trimmed. -/
structure Denotes (value : String) (range : ContentRange) : Prop where
  parts : ∃ unit space first last complete firstPart lastPart completePart,
    Text.trim value.toList = unit ++ space :: (firstPart ++ '-' :: (lastPart ++ '/' :: completePart))
    ∧ Text.eqIgnoreAsciiCase unit "bytes".toList = true
    ∧ Text.isAsciiWhitespace space = true
    ∧ Text.Around first firstPart ∧ DecimalOf first range.first
    ∧ Text.Around last lastPart ∧ DecimalOf last range.last
    ∧ Text.Around complete completePart ∧ CompleteOf complete range.complete
  ordered : range.Ordered

/-- `Display`. -/
def display (range : ContentRange) : String :=
  "bytes " ++ toString range.first ++ "-" ++ toString range.last ++ "/"
    ++ match range.complete with
      | some complete => toString complete
      | none => "*"

/-- The fields are of 64 bits. -/
structure Representable (range : ContentRange) : Prop where
  first : range.first < u64Size
  last : range.last < u64Size
  complete : ∀ complete, range.complete = some complete → complete < u64Size

-----------------------------------------------------------------------------------------
-- Characters
-----------------------------------------------------------------------------------------

/-- A digit is neither whitespace nor one of the separators. -/
theorem solid_of_isDigit {character : Char} (digit : character.isDigit = true)
    : Text.isWhitespace character = false ∧ character ≠ '-' ∧ character ≠ '/'
      ∧ character ≠ '*' := by
  refine ⟨Text.isWhitespace_of_isDigit digit, ?_, ?_, ?_⟩
  all_goals
    rintro rfl
    revert digit
    decide

/-- Whitespace is none of the separators. -/
theorem ne_of_isWhitespace {character : Char} (blank : Text.isWhitespace character = true)
    : character ≠ '-' ∧ character ≠ '/' := by
  constructor
  all_goals
    rintro rfl
    revert blank
    decide

/-- The letters of the unit are not whitespace, in either case. -/
theorem solid_of_unit {unit : Text}
    (named : Text.eqIgnoreAsciiCase unit "bytes".toList = true)
    : ∀ character ∈ unit, Text.isAsciiWhitespace character = false := by
  intro character member
  have lowered : unit.map Char.toLower = "bytes".toList.map Char.toLower := beq_iff_eq.mp named
  have among : character.toLower ∈ "bytes".toList.map Char.toLower :=
    lowered ▸ List.mem_map_of_mem member
  by_contra blank
  have code : character.toNat = 0x20 ∨ character.toNat = 0x9 ∨ character.toNat = 0xA
      ∨ character.toNat = 0xC ∨ character.toNat = 0xD := by
    simp only [Text.isAsciiWhitespace, Bool.not_eq_false, Bool.or_eq_true, beq_iff_eq] at blank
    omega
  rcases code with code | code | code | code | code
  all_goals
    rw [← Char.ofNat_toNat character, code] at among
    revert among
    decide

-----------------------------------------------------------------------------------------
-- Parts
-----------------------------------------------------------------------------------------

theorem DecimalOf.solid {digits : Text} {value : Nat} (decimal : DecimalOf digits value)
    : ∀ character ∈ digits, Text.isWhitespace character = false :=
  fun character member => (solid_of_isDigit (decimal.isDigit character member)).1

theorem parseU64_eq (digits : Text)
    : Text.parseU64 digits
      = if Nat.ofDigitChars 10 digits 0 < u64Size then
          some (Nat.ofDigitChars 10 digits 0)
        else
          none := by
  rw [Nat.ofDigitChars_eq_foldl]
  simp only [Text.parseU64, Nat.mul_comm _ 10]
  rfl

/-- A part is a number when it is one's digits between whitespace. -/
theorem number_eq_some_iff {part : Text} {value : Nat}
    : number part = some value ↔ ∃ digits, Text.Around digits part ∧ DecimalOf digits value := by
  constructor
  · intro found
    refine ⟨Text.trim part, Text.around_trim part, ?_⟩
    unfold number at found
    dsimp only at found
    split at found
    · cases found
    · rename_i digits
      simp only [Bool.or_eq_true, List.isEmpty_iff, Bool.not_eq_true', List.all_eq_false,
        not_or, not_exists, not_and, Bool.not_eq_true] at digits
      rw [parseU64_eq] at found
      split at found
      · rename_i fits
        cases found
        refine ⟨digits.1, fun character member => ?_, rfl, fits⟩
        simpa using digits.2 character member
      · cases found
  · rintro ⟨digits, around, decimal⟩
    have trimmed : Text.trim part = digits :=
      Text.trim_eq_of_around around (Text.trimmed_of_forall decimal.solid)
    unfold number
    dsimp only
    rw [trimmed, parseU64_eq, decimal.denotes, if_pos decimal.fits, if_neg]
    simp only [Bool.or_eq_true, List.isEmpty_iff, Bool.not_eq_true', List.all_eq_false,
      not_or, not_exists, not_and, not_not]
    exact ⟨decimal.nonempty, decimal.isDigit⟩

/-- The star has no whitespace at its ends. -/
theorem trimmed_star : Text.Trimmed "*".toList := by
  refine Text.trimmed_of_forall fun character member => ?_
  obtain rfl : character = '*' := by simpa using member
  rfl

theorem completeLength_eq_some_iff {part : Text} {complete : Option Nat}
    : completeLength part = some complete
      ↔ ∃ inner, Text.Around inner part ∧ CompleteOf inner complete := by
  unfold completeLength
  split
  · rename_i star
    constructor
    · intro found
      cases found
      exact ⟨_, Text.around_trim part, star ▸ .unknown⟩
    · rintro ⟨inner, around, unknown | ⟨decimal⟩⟩
      · rfl
      · -- The star is no digit.
        have digits := Text.trim_eq_of_around around (Text.trimmed_of_forall decimal.solid)
        have digit := decimal.isDigit '*' (by rw [← digits, star]; decide)
        exact absurd digit (by decide)
  · rename_i numbered
    constructor
    · intro found
      obtain ⟨value, parsed, rfl⟩ := Option.map_eq_some_iff.mp found
      obtain ⟨digits, around, decimal⟩ := number_eq_some_iff.mp parsed
      exact ⟨digits, around.trans (Text.around_trim part), .known decimal⟩
    · rintro ⟨inner, around, unknown | ⟨decimal⟩⟩
      · exact absurd (Text.trim_eq_of_around around trimmed_star) numbered
      · rw [Text.trim_eq_of_around around (Text.trimmed_of_forall decimal.solid),
          number_eq_some_iff.mpr ⟨inner, .refl inner, decimal⟩]
        rfl

theorem byteRange_eq_some_iff {value range : Text}
    : byteRange value = some range
      ↔ ∃ unit space, value.trim = unit ++ space :: range
        ∧ Text.eqIgnoreAsciiCase unit "bytes".toList = true
        ∧ Text.isAsciiWhitespace space = true := by
  unfold byteRange
  constructor
  · intro found
    obtain ⟨⟨unit, rest⟩, splits, named⟩ := Option.bind_eq_some_iff.mp found
    dsimp only at named
    split at named
    · rename_i isUnit
      cases named
      obtain ⟨space, isSpace, parts, _⟩ := Text.splitOnce_eq_some_iff.mp splits
      exact ⟨unit, space, parts, isUnit, isSpace⟩
    · cases named
  · rintro ⟨unit, space, parts, isUnit, isSpace⟩
    have splits : Text.splitOnce Text.isAsciiWhitespace value.trim = some (unit, range) :=
      Text.splitOnce_eq_some_iff.mpr ⟨space, isSpace, parts, solid_of_unit isUnit⟩
    rw [splits]
    exact if_pos isUnit

/-- Whitespace around digits holds none of the separators. -/
theorem clean_of_around {digits part : Text} {value : Nat} (around : Text.Around digits part)
    (decimal : DecimalOf digits value)
    : ∀ character ∈ part, character ≠ '-' ∧ character ≠ '/' := by
  obtain ⟨left, right, rfl, before, after⟩ := around
  refine List.forall_mem_append.mpr ⟨List.forall_mem_append.mpr ⟨?_, ?_⟩, ?_⟩
  · exact fun character member => ne_of_isWhitespace (before character member)
  · intro character member
    obtain ⟨_, dash, slash, _⟩ := solid_of_isDigit (decimal.isDigit character member)
    exact ⟨dash, slash⟩
  · exact fun character member => ne_of_isWhitespace (after character member)

/-- The slash behind the span is the first one. -/
theorem splitOnce_span {first last firstPart lastPart completePart : Text} {low high : Nat}
    (firstAround : Text.Around first firstPart) (isFirst : DecimalOf first low)
    (lastAround : Text.Around last lastPart) (isLast : DecimalOf last high)
    : Text.splitOnce (· == '/') (firstPart ++ '-' :: (lastPart ++ '/' :: completePart))
      = some (firstPart ++ '-' :: lastPart, completePart) := by
  refine Text.splitOnce_eq_some_iff.mpr ⟨'/', rfl, by rw [List.append_assoc]; rfl, ?_⟩
  intro character member
  refine beq_eq_false_iff_ne.mpr ?_
  rcases List.mem_append.mp member with front | behind
  · exact (clean_of_around firstAround isFirst character front).2
  · rcases List.mem_cons.mp behind with rfl | behind
    · decide
    · exact (clean_of_around lastAround isLast character behind).2

-----------------------------------------------------------------------------------------
-- Values
-----------------------------------------------------------------------------------------

/-- The last check of `from_str` is for the inequalities. -/
theorem checked_iff {first last : Nat} {complete : Option Nat}
    : (first > last || complete.any (fun complete => last ≥ complete)) = false
      ↔ Ordered ⟨first, last, complete⟩ := by
  rw [Bool.or_eq_false_iff, decide_eq_false_iff_not, Nat.not_lt]
  constructor
  · rintro ⟨span, within⟩
    refine ⟨span, fun total known => ?_⟩
    dsimp only at known
    subst known
    exact Nat.lt_of_not_le (of_decide_eq_false within)
  · intro ordered
    refine ⟨ordered.span, ?_⟩
    cases complete with
    | none => rfl
    | some total => exact decide_eq_false (Nat.not_le_of_lt (ordered.within total rfl))

/-- `from_str` accepts exactly the values of the grammar, each as the range it denotes. -/
theorem fromStr_eq_some_iff {value : String} {range : ContentRange}
    : fromStr value = some range ↔ Denotes value range := by
  unfold fromStr
  simp only [Option.bind_eq_bind, Option.bind_eq_some_iff]
  constructor
  · rintro ⟨rest, isRest, ⟨span, completePart⟩, slash, ⟨firstPart, lastPart⟩, dash, low, isLow,
      high, isHigh, length, isLength, checked⟩
    obtain ⟨unit, space, trimmed, isUnit, isSpace⟩ := byteRange_eq_some_iff.mp isRest
    obtain ⟨slash, isSlash, rfl, _⟩ := Text.splitOnce_eq_some_iff.mp slash
    obtain ⟨dash, isDash, rfl, _⟩ := Text.splitOnce_eq_some_iff.mp dash
    obtain rfl := beq_iff_eq.mp isSlash
    obtain rfl := beq_iff_eq.mp isDash
    obtain ⟨first, firstAround, isFirst⟩ := number_eq_some_iff.mp isLow
    obtain ⟨last, lastAround, isLast⟩ := number_eq_some_iff.mp isHigh
    obtain ⟨complete, completeAround, isComplete⟩ := completeLength_eq_some_iff.mp isLength
    split at checked
    · cases checked
    · rename_i valid
      cases checked
      refine ⟨⟨unit, space, first, last, complete, firstPart, lastPart, completePart, ?_, isUnit,
        isSpace, firstAround, isFirst, lastAround, isLast, completeAround, isComplete⟩,
        checked_iff.mp (Bool.eq_false_of_not_eq_true valid)⟩
      rw [trimmed, List.append_assoc]
      rfl
  · rintro ⟨⟨unit, space, first, last, complete, firstPart, lastPart, completePart, trimmed,
      isUnit, isSpace, firstAround, isFirst, lastAround, isLast, completeAround, isComplete⟩,
      ordered⟩
    have firstClean := clean_of_around firstAround isFirst
    refine ⟨firstPart ++ '-' :: (lastPart ++ '/' :: completePart),
      byteRange_eq_some_iff.mpr ⟨unit, space, trimmed, isUnit, isSpace⟩,
      (firstPart ++ '-' :: lastPart, completePart),
      splitOnce_span firstAround isFirst lastAround isLast, (firstPart, lastPart),
      Text.splitOnce_eq_some_iff.mpr ⟨'-', rfl, rfl, ?_⟩,
      range.first, number_eq_some_iff.mpr ⟨first, firstAround, isFirst⟩,
      range.last, number_eq_some_iff.mpr ⟨last, lastAround, isLast⟩,
      range.complete, completeLength_eq_some_iff.mpr ⟨complete, completeAround, isComplete⟩, ?_⟩
    · exact fun character member => beq_eq_false_iff_ne.mpr (firstClean character member).1
    · rw [if_neg (by rw [checked_iff.mpr ordered]; exact Bool.false_ne_true)]

/-- What is accepted has fields of 64 bits. -/
theorem Denotes.representable {value : String} {range : ContentRange}
    (denotes : Denotes value range)
    : range.Representable := by
  obtain ⟨_, _, _, _, complete, _, _, _, _, _, _, _, first, _, last, _, isComplete⟩ :=
    denotes.parts
  refine ⟨first.fits, last.fits, fun total known => ?_⟩
  rw [known] at isComplete
  cases isComplete with
  | known number => exact number.fits

-----------------------------------------------------------------------------------------
-- Printing
-----------------------------------------------------------------------------------------

/-- A number is printed as its digits. -/
theorem decimalOf_toDigits {value : Nat} (fits : value < u64Size)
    : DecimalOf (Nat.toDigits 10 value) value where
  nonempty := Nat.toDigits_ne_nil
  isDigit _ member := Nat.isDigit_of_mem_toDigits (by decide) (by decide) member
  denotes := Nat.ofDigitChars_ten_toDigits
  fits

/-- The characters the complete length is printed with. -/
def completeText : Option Nat → Text
  | some complete => Nat.toDigits 10 complete
  | none => "*".toList

theorem toList_display (range : ContentRange)
    : range.display.toList
      = "bytes".toList ++ ' ' :: (Nat.toDigits 10 range.first
        ++ '-' :: (Nat.toDigits 10 range.last ++ '/' :: completeText range.complete)) := by
  cases complete : range.complete <;>
    simp [display, completeText, complete]

theorem completeOf_completeText {range : ContentRange} (fits : range.Representable)
    : CompleteOf (completeText range.complete) range.complete := by
  cases complete : range.complete with
  | none => exact .unknown
  | some total => exact .known (decimalOf_toDigits (fits.complete total complete))

/-- A complete length has no whitespace at its ends. -/
theorem CompleteOf.trimmed {text : Text} {complete : Option Nat}
    (isComplete : CompleteOf text complete)
    : text ≠ [] ∧ Text.Trimmed text := by
  cases isComplete with
  | unknown => exact ⟨by simp, trimmed_star⟩
  | known number => exact ⟨number.nonempty, Text.trimmed_of_forall number.solid⟩

/-- What is printed has no whitespace at its ends. -/
theorem trimmed_display {range : ContentRange} (fits : range.Representable)
    : Text.Trimmed range.display.toList := by
  rw [toList_display]
  constructor
  · intro character first
    obtain rfl : 'b' = character := by simpa using first
    rfl
  · intro character last
    obtain ⟨nonempty, trimmed⟩ := (completeOf_completeText fits).trimmed
    obtain ⟨final, ends⟩ := Option.isSome_iff_exists.mp (List.getLast?_isSome.mpr nonempty)
    obtain rfl : final = character := by
      simpa [List.getLast?_append, List.getLast?_cons, ends] using last
    exact trimmed.last final ends

/-- A range of 64-bit fields is read back from its printed form when it satisfies the
inequalities.
-/
theorem denotes_display {range : ContentRange} (fits : range.Representable)
    (ordered : range.Ordered)
    : Denotes range.display range where
  parts := by
    refine ⟨"bytes".toList, ' ', _, _, _, _, _, _, ?_, by decide +kernel, rfl,
      .refl _, decimalOf_toDigits fits.first, .refl _, decimalOf_toDigits fits.last,
      .refl _, completeOf_completeText fits⟩
    rw [← toList_display]
    exact Text.trim_eq_of_around (.refl _) (trimmed_display fits)
  ordered

/-- The star of an unsatisfied range is no span. -/
theorem unsatisfiedComplete_of_denotes {value : String} {range : ContentRange}
    (denotes : Denotes value range)
    : unsatisfiedComplete value = none := by
  obtain ⟨unit, space, first, last, complete, firstPart, lastPart, completePart, trimmed, isUnit,
    isSpace, firstAround, isFirst, lastAround, isLast, _⟩ := denotes.parts
  have rest := byteRange_eq_some_iff.mpr ⟨unit, space, trimmed, isUnit, isSpace⟩
  have span := @splitOnce_span _ _ _ _ completePart _ _ firstAround isFirst lastAround isLast
  have dashed : Text.trim (firstPart ++ '-' :: lastPart) ≠ "*".toList := by
    intro star
    obtain ⟨left, right, parts, before, after⟩ :=
      star ▸ Text.around_trim (firstPart ++ '-' :: lastPart)
    have dash : '-' ∈ left ++ "*".toList ++ right :=
      parts ▸ List.mem_append_right _ List.mem_cons_self
    simp only [List.mem_append] at dash
    rcases dash with (front | inside) | behind
    · exact absurd (before '-' front) (by decide)
    · simp at inside
    · exact absurd (after '-' behind) (by decide)
  simp only [unsatisfiedComplete, rest, Option.bind_eq_bind, Option.bind_some, span,
    if_neg dashed]

/-- Reading and printing ranges: exactly the values of the grammar are accepted; a range is
read back from its printed form when it satisfies the inequalities, so that what any accepted
value denotes is; and none of them is an unsatisfied range as well.
-/
theorem content_range_grammar
    : (∀ value range, fromStr value = some range ↔ Denotes value range)
      ∧ (∀ range : ContentRange, range.Representable →
          (fromStr range.display = some range ↔ range.Ordered))
      ∧ (∀ value range, fromStr value = some range → fromStr range.display = some range)
      ∧ ∀ value, fromStr value = none ∨ unsatisfiedComplete value = none := by
  refine ⟨fun value range => fromStr_eq_some_iff, fun range fits => ?_,
    fun value range accepted => ?_, fun value => ?_⟩
  · constructor
    · exact fun accepted => (fromStr_eq_some_iff.mp accepted).ordered
    · exact fun ordered => fromStr_eq_some_iff.mpr (denotes_display fits ordered)
  · have denotes := fromStr_eq_some_iff.mp accepted
    exact fromStr_eq_some_iff.mpr (denotes_display denotes.representable denotes.ordered)
  · cases accepted : fromStr value with
    | none => exact .inl rfl
    | some range => exact .inr (unsatisfiedComplete_of_denotes (fromStr_eq_some_iff.mp accepted))

/-- A value with whitespace in it, and the range it is printed as. -/
theorem content_range_grammar_spaced
    : fromStr (display ⟨2, 5, some 10⟩) = some ⟨2, 5, some 10⟩
      ∧ (fromStr (display ⟨5, 2, none⟩) = some ⟨5, 2, none⟩ ↔ Ordered ⟨5, 2, none⟩)
      ∧ Denotes " Bytes\t 2 - 5/10" ⟨2, 5, some 10⟩ := by
  have grammar := content_range_grammar
  have accepted : fromStr " Bytes\t 2 - 5/10" = some ⟨2, 5, some 10⟩ := by decide +kernel
  exact ⟨grammar.2.2.1 _ _ accepted,
    grammar.2.1 _ ⟨by decide, by decide, (fun _ never => by cases never)⟩,
    (grammar.1 _ _).mp accepted⟩

end ContentRange

end BoltLoad
