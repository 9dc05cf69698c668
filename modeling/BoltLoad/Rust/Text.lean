import BoltLoad.Rust.Checked

/-! The operations of `str` the header parsers use, over the characters of a text. -/

namespace BoltLoad

/-- The characters of a `str`. -/
abbrev Text := List Char

namespace Text

/-- `char::is_whitespace`: the characters with the Unicode property `White_Space`. -/
def isWhitespace (character : Char) : Bool :=
  let code := character.toNat
  (0x9 ≤ code && code ≤ 0xD) || code == 0x20 || code == 0x85 || code == 0xA0 || code == 0x1680
    || (0x2000 ≤ code && code ≤ 0x200A) || code == 0x2028 || code == 0x2029
    || code == 0x202F || code == 0x205F || code == 0x3000

/-- `char::is_ascii_whitespace`, which leaves out the vertical tab. -/
def isAsciiWhitespace (character : Char) : Bool :=
  let code := character.toNat
  code == 0x20 || code == 0x9 || code == 0xA || code == 0xC || code == 0xD

/-- `str::trim`. -/
def trim (text : Text) : Text :=
  ((text.dropWhile isWhitespace).reverse.dropWhile isWhitespace).reverse

/-- `str::trim_end`. -/
def trimEnd (text : Text) : Text := (text.reverse.dropWhile isWhitespace).reverse

/-- `str::split_once`: what stands before and after the first separator. -/
def splitOnce (separates : Char → Bool) : Text → Option (Text × Text)
  | [] => none
  | head :: rest =>
      if separates head then
        some ([], rest)
      else
        (splitOnce separates rest).map (fun (before, after) => (head :: before, after))

/-- `str::eq_ignore_ascii_case`. -/
def eqIgnoreAsciiCase (left right : Text) : Bool :=
  left.map Char.toLower == right.map Char.toLower

/-- `str::parse::<u64>` of decimal digits. -/
def parseU64 (digits : Text) : Option Nat :=
  let value := digits.foldl (fun value digit => value * 10 + (digit.toNat - 0x30)) 0
  if value < u64Size then some value else none

theorem parseU64_lt {digits : Text} {value : Nat} (parsed : parseU64 digits = some value)
    : value < u64Size := by
  unfold parseU64 at parsed
  dsimp only at parsed
  split at parsed
  · cases parsed
    assumption
  · cases parsed

/-- The first separator splits a text. -/
theorem splitOnce_eq_some_iff {separates : Char → Bool} {text before after : Text}
    : splitOnce separates text = some (before, after)
      ↔ ∃ separator, separates separator = true ∧ text = before ++ separator :: after
        ∧ ∀ character ∈ before, separates character = false := by
  induction text generalizing before with
  | nil => simp [splitOnce]
  | cons head rest ih =>
      cases separated : separates head with
      | true =>
          rw [splitOnce, if_pos separated, Option.some.injEq, Prod.mk.injEq]
          constructor
          · rintro ⟨rfl, rfl⟩
            exact ⟨head, separated, rfl, fun _ never => by cases never⟩
          · rintro ⟨separator, _, same, clean⟩
            cases before with
            | nil =>
                cases same
                exact ⟨rfl, rfl⟩
            | cons first before =>
                cases same
                rw [clean head List.mem_cons_self] at separated
                cases separated
      | false =>
          rw [splitOnce, if_neg (by rw [separated]; exact Bool.false_ne_true)]
          constructor
          · intro found
            obtain ⟨⟨front, back⟩, later, same⟩ := Option.map_eq_some_iff.mp found
            cases same
            obtain ⟨separator, isSeparator, same, clean⟩ := ih.mp later
            refine ⟨separator, isSeparator, by rw [same]; rfl, ?_⟩
            exact List.forall_mem_cons.mpr ⟨separated, clean⟩
          · rintro ⟨separator, isSeparator, same, clean⟩
            cases before with
            | nil =>
                cases same
                rw [isSeparator] at separated
                cases separated
            | cons first before =>
                obtain ⟨rfl, rest⟩ := List.cons.inj same
                have later := ih.mpr ⟨separator, isSeparator, rest,
                  fun character member => clean character (List.mem_cons_of_mem _ member)⟩
                rw [later]
                rfl

/-- A digit is not whitespace. -/
theorem isWhitespace_of_isDigit {character : Char} (digit : character.isDigit = true)
    : isWhitespace character = false := by
  have bounds : 48 ≤ character.toNat ∧ character.toNat ≤ 57 := Char.isDigit_iff_toNat.mp digit
  simp only [isWhitespace, Bool.or_eq_false_iff, Bool.and_eq_false_iff,
    decide_eq_false_iff_not, beq_eq_false_iff_ne]
  omega

/-- A text between whitespace. -/
def Around (inner text : Text) : Prop :=
  ∃ left right, text = left ++ inner ++ right
    ∧ (∀ character ∈ left, isWhitespace character = true)
    ∧ ∀ character ∈ right, isWhitespace character = true

theorem Around.refl (text : Text) : Around text text :=
  ⟨[], [], by rw [List.nil_append, List.append_nil], List.forall_mem_nil _, List.forall_mem_nil _⟩

/-- Whitespace around whitespace is whitespace around. -/
theorem Around.trans {inner middle text : Text} (within : Around inner middle)
    (around : Around middle text)
    : Around inner text := by
  obtain ⟨left, right, rfl, before, after⟩ := within
  obtain ⟨outerLeft, outerRight, rfl, outerBefore, outerAfter⟩ := around
  refine ⟨outerLeft ++ left, right ++ outerRight, by simp only [List.append_assoc], ?_, ?_⟩
  · exact List.forall_mem_append.mpr ⟨outerBefore, before⟩
  · exact List.forall_mem_append.mpr ⟨after, outerAfter⟩

/-- A text without whitespace at its ends. -/
structure Trimmed (text : Text) : Prop where
  head : ∀ character, text.head? = some character → isWhitespace character = false
  last : ∀ character, text.getLast? = some character → isWhitespace character = false

/-- Trimming takes whitespace off both ends. -/
theorem around_trim (text : Text) : Around (trim text) text := by
  refine ⟨text.takeWhile isWhitespace,
    ((text.dropWhile isWhitespace).reverse.takeWhile isWhitespace).reverse, ?_,
    fun character member => List.mem_takeWhile_imp member, ?_⟩
  · rw [trim, List.append_assoc, ← List.reverse_append, List.takeWhile_append_dropWhile,
      List.reverse_reverse, List.takeWhile_append_dropWhile]
  · intro character member
    exact List.mem_takeWhile_imp (List.mem_reverse.mp member)

/-- Trimming finds the text between the whitespace. -/
theorem trim_eq_of_around {inner text : Text} (around : Around inner text)
    (trimmed : Trimmed inner)
    : trim text = inner := by
  obtain ⟨left, right, rfl, before, after⟩ := around
  cases inner with
  | nil =>
      have blank : ∀ character ∈ left ++ [] ++ right, isWhitespace character = true := by
        rw [List.append_nil]
        exact List.forall_mem_append.mpr ⟨before, after⟩
      rw [trim, List.dropWhile_eq_nil_iff.mpr blank]
      rfl
  | cons head rest =>
      have front : ((left ++ (head :: rest) ++ right).dropWhile isWhitespace)
          = (head :: rest) ++ right := by
        rw [List.append_assoc, List.dropWhile_append_of_pos before, List.cons_append,
          List.dropWhile_cons_of_neg (by rw [trimmed.head head rfl]; exact Bool.false_ne_true)]
      have behind : ∀ character ∈ right.reverse, isWhitespace character = true :=
        fun character member => after character (List.mem_reverse.mp member)
      rw [trim, front, List.reverse_append, List.dropWhile_append_of_pos behind]
      cases backwards : (head :: rest).reverse with
      | nil => simp at backwards
      | cons last others =>
          have isLast : (head :: rest).getLast? = some last := by
            rw [List.getLast?_eq_head?_reverse, backwards]
            rfl
          rw [List.dropWhile_cons_of_neg
            (by rw [trimmed.last last isLast]; exact Bool.false_ne_true), ← backwards,
            List.reverse_reverse]

/-- A text without any whitespace has none at its ends. -/
theorem trimmed_of_forall {text : Text}
    (solid : ∀ character ∈ text, isWhitespace character = false)
    : Trimmed text where
  head _ first := solid _ (List.mem_of_head? first)
  last _ final := solid _ (List.mem_of_getLast? final)

end Text

end BoltLoad
