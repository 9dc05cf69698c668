import BoltLoad.Http.ContentDisposition

/-! What the parser of a header returns: names that stand without quotes, charsets that end at the
first quote, and no extension that has the name of a known one.
-/

namespace BoltLoad

namespace ContentDisposition

-----------------------------------------------------------------------------------------
-- What fits the grammar
-----------------------------------------------------------------------------------------

/-- A text that stands without quotes. -/
structure IsToken (value : Text) : Prop where
  nonempty : value ≠ []
  whole : ';' ∉ value
  starts : value.StartsPlain
  ends : value.EndsPlain
  unquoted : value.head? ≠ some '"'

/-- The name of a parameter, before its asterisk if it has one. -/
structure IsName (name : Text) : Prop where
  nonempty : name ≠ []
  whole : '=' ∉ name
  starts : name.StartsPlain

/-- The name of a parameter without one. -/
structure IsRegularName (name : Text) : Prop extends IsName name where
  ends : name.EndsPlain
  plain : name.getLast? ≠ some '*'

end ContentDisposition

/-- The charset ends at the first quote. -/
structure ExtendedValue.Fits {Tag : Type} (value : ExtendedValue Tag) : Prop where
  unquoted : '\'' ∉ value.charset
  whole : ';' ∉ value.charset
  starts : value.charset.StartsPlain

/-- An extension type is none of the known ones. -/
def DispositionType.Fits : DispositionType → Prop
  | .ext value =>
      value ≠ []
      ∧ ';' ∉ value
      ∧ value.StartsPlain
      ∧ value.EndsPlain
      ∧ DispositionType.ofText value = .ext value
  | _ => True

/-- An unrecognized parameter has none of the known names. -/
def DispositionParam.Fits {Tag : Type} : DispositionParam Tag → Prop
  | .name _ => True
  | .filename _ => True
  | .filenameExt value => value.Fits
  | .unknown paramName _ =>
      ContentDisposition.IsRegularName paramName
      ∧ paramName.eqIgnoreAsciiCase "name".toList = false
      ∧ paramName.eqIgnoreAsciiCase "filename".toList = false
  | .unknownExt paramName value =>
      ContentDisposition.IsName paramName
      ∧ paramName.eqIgnoreAsciiCase "filename".toList = false
      ∧ value.Fits

namespace ContentDisposition

/-- A header its parser can return. -/
structure Fits {Tag : Type} (header : ContentDisposition Tag) : Prop where
  disposition : header.disposition.Fits
  parameters : ∀ param ∈ header.parameters, param.Fits

/-- A `name` is displayed as it is. -/
def Displayable {Tag : Type} : DispositionParam Tag → Prop
  | .name value => IsToken value
  | _ => True

-----------------------------------------------------------------------------------------
-- Splitting
-----------------------------------------------------------------------------------------

theorem splitOnce_of_not_mem {text : Text} {needle : Char} (whole : needle ∉ text)
    : splitOnce text needle = (text, []) := by
  have none : Text.splitOnce (· == needle) text = none := by
    cases found : Text.splitOnce (· == needle) text with
    | none => rfl
    | some pieces =>
        obtain ⟨before, after⟩ := pieces
        obtain ⟨separator, is, rfl, _⟩ := Text.splitOnce_eq_some_iff.mp found
        refine absurd ?_ whole
        rw [← beq_iff_eq.mp is]
        exact List.mem_append_right _ (.head _)
  rw [splitOnce, none]
  rfl

theorem splitOnce_append {before : Text} {needle : Char} (whole : needle ∉ before) (after : Text)
    : splitOnce (before ++ needle :: after) needle = (before, after) := by
  have found : Text.splitOnce (· == needle) (before ++ needle :: after) = some (before, after) := by
    refine Text.splitOnce_eq_some_iff.mpr ⟨needle, beq_self_eq_true needle, rfl, ?_⟩
    intro character inside
    rw [beq_eq_false_iff_ne]
    rintro rfl
    exact whole inside
  rw [splitOnce, found]
  rfl

/-- What stands before a needle. -/
structure Before (text : Text) (needle : Char) (first : Text) : Prop where
  whole : needle ∉ first
  part : first <+: text
  ends : first.EndsPlain

theorem splitOnce_before (text : Text) (needle : Char)
    : needle ∉ (splitOnce text needle).1 ∧ (splitOnce text needle).1 <+: text := by
  by_cases inside : needle ∈ text
  · obtain ⟨before, after, same, whole⟩ := List.eq_append_cons_of_mem inside
    rw [same, splitOnce_append whole]
    exact ⟨whole, List.prefix_append _ _⟩
  · rw [splitOnce_of_not_mem inside]
    exact ⟨inside, List.prefix_rfl⟩

theorem splitOnceAndTrim_before (text : Text) (needle : Char)
    : Before text needle (splitOnceAndTrim text needle).1 := by
  obtain ⟨whole, part⟩ := splitOnce_before text needle
  have trimmed := Text.trimEnd_isPrefix (splitOnce text needle).1
  exact ⟨fun inside => whole (trimmed.subset inside), trimmed.trans part, Text.endsPlain_trimEnd _⟩

theorem splitOnceAndTrim_after (text : Text) (needle : Char)
    : (splitOnceAndTrim text needle).2.StartsPlain :=
  Text.startsPlain_trimStart _

/-- A name ends at its equals sign. -/
theorem splitOnceAndTrim_name {name rest : Text} (whole : '=' ∉ name) (ends : name.EndsPlain)
    : splitOnceAndTrim (name ++ '=' :: rest) '=' = (name, rest.trimStart) := by
  rw [splitOnceAndTrim, splitOnce_append whole]
  simp only [Text.trimEnd_eq_self ends]

/-- What follows a parameter: nothing, or a semicolon and what is left after it. -/
def Follows (tail after : Text) : Prop :=
  tail = [] ∧ after = []
  ∨ ∃ more : Text, tail = ';' :: more ∧ after = more.trimStart

variable {tail after : Text}

/-- A value ends where its parameter does. -/
theorem Follows.splits (follows : Follows tail after) {value : Text} (whole : ';' ∉ value)
    (ends : value.EndsPlain)
    : splitOnceAndTrim (value ++ tail) ';' = (value, after) := by
  rcases follows with ⟨rfl, rfl⟩ | ⟨more, rfl, rfl⟩
  · rw [List.append_nil, splitOnceAndTrim, splitOnce_of_not_mem whole]
    simp only [Text.trimEnd_eq_self ends]
    rfl
  · rw [splitOnceAndTrim, splitOnce_append whole]
    simp only [Text.trimEnd_eq_self ends]

/-- So does a quoted string. -/
theorem Follows.closes (follows : Follows tail after)
    : (splitOnce tail ';').2.trimStart = after := by
  have splits := follows.splits (List.not_mem_nil) (fun _ never => by cases never)
  exact congrArg Prod.snd splits

-----------------------------------------------------------------------------------------
-- What is parsed fits
-----------------------------------------------------------------------------------------

variable {Tag : Type}

theorem stripSuffix_eq_some {text rest : Text} {last : Char}
    : stripSuffix text last = some rest ↔ text = rest ++ [last] := by
  unfold stripSuffix
  constructor
  · intro is
    split at is
    · rename_i found
      cases is
      exact (List.dropLast_append_getLast? last found).symm
    · cases is
  · rintro rfl
    rw [List.getLast?_concat, if_pos rfl, List.dropLast_concat]

theorem stripSuffix_eq_none {text : Text} {last : Char}
    : stripSuffix text last = none ↔ text.getLast? ≠ some last := by
  unfold stripSuffix
  split
  · rename_i found
    exact iff_of_false (fun never => by cases never) (not_not_intro found)
  · rename_i other
    exact iff_of_true rfl other

theorem regularParam_fits {name : Text} (is : IsRegularName name) (value : Text)
    : (regularParam name value : DispositionParam Tag).Fits := by
  unfold regularParam
  split
  · trivial
  · rename_i other
    split
    · trivial
    · rename_i another
      exact ⟨is, eq_false_of_ne_true other, eq_false_of_ne_true another⟩

theorem extendedParam_fits {name : Text} (is : IsName name) {value : ExtendedValue Tag}
    (fits : value.Fits)
    : (extendedParam name value).Fits := by
  unfold extendedParam
  split
  · exact fits
  · rename_i other
    exact ⟨is, eq_false_of_ne_true other, fits⟩

theorem ofText_fits {value : Text} (nonempty : value ≠ []) (whole : ';' ∉ value)
    (starts : value.StartsPlain) (ends : value.EndsPlain)
    : (DispositionType.ofText value).Fits := by
  unfold DispositionType.ofText
  split
  · trivial
  · rename_i other
    split
    · trivial
    · rename_i another
      split
      · trivial
      · rename_i last
        refine ⟨nonempty, whole, starts, ends, ?_⟩
        rw [DispositionType.ofText, if_neg other, if_neg another, if_neg last]

variable [LanguageTag Tag] [PercentEncoding]

/-- The value of an extended parameter. -/
theorem fits_of_parse {val : Text} {value : ExtendedValue Tag} (whole : ';' ∉ val)
    (starts : val.StartsPlain) (parsed : ExtendedValue.parseExtendedValue val = .ok value)
    : value.Fits := by
  obtain ⟨rest, rfl, unquoted⟩ := ExtendedValue.charset_of_parse parsed
  exact ⟨unquoted, fun inside => whole (List.mem_append_left _ inside),
    starts.of_isPrefix (List.prefix_append _ _)⟩

/-- One turn of the loop parses a parameter that fits. -/
theorem parseParameter_fits {left : Text} {param : DispositionParam Tag}
    (starts : left.StartsPlain) (is : parseParameter left = .ok (.ok (param, after)))
    : param.Fits ∧ after.StartsPlain := by
  have before := splitOnceAndTrim_before left '='
  have valueStarts := splitOnceAndTrim_after left '='
  unfold parseParameter at is
  generalize splitOnceAndTrim left '=' = pieces at is before valueStarts
  obtain ⟨paramName, value⟩ := pieces
  dsimp only at is before valueStarts
  split at is
  · cases is
  · rename_i named
    simp only [Bool.or_eq_true, List.isEmpty_iff, decide_eq_true_eq, not_or] at named
    obtain ⟨⟨nonempty, more⟩, _⟩ := named
    have nameStarts := starts.of_isPrefix before.part
    cases asterisk : stripSuffix paramName '*' with
    | some name =>
        rw [asterisk] at is
        have same := stripSuffix_eq_some.mp asterisk
        have isName : IsName name := by
          refine ⟨?_, fun inside => ?_, ?_⟩
          · rintro rfl
            exact more same
          · exact before.whole (by rw [same]; exact List.mem_append_left _ inside)
          · rw [same] at nameStarts
            exact nameStarts.of_isPrefix (List.prefix_append _ _)
        have extended := splitOnceAndTrim_before value ';'
        have rest := splitOnceAndTrim_after value ';'
        dsimp only at is
        cases parsed : (ExtendedValue.parseExtendedValue (splitOnceAndTrim value ';').1
            : Except InvalidInput (ExtendedValue Tag)) with
        | error error =>
            rw [parsed] at is
            cases is
        | ok extValue =>
            rw [parsed] at is
            cases is
            exact ⟨extendedParam_fits isName
              (fits_of_parse extended.whole (valueStarts.of_isPrefix extended.part) parsed), rest⟩
    | none =>
        rw [asterisk] at is
        have isName : IsRegularName paramName :=
          ⟨⟨nonempty, before.whole, nameStarts⟩, before.ends, stripSuffix_eq_none.mp asterisk⟩
        obtain ⟨result, valued, same⟩ := Checked.bind_eq_ok.mp is
        cases result with
        | error error => cases same
        | ok pair =>
            obtain ⟨parsed, remains⟩ := pair
            cases same
            refine ⟨regularParam_fits isName parsed, ?_⟩
            split at valued
            · rename_i quotes
              cases value with
              | nil => cases quotes
              | cons head text =>
                  cases quotes
                  rw [quotedValue_eq] at valued
                  split at valued
                  · cases valued
                  · cases valued
                    exact Text.startsPlain_trimStart _
            · have token := Except.ok.inj valued
              simp only [tokenValue] at token
              split at token
              · cases token
              · cases token
                exact splitOnceAndTrim_after value ';'

/-- So does the whole loop, by induction on its turns. -/
theorem parseParameters_fits {left : Text} {parsed params : List (DispositionParam Tag)}
    (starts : left.StartsPlain) (is : parseParameters left parsed = .ok (.ok params))
    : ∃ more, params = parsed ++ more ∧ ∀ param ∈ more, param.Fits := by
  fun_induction parseParameters left parsed with
  | case1 left parsed empty =>
      cases is
      exact ⟨[], (List.append_nil _).symm, fun _ never => by cases never⟩
  | case2 left parsed some panic turn => cases is
  | case3 left parsed some error turn => cases is
  | case4 left parsed some param after turn ih =>
      obtain ⟨fits, rest⟩ := parseParameter_fits starts turn
      obtain ⟨more, same, others⟩ := ih rest is
      exact ⟨param :: more, by rw [same, List.append_assoc]; rfl,
        List.forall_mem_cons.mpr ⟨fits, others⟩⟩

/-- A header that is parsed fits. -/
theorem fromRaw_fits {hv : Bytes} {header : ContentDisposition Tag}
    (is : fromRaw hv = .ok (.ok header))
    : header.Fits := by
  unfold fromRaw at is
  cases decoded : Text.fromUtf8 hv with
  | none =>
      rw [decoded] at is
      cases is
  | some text =>
      rw [decoded] at is
      have before := splitOnceAndTrim_before text.trim ';'
      have rest := splitOnceAndTrim_after text.trim ';'
      have starts : text.trim.StartsPlain :=
        (Text.startsPlain_trimStart text).of_isPrefix (Text.trimEnd_isPrefix _)
      dsimp only at is
      split at is
      · cases is
      · rename_i typed
        obtain ⟨result, parsed, same⟩ := Checked.bind_eq_ok.mp is
        cases result with
        | error error => cases same
        | ok params =>
            cases same
            obtain ⟨more, rfl, fits⟩ := parseParameters_fits rest parsed
            refine ⟨ofText_fits ?_ before.whole (starts.of_isPrefix before.part) before.ends, fits⟩
            rintro none
            rw [none] at typed
            exact typed rfl

-----------------------------------------------------------------------------------------
-- What never fails
-----------------------------------------------------------------------------------------

/-- No turn of the loop slices inside a character. -/
theorem parseParameter_returns (left : Text)
    : ∃ result, (parseParameter left : Checked (Except InvalidInput (DispositionParam Tag × Text)))
        = .ok result := by
  unfold parseParameter
  generalize splitOnceAndTrim left '=' = pieces
  obtain ⟨paramName, value⟩ := pieces
  dsimp only
  split
  · exact ⟨_, rfl⟩
  · split
    · split
      · exact ⟨_, rfl⟩
      · exact ⟨_, rfl⟩
    · have valued : ∃ result,
          (if value.head? = some '"' then quotedValue value else .ok (tokenValue value))
            = .ok result := by
        split
        · rename_i quotes
          cases value with
          | nil => cases quotes
          | cons head text =>
              cases quotes
              exact ⟨_, quotedValue_eq text⟩
        · exact ⟨_, rfl⟩
      obtain ⟨result, valued⟩ := valued
      rw [valued, Checked.ok_bind]
      cases result with
      | error error => exact ⟨_, rfl⟩
      | ok pair => exact ⟨_, rfl⟩

/-- So the loop returns, by induction on its turns. -/
theorem parseParameters_returns (left : Text) (parsed : List (DispositionParam Tag))
    : ∃ result, parseParameters left parsed = .ok result := by
  fun_induction parseParameters left parsed with
  | case1 left parsed empty => exact ⟨_, rfl⟩
  | case2 left parsed some panic turn =>
      obtain ⟨result, returns⟩ : ∃ result, (parseParameter left
          : Checked (Except InvalidInput (DispositionParam Tag × Text))) = .ok result :=
        parseParameter_returns left
      rw [turn] at returns
      cases returns
  | case3 left parsed some error turn => exact ⟨_, rfl⟩
  | case4 left parsed some param after turn ih => exact ih

/-- Whatever the bytes of a header are, parsing it does not panic; and a quoted value is refused only
if nothing closes it, never because its bytes are not UTF-8.
-/
theorem fromRaw_returns (hv : Bytes)
    : (∃ result, (fromRaw hv : Checked (Except InvalidInput (ContentDisposition Tag))) = .ok result)
      ∧ ∀ text : Text,
          (∃ error, quotedValue ('"' :: text) = .ok (.error error))
          ↔ Quoted.scan 0x5C 0x22 false [] text.asBytes = none := by
  refine ⟨?_, fun text => ?_⟩
  · unfold fromRaw
    cases Text.fromUtf8 hv with
    | none => exact ⟨_, rfl⟩
    | some text =>
        dsimp only
        split
        · exact ⟨_, rfl⟩
        · obtain ⟨result, returns⟩
              : ∃ result,
                  (parseParameters (splitOnceAndTrim text.trim ';').2 []
                    : Checked (Except InvalidInput (List (DispositionParam Tag)))) = .ok result :=
            parseParameters_returns _ []
          rw [returns, Checked.ok_bind]
          cases result with
          | error error => exact ⟨_, rfl⟩
          | ok parameters => exact ⟨_, rfl⟩
  · rw [quotedValue_eq, Text.asBytes,
      Quoted.scan_encode utf8_encodes (by decide) (by decide) false [] text]
    cases Quoted.scan '\\' '"' false [] text with
    | none => exact iff_of_true ⟨_, rfl⟩ rfl
    | some scanned =>
        refine iff_of_false ?_ (fun never => by cases never)
        rintro ⟨error, never⟩
        cases never

end ContentDisposition

end BoltLoad
