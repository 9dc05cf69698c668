import BoltLoad.Http.DispositionGrammar

/-! A header is displayed as it is parsed, but for a `name`, which is displayed without quotes and so
has to be a token.
-/

namespace BoltLoad

namespace ContentDisposition

variable {Tag : Type} {tail after : Text}

-----------------------------------------------------------------------------------------
-- Types and names
-----------------------------------------------------------------------------------------

/-- A type is displayed as it is parsed. -/
theorem ofText_displayType {disposition : DispositionType} (fits : disposition.Fits)
    : DispositionType.ofText (displayType disposition) = disposition := by
  cases disposition with
  | inline => decide
  | attachment => decide
  | formData => decide
  | ext value => exact fits.2.2.2.2

/-- What is displayed of a type. -/
theorem displayType_fits {disposition : DispositionType} (fits : disposition.Fits)
    : displayType disposition ≠ []
      ∧ ';' ∉ displayType disposition
      ∧ (displayType disposition).StartsPlain
      ∧ (displayType disposition).EndsPlain := by
  cases disposition with
  | inline =>
      exact ⟨by decide, by decide, fun character first => by cases first; rfl,
        fun character last => by cases last; rfl⟩
  | attachment =>
      exact ⟨by decide, by decide, fun character first => by cases first; rfl,
        fun character last => by cases last; rfl⟩
  | formData =>
      exact ⟨by decide, by decide, fun character first => by cases first; rfl,
        fun character last => by cases last; rfl⟩
  | ext value => exact ⟨fits.1, fits.2.1, fits.2.2.1, fits.2.2.2.1⟩

theorem IsName.begins {name rest : Text} (is : IsName name)
    : (name ++ rest).StartsPlain ∧ name ++ rest ≠ [] := by
  obtain ⟨nonempty, _, starts⟩ := is
  cases name with
  | nil => exact absurd rfl nonempty
  | cons head tail => exact ⟨starts, List.cons_ne_nil _ _⟩

/-- The name of a parameter whose value is a token or a quoted string. -/
theorem known_regular {name : Text} (is : name = "name".toList ∨ name = "filename".toList)
    : IsRegularName name := by
  rcases is with rfl | rfl
  · exact ⟨⟨by decide, by decide, fun character first => by cases first; rfl⟩,
      fun character last => by cases last; rfl, by decide⟩
  · exact ⟨⟨by decide, by decide, fun character first => by cases first; rfl⟩,
      fun character last => by cases last; rfl, by decide⟩

theorem name_param (value : Text)
    : (regularParam "name".toList value : DispositionParam Tag) = .name value := by
  have name : Text.eqIgnoreAsciiCase "name".toList "name".toList = true := by decide
  unfold regularParam
  rw [if_pos name]

theorem filename_param (value : Text)
    : (regularParam "filename".toList value : DispositionParam Tag) = .filename value := by
  have other : Text.eqIgnoreAsciiCase "filename".toList "name".toList = false := by decide
  have filename : Text.eqIgnoreAsciiCase "filename".toList "filename".toList = true := by decide
  unfold regularParam
  rw [other, if_neg Bool.false_ne_true, if_pos filename]

theorem filename_param_ext (value : ExtendedValue Tag)
    : extendedParam "filename".toList value = .filenameExt value := by
  have filename : Text.eqIgnoreAsciiCase "filename".toList "filename".toList = true := by decide
  unfold extendedParam
  rw [if_pos filename]

/-- The quoted string at the start of a text is not one the text begins with: the first semicolon of
that would stand further behind.
-/
theorem ne_quoted {front value : Text} (part : front <+: value)
    (follows : tail = [] ∨ ∃ more : Text, tail = ';' :: more)
    (quotes : (front ++ tail).trimStart.head? = some '"')
    : quotedValue (front ++ tail).trimStart ≠ .ok (.ok (value, after)) := by
  intro is
  have whole := List.takeWhile_append_dropWhile (p := Text.isWhitespace) (l := front ++ tail)
  have blank : ';' ∉ (front ++ tail).takeWhile Text.isWhitespace := by
    intro inside
    have never := List.mem_takeWhile_imp inside
    cases never
  rw [show (front ++ tail).dropWhile Text.isWhitespace = (front ++ tail).trimStart from rfl] at whole
  cases same : (front ++ tail).trimStart with
  | nil =>
      rw [same] at quotes
      cases quotes
  | cons head text =>
      rw [same] at quotes is whole
      cases quotes
      rw [quotedValue_eq] at is
      cases scanned : Quoted.scan '\\' '"' false [] text with
      | none =>
          rw [scanned] at is
          cases is
      | some pieces =>
          obtain ⟨string, rest⟩ := pieces
          rw [scanned] at is
          cases is
          have scan : Quoted.before ';' value ≤ Quoted.before ';' text :=
            Quoted.before_le_of_scan (by decide) scanned
          have longer : Quoted.before ';' front ≤ Quoted.before ';' value :=
            Quoted.before_le_of_isPrefix part
          have later : Quoted.before ';' (front ++ tail) = Quoted.before ';' front := by
            rcases follows with rfl | ⟨more, rfl⟩
            · rw [List.append_nil]
            · exact Quoted.before_append_stop ';' front more
          rw [← whole, Quoted.before_append blank, Quoted.before_cons, if_neg (by decide)] at later
          omega

section Display

variable [LanguageTag Tag] [PercentEncoding]

-----------------------------------------------------------------------------------------
-- The text that is displayed
-----------------------------------------------------------------------------------------

/-- The value of a plain name decides what is parsed. -/
theorem parse_regular {name rest value : Text} (is : IsRegularName name)
    (starts : rest.StartsPlain) (nonempty : rest ≠ [])
    (valued
      : (if rest.head? = some '"' then quotedValue rest else .ok (tokenValue rest))
        = .ok (.ok (value, after)))
    : parseParameter (name ++ '=' :: rest)
      = .ok (.ok ((regularParam name value : DispositionParam Tag), after)) := by
  have named : name.isEmpty = false ∧ name ≠ ['*'] ∧ rest.isEmpty = false := by
    refine ⟨?_, ?_, ?_⟩
    · simpa using is.nonempty
    · rintro rfl
      exact is.plain rfl
    · simpa using nonempty
  unfold parseParameter
  rw [splitOnceAndTrim_name is.whole is.ends, Text.trimStart_eq_self starts]
  simp only [named.1, named.2.2, decide_eq_false named.2.1, Bool.or_false, Bool.false_eq_true,
    if_false, stripSuffix_eq_none.mpr is.plain, valued, Checked.ok_bind]
  rfl

/-- A quoted string is parsed, whatever it is of. -/
theorem parse_quoted (follows : Follows tail after) {name : Text} (is : IsRegularName name)
    (value : Text)
    : parseParameter (name ++ '=' :: quoted value ++ tail)
      = .ok (.ok ((regularParam name value : DispositionParam Tag), after)) := by
  have shape : quoted value ++ tail = '"' :: (Quoted.write '\\' isEscaped value ++ '"' :: tail) := by
    simp [quoted]
  have scanned := Quoted.scan_write (by decide : '"' ≠ '\\') (by decide : isEscaped '\\' = true)
    (by decide : isEscaped '"' = true) value tail
  rw [List.append_assoc, List.cons_append, shape]
  refine parse_regular is (fun character first => by cases first; rfl) (List.cons_ne_nil _ _) ?_
  rw [List.head?_cons, if_pos rfl, quotedValue_eq, scanned]
  simp only [follows.closes]

/-- So is a token. -/
theorem parse_token (follows : Follows tail after) {name value : Text} (is : IsRegularName name)
    (token : IsToken value)
    : parseParameter (name ++ '=' :: value ++ tail)
      = .ok (.ok ((regularParam name value : DispositionParam Tag), after)) := by
  obtain ⟨nonempty, whole, starts, ends, unquoted⟩ := token
  rw [List.append_assoc, List.cons_append]
  cases value with
  | nil => exact absurd rfl nonempty
  | cons head rest =>
      refine parse_regular is starts (List.cons_ne_nil _ _) ?_
      have other : (head :: rest ++ tail).head? ≠ some '"' := unquoted
      rw [if_neg other, tokenValue, follows.splits whole ends]
      rfl

/-- A parameter is displayed as its name and its value. -/
theorem displayParam_eq (param : DispositionParam Tag)
    : displayParam param
      = match param with
        | .name value => "name".toList ++ '=' :: value
        | .filename value => "filename".toList ++ '=' :: quoted value
        | .unknown paramName value => paramName ++ '=' :: quoted value
        | .filenameExt value => "filename".toList ++ "*=".toList ++ value.display
        | .unknownExt paramName value => paramName ++ "*=".toList ++ value.display := by
  have name : "name=".toList = "name".toList ++ ['='] := by decide
  have filename : "filename=".toList = "filename".toList ++ ['='] := by decide
  have extended : "filename*=".toList = "filename".toList ++ "*=".toList := by decide
  cases param with
  | name value => exact (congrArg (· ++ value) name).trans (List.append_assoc _ ['='] value)
  | filename value =>
      exact (congrArg (· ++ quoted value) filename).trans (List.append_assoc _ ['='] _)
  | filenameExt value => exact congrArg (· ++ value.display) extended
  | unknown paramName value => rfl
  | unknownExt paramName value => rfl

/-- The displayed parameters of a header, behind its type. -/
def displayRest (params : List (DispositionParam Tag)) : Text :=
  params.flatMap (fun param => "; ".toList ++ displayParam param)

/-- What is left to parse of them. -/
def leftOf : List (DispositionParam Tag) → Text
  | [] => []
  | param :: params => displayParam param ++ displayRest params

/-- A displayed parameter begins with its name. -/
def Begins (param : DispositionParam Tag) : Prop :=
  (displayParam param).StartsPlain ∧ displayParam param ≠ []

theorem begins_of_fits {param : DispositionParam Tag} (fits : param.Fits)
    : Begins param := by
  rw [Begins, displayParam_eq]
  cases param with
  | name value => exact (known_regular (.inl rfl)).toIsName.begins
  | filename value => exact (known_regular (.inr rfl)).toIsName.begins
  | filenameExt value =>
      dsimp only
      rw [List.append_assoc]
      exact (known_regular (.inr rfl)).toIsName.begins
  | unknown paramName value => exact fits.1.toIsName.begins
  | unknownExt paramName value =>
      dsimp only
      rw [List.append_assoc]
      exact fits.1.begins

theorem solid_leftOf {param : DispositionParam Tag} (begins : Begins param)
    (params : List (DispositionParam Tag))
    : (leftOf (param :: params)).StartsPlain
      ∧ ∃ character ∈ leftOf (param :: params), Text.isWhitespace character = false := by
  obtain ⟨starts, nonempty⟩ := begins
  have plain : (leftOf (param :: params)).StartsPlain := by
    rw [leftOf]
    cases same : displayParam param with
    | nil => exact absurd same nonempty
    | cons head rest =>
        rw [same] at starts
        exact starts
  refine ⟨plain, Text.exists_of_startsPlain plain ?_⟩
  exact fun none => nonempty (List.append_eq_nil_iff.mp none).1

/-- What follows a parameter in the trimmed text. -/
theorem follows_displayRest {params : List (DispositionParam Tag)}
    (begins : ∀ param ∈ params, Begins param)
    : Follows (displayRest params).trimEnd (leftOf params).trimEnd := by
  cases params with
  | nil => exact .inl ⟨rfl, rfl⟩
  | cons param params =>
      obtain ⟨plain, solid⟩ := solid_leftOf (begins param (.head _)) params
      have trimmed : (displayRest (param :: params)).trimEnd
          = "; ".toList ++ (leftOf (param :: params)).trimEnd := by
        rw [← Text.trimEnd_append solid]
        rfl
      refine .inr ⟨' ' :: (leftOf (param :: params)).trimEnd, trimmed, ?_⟩
      have space : Text.trimStart (' ' :: (leftOf (param :: params)).trimEnd)
          = (leftOf (param :: params)).trimEnd.trimStart :=
        List.dropWhile_cons_of_pos rfl
      rw [space, Text.trimStart_eq_self (plain.of_isPrefix (Text.trimEnd_isPrefix _))]

-----------------------------------------------------------------------------------------
-- The loop
-----------------------------------------------------------------------------------------

/-- One turn of the loop, and the others. -/
theorem parseParameters_turn {left : Text} {param : DispositionParam Tag}
    (turn : parseParameter left = .ok (.ok (param, after)))
    (parsed : List (DispositionParam Tag))
    : parseParameters left parsed = parseParameters after (parsed ++ [param]) := by
  have less := length_parseParameter_lt turn
  have some : left.isEmpty = false := by
    cases left with
    | nil => cases less
    | cons head rest => rfl
  rw [parseParameters, some, if_neg Bool.false_ne_true]
  split
  · rename_i panics
    rw [turn] at panics
    cases panics
  · rename_i refused
    rw [turn] at refused
    cases refused
  · rename_i again
    rw [turn] at again
    cases again
    rfl

/-- What was parsed before stays in front, by induction on the turns. -/
theorem parseParameters_extends {left : Text} {parsed params : List (DispositionParam Tag)}
    (is : parseParameters left parsed = .ok (.ok params))
    : parsed <+: params := by
  fun_induction parseParameters left parsed with
  | case1 left parsed empty =>
      cases is
      exact List.prefix_rfl
  | case2 left parsed some panic turn => cases is
  | case3 left parsed some error turn => cases is
  | case4 left parsed some param after turn ih => exact (List.prefix_append _ _).trans (ih is)

/-- The parameter that is parsed first was parsed by the first turn. -/
theorem parseParameters_first {left : Text} {param : DispositionParam Tag}
    {parsed more : List (DispositionParam Tag)} (some : left ≠ [])
    (is : parseParameters left parsed = .ok (.ok (parsed ++ param :: more)))
    : ∃ after, parseParameter left = .ok (.ok (param, after)) := by
  rw [parseParameters, if_neg (by simpa using some)] at is
  split at is
  · cases is
  · cases is
  · rename_i first after turn
    have front := parseParameters_extends is
    rw [List.prefix_append_right_inj, List.cons_prefix_cons] at front
    exact ⟨after, front.1 ▸ turn⟩

/-- A `name` that is read back from what is displayed was read as a token: in quotes, a semicolon
would come too late in it.
-/
theorem isToken_of_parse {front value : Text} (part : front <+: value)
    (follows : tail = [] ∨ ∃ more : Text, tail = ';' :: more)
    (is
      : parseParameter ("name".toList ++ '=' :: front ++ tail)
        = .ok (.ok ((.name value : DispositionParam Tag), after)))
    : IsToken value := by
  have name : IsRegularName "name".toList := known_regular (.inl rfl)
  have starts := Text.startsPlain_trimStart (front ++ tail)
  rw [List.append_assoc, List.cons_append, parseParameter,
    splitOnceAndTrim_name name.whole name.ends] at is
  dsimp only at is
  split at is
  · cases is
  · rename_i named
    have some : (front ++ tail).trimStart ≠ [] := fun none => by simp [none] at named
    rw [stripSuffix_eq_none.mpr name.plain] at is
    obtain ⟨result, valued, same⟩ := Checked.bind_eq_ok.mp is
    cases result with
    | error error => cases same
    | ok pair =>
        obtain ⟨parsed, remains⟩ := pair
        have same : regularParam "name".toList parsed = (.name value : DispositionParam Tag) :=
          congrArg Prod.fst (Except.ok.inj (Except.ok.inj same))
        rw [name_param] at same
        cases same
        split at valued
        · rename_i quotes
          exact absurd valued (ne_quoted part follows quotes)
        · rename_i unquoted
          have token := Except.ok.inj valued
          have before := splitOnceAndTrim_before (front ++ tail).trimStart ';'
          simp only [tokenValue] at token
          split at token
          · cases token
          · rename_i nonempty
            cases token
            have nonempty : (splitOnceAndTrim (front ++ tail).trimStart ';').1 ≠ [] :=
              fun none => nonempty (by rw [none]; rfl)
            refine ⟨nonempty, before.whole, starts.of_isPrefix before.part, before.ends, ?_⟩
            obtain ⟨rest, whole⟩ := before.part
            intro never
            rw [← whole, List.head?_append_of_ne_nil _ nonempty] at unquoted
            exact unquoted never

/-- What is left of a `name` and the parameters behind it: whitespace at its end is trimmed if there
are none.
-/
theorem leftOf_name (value : Text) {params : List (DispositionParam Tag)}
    (begins : ∀ param ∈ params, Begins param)
    : ∃ front tail : Text,
        front <+: value
        ∧ (tail = [] ∨ ∃ more : Text, tail = ';' :: more)
        ∧ (leftOf (.name value :: params)).trimEnd = "name".toList ++ '=' :: front ++ tail := by
  have ends : Text.EndsPlain "name=".toList := fun character last => by cases last; rfl
  have left : (leftOf (.name value :: params)).trimEnd
      = "name=".toList ++ (value ++ displayRest params).trimEnd := by
    rw [← ends.trimEnd_append, ← List.append_assoc]
    rfl
  rw [left]
  cases params with
  | nil => exact ⟨value.trimEnd, [], Text.trimEnd_isPrefix value, .inl rfl, by simp [displayRest]⟩
  | cons param params =>
      have solid : ∃ character ∈ displayRest (param :: params),
          Text.isWhitespace character = false :=
        ⟨';', .head _, by decide⟩
      refine ⟨value, (displayRest (param :: params)).trimEnd, List.prefix_rfl, ?_, ?_⟩
      · rcases follows_displayRest begins with ⟨none, _⟩ | ⟨more, same, _⟩
        · exact .inl none
        · exact .inr ⟨more, same⟩
      · rw [Text.trimEnd_append solid]
        rfl

/-- A displayed header is read back as its parameters are. -/
theorem fromRaw_display_iff {disposition : DispositionType} (fits : disposition.Fits)
    {written read : List (DispositionParam Tag)} (begins : ∀ param ∈ written, Begins param)
    : fromRaw (display ⟨disposition, written⟩).asBytes = .ok (.ok ⟨disposition, read⟩)
      ↔ parseParameters (leftOf written).trimEnd [] = .ok (.ok read) := by
  obtain ⟨nonempty, whole, starts, ends⟩ := displayType_fits fits
  have shape : display ⟨disposition, written⟩ = displayType disposition ++ displayRest written := rfl
  have plain : (displayType disposition ++ displayRest written).StartsPlain := by
    cases same : displayType disposition with
    | nil => exact absurd same nonempty
    | cons head rest =>
        rw [same] at starts
        exact starts
  have trimmed : (displayType disposition ++ displayRest written).trim
      = displayType disposition ++ (displayRest written).trimEnd := by
    rw [Text.trim_eq, Text.trimStart_eq_self plain, ends.trimEnd_append]
  have split := (follows_displayRest begins).splits whole ends
  have typed : (displayType disposition).isEmpty = false := by simpa using nonempty
  unfold fromRaw
  rw [Text.fromUtf8_asBytes]
  simp only [shape, trimmed, split, typed, Bool.false_eq_true, if_false, ofText_displayType fits]
  constructor
  · intro is
    obtain ⟨result, parsed, same⟩ := Checked.bind_eq_ok.mp is
    cases result with
    | error error => cases same
    | ok parameters =>
        cases same
        exact parsed
  · intro parsed
    rw [parsed]
    rfl

/-- A parameter is displayed as text that is parsed to another. -/
structure Reads (param read : DispositionParam Tag) : Prop where
  begins : Begins param
  ends : (displayParam param).EndsPlain
  parse
    : ∀ {tail after : Text},
        Follows tail after → parseParameter (displayParam param ++ tail) = .ok (.ok (read, after))

/-- A quoted string is read back. -/
theorem reads_quoted {paramName : Text} (is : IsRegularName paramName) {value : Text}
    {param : DispositionParam Tag}
    (same : displayParam param = paramName ++ '=' :: quoted value)
    : Reads param (regularParam paramName value) := by
  have shape : paramName ++ '=' :: quoted value
      = paramName ++ '=' :: '"' :: Quoted.write '\\' isEscaped value ++ ['"'] := by
    simp [quoted]
  have ends : Text.EndsPlain ['"'] := fun character last => by cases last; rfl
  refine ⟨?_, ?_, fun follows => ?_⟩
  · rw [Begins, same]
    exact is.toIsName.begins
  · rw [same, shape]
    exact ends.append (List.cons_ne_nil _ _)
  · rw [same]
    exact parse_quoted follows is value

/-- The first displayed parameter is read back by one turn of the loop. -/
theorem parseParameters_reads {param read : DispositionParam Tag} (reads : Reads param read)
    {params : List (DispositionParam Tag)} (begins : ∀ param ∈ params, Begins param)
    (parsed : List (DispositionParam Tag))
    : parseParameters (leftOf (param :: params)).trimEnd parsed
      = parseParameters (leftOf params).trimEnd (parsed ++ [read]) := by
  have left : (leftOf (param :: params)).trimEnd
      = displayParam param ++ (displayRest params).trimEnd :=
    reads.ends.trimEnd_append _
  rw [left, parseParameters_turn (reads.parse (follows_displayRest begins))]

-----------------------------------------------------------------------------------------
-- What is displayed is parsed
-----------------------------------------------------------------------------------------

variable [LawfulLanguageTag Tag] [LawfulPercentEncoding]

/-- A displayed extended value ends where its parameter does. -/
theorem display_whole {value : ExtendedValue Tag} (fits : value.Fits)
    : ';' ∉ value.display ∧ value.display.StartsPlain ∧ value.display.EndsPlain := by
  unfold ExtendedValue.display
  refine ⟨fun inside => ?_, ?_, ?_⟩
  · rcases List.mem_append.mp inside with front | back
    · rcases List.mem_append.mp front with charset | language
      · exact fits.whole charset
      · rcases List.mem_cons.mp language with never | language
        · cases never
        · rcases ExtendedValue.language_plain language with never | never
          · cases never
          · cases never
    · rcases List.mem_cons.mp back with never | encoded
      · cases never
      · exact (percentEncode_plain encoded).2.1 rfl
  · intro character first
    cases same : value.charset with
    | nil =>
        rw [same] at first
        cases first
        decide
    | cons head rest =>
        have starts := fits.starts
        rw [same] at first starts
        exact starts character first
  · refine Text.EndsPlain.append ?_ (List.cons_ne_nil _ _)
    intro character last
    rcases List.mem_cons.mp (List.mem_of_getLast? last) with rfl | encoded
    · decide
    · exact (percentEncode_plain encoded).1

/-- An extended parameter is parsed. -/
theorem parse_extended (follows : Follows tail after) {name : Text}
    (nonempty : name ≠ []) (whole : '=' ∉ name) {value : ExtendedValue Tag} (fits : value.Fits)
    : parseParameter (name ++ "*=".toList ++ value.display ++ tail)
      = .ok (.ok (extendedParam name value, after)) := by
  obtain ⟨plain, starts, ends⟩ := display_whole fits
  have some : value.display ≠ [] := by
    unfold ExtendedValue.display
    exact fun none => by simp at none
  have split : splitOnceAndTrim (name ++ "*=".toList ++ value.display ++ tail) '='
      = (name ++ ['*'], value.display ++ tail) := by
    have shape : name ++ "*=".toList ++ value.display ++ tail
        = name ++ ['*'] ++ '=' :: (value.display ++ tail) := by
      simp
    have first : '=' ∉ name ++ ['*'] := by
      intro inside
      rcases List.mem_append.mp inside with never | never
      · exact whole never
      · cases List.mem_singleton.mp never
    have last : Text.EndsPlain (name ++ ['*']) :=
      Text.EndsPlain.append (fun character is => by cases is; rfl) (List.cons_ne_nil _ _)
    have next : Text.StartsPlain (value.display ++ tail) := by
      cases same : value.display with
      | nil => exact absurd same some
      | cons head rest =>
          rw [same] at starts
          exact starts
    rw [shape, splitOnceAndTrim_name first last, Text.trimStart_eq_self next]
  have asterisk : stripSuffix (name ++ ['*']) '*' = .some name := stripSuffix_eq_some.mpr rfl
  have named : (name ++ ['*']).isEmpty = false ∧ name ++ ['*'] ≠ ['*']
      ∧ (value.display ++ tail).isEmpty = false := by
    refine ⟨?_, fun same => nonempty (by simpa using same), ?_⟩
    · cases name <;> rfl
    · cases same : value.display with
      | nil => exact absurd same some
      | cons head rest => rfl
  unfold parseParameter
  simp only [split, named.1, named.2.2, decide_eq_false named.2.1, Bool.or_false, Bool.false_eq_true,
    if_false, asterisk, follows.splits plain ends, ExtendedValue.parse_display fits.unquoted]

/-- So is an extended value. -/
theorem reads_extended {paramName : Text} (is : IsName paramName) {value : ExtendedValue Tag}
    (fits : value.Fits) {param : DispositionParam Tag}
    (same : displayParam param = paramName ++ "*=".toList ++ value.display)
    : Reads param (extendedParam paramName value) := by
  refine ⟨?_, ?_, fun follows => ?_⟩
  · rw [Begins, same, List.append_assoc]
    exact is.begins
  · rw [same]
    refine (display_whole fits).2.2.append ?_
    unfold ExtendedValue.display
    exact fun none => by simp at none
  · rw [same]
    exact parse_extended follows is.nonempty is.whole fits

/-- Every parameter that fits is read back from what is displayed of it; a `name`, if it is a token.
-/
theorem reads_self {param : DispositionParam Tag} (fits : param.Fits)
    (displayable : Displayable param)
    : Reads param param := by
  have shape := displayParam_eq param
  cases param with
  | name value =>
      refine ⟨begins_of_fits fits, ?_, fun follows => ?_⟩
      · have last : Text.EndsPlain ("name".toList ++ ['='] ++ value) :=
          displayable.ends.append displayable.nonempty
        rw [List.append_assoc] at last
        rw [shape]
        exact last
      · have parsed : parseParameter _
            = .ok (.ok ((regularParam "name".toList value : DispositionParam Tag), _)) :=
          parse_token follows (known_regular (.inl rfl)) displayable
        rw [name_param] at parsed
        rw [shape]
        exact parsed
  | filename value =>
      have reads := reads_quoted (known_regular (.inr rfl)) shape
      rw [filename_param] at reads
      exact reads
  | filenameExt value =>
      have reads := reads_extended (known_regular (.inr rfl)).toIsName fits shape
      rw [filename_param_ext] at reads
      exact reads
  | unknown paramName value =>
      obtain ⟨is, other, another⟩ := fits
      have reads := reads_quoted is shape
      rw [regularParam, other, another, if_neg Bool.false_ne_true, if_neg Bool.false_ne_true] at reads
      exact reads
  | unknownExt paramName value =>
      obtain ⟨is, other, fits⟩ := fits
      have reads := reads_extended is fits shape
      rw [extendedParam, other, if_neg Bool.false_ne_true] at reads
      exact reads

/-- Displayed parameters are read back if every `name` among them is a token, and only then, by
induction on them.
-/
theorem parseParameters_leftOf {params : List (DispositionParam Tag)}
    (fits : ∀ param ∈ params, param.Fits) (parsed : List (DispositionParam Tag))
    : parseParameters (leftOf params).trimEnd parsed = .ok (.ok (parsed ++ params))
      ↔ ∀ param ∈ params, Displayable param := by
  induction params generalizing parsed with
  | nil =>
      rw [List.append_nil]
      refine iff_of_true ?_ (fun _ never => by cases never)
      change parseParameters [] parsed = _
      rw [parseParameters]
      rfl
  | cons param params ih =>
      obtain ⟨first, others⟩ := List.forall_mem_cons.mp fits
      have begins := fun param inside => begins_of_fits (others param inside)
      by_cases displayable : Displayable param
      · rw [parseParameters_reads (reads_self first displayable) begins,
          List.append_cons parsed param params, ih others, List.forall_mem_cons]
        exact (and_iff_right displayable).symm
      · refine iff_of_false (fun is => ?_) (fun all => displayable (all param (.head _)))
        cases param with
        | name value =>
            obtain ⟨front, tail, part, follows, left⟩ := leftOf_name value begins
            rw [left] at is
            obtain ⟨after, turn⟩ := parseParameters_first (List.cons_ne_nil _ _) is
            exact displayable (isToken_of_parse part follows turn)
        | filename value => exact displayable trivial
        | filenameExt value => exact displayable trivial
        | unknown paramName value => exact displayable trivial
        | unknownExt paramName value => exact displayable trivial

/-- Whatever a file name holds, it is got from a displayed attachment. -/
theorem fromRaw_attachment (filename : Text)
    : ∃ header : ContentDisposition Tag,
        fromRaw (display (attachment filename : ContentDisposition Tag)).asBytes = .ok (.ok header)
        ∧ header.getFilename = some filename := by
  have fits : ∀ param ∈ [(.filename filename : DispositionParam Tag)], param.Fits := by
    rintro param (_ | ⟨_, never⟩)
    · trivial
    · cases never
  have displayable : ∀ param ∈ [(.filename filename : DispositionParam Tag)], Displayable param := by
    rintro param (_ | ⟨_, never⟩)
    · trivial
    · cases never
  have begins := fun param inside => begins_of_fits (fits param inside)
  refine ⟨attachment filename, ?_, rfl⟩
  refine (@fromRaw_display_iff Tag _ _ .attachment trivial _ _ begins).mpr ?_
  exact (parseParameters_leftOf fits []).mpr displayable

/-- A header is displayed as text that is parsed to it if it fits the grammar and none of its names
needs quotes, and only then.
-/
theorem fromRaw_display (header : ContentDisposition Tag)
    : fromRaw header.display.asBytes = .ok (.ok header)
      ↔ header.Fits ∧ ∀ param ∈ header.parameters, Displayable param := by
  have begins (fits : header.Fits) : ∀ param ∈ header.parameters, Begins param :=
    fun param inside => begins_of_fits (fits.parameters param inside)
  constructor
  · intro is
    have fits := fromRaw_fits is
    have parsed := (fromRaw_display_iff fits.disposition (begins fits)).mp is
    exact ⟨fits, (parseParameters_leftOf fits.parameters []).mp parsed⟩
  · rintro ⟨fits, displayable⟩
    refine (fromRaw_display_iff fits.disposition (begins fits)).mpr ?_
    exact (parseParameters_leftOf fits.parameters []).mpr displayable

end Display

section Bytewise

open Bytewise

/-- A name without quotes, a file name with them, and one of octets. -/
def upload : ContentDisposition Bytewise.Language where
  disposition := .formData
  parameters :=
    [.name "upload".toList, .filename "a\"; b".toList,
      .filenameExt pound]

theorem fromRaw_display_upload
    : fromRaw upload.display.asBytes = .ok (.ok upload) := by
  have charset : "UTF-8".toList ≠ [] ∧ '\'' ∉ "UTF-8".toList ∧ ';' ∉ "UTF-8".toList := by decide
  have fits : upload.Fits := by
    refine ⟨trivial, ?_⟩
    rintro param (_ | ⟨_, _ | ⟨_, _ | ⟨_, never⟩⟩⟩)
    · trivial
    · trivial
    · exact ⟨charset.2.1, charset.2.2, fun character first => by cases first; rfl⟩
    · cases never
  refine (fromRaw_display upload).mpr ⟨fits, ?_⟩
  rintro param (_ | ⟨_, _ | ⟨_, _ | ⟨_, never⟩⟩⟩)
  · exact ⟨by decide, by decide, fun character first => by cases first; rfl,
      fun character last => by cases last; rfl, by decide⟩
  · trivial
  · trivial
  · cases never

end Bytewise

end ContentDisposition

end BoltLoad
