import BoltLoad.Rust.Text
import BoltLoad.Task.Basic

/-! Where a task saves its output: the path as given, or the directory joined with the suggested
filename reduced to one safe component.
-/

namespace BoltLoad

namespace Text

/-- `char::is_control`: the Unicode category `Cc`. -/
def isControl (character : Char) : Bool :=
  let code := character.toNat
  code ≤ 0x1F || (0x7F ≤ code && code ≤ 0x9F)

/-- `str::to_ascii_uppercase`. -/
def toAsciiUppercase (text : Text) : Text := text.map Char.toUpper

end Text

/-- `std::path::Component`; a prefix stands on Windows only. -/
inductive Component
  | drive (name : Text)
  | verbatim (name : Text)
  | rootDir
  | curDir
  | parentDir
  | normal (name : Text)
  deriving DecidableEq, Repr

/-- A path, as the components it is compared by. -/
abbrev Components := List Component

inductive Destination
  /-- `save_to`: this exact path. -/
  | file (path : Components)
  /-- `save_into`: this directory, with the filename the adapter suggests. -/
  | dir (path : Components)
  deriving DecidableEq, Repr

namespace Destination

-----------------------------------------------------------------------------------------
-- Filenames
-----------------------------------------------------------------------------------------

/-- `CON`, `NUL`, `COM1`, … are devices on Windows, with any extension. -/
def isReservedDeviceName (segment : Text) : Bool :=
  let stem := Text.trimEnd (segment.takeWhile (· != '.'))
  let upper := Text.toAsciiUppercase stem
  if upper ∈ ["CON".toList, "PRN".toList, "AUX".toList, "NUL".toList] then
    true
  else
    match (upper.dropPrefix? "COM".toList).or (upper.dropPrefix? "LPT".toList) with
    | some [digit] => digit.isDigit || digit ∈ ['¹', '²', '³']
    | _ => false

/-- `is_safe_component`. -/
def isSafeComponent (segment : Text) (windows : Bool) : Bool :=
  if segment ∈ ["".toList, ".".toList, "..".toList] || segment.any Text.isControl then
    false
  else if windows then
    if segment.contains ':' then
      false
    else
      !(segment.getLast? ∈ [some '.', some ' '] || isReservedDeviceName segment)
  else
    true

/-- What a suggested filename is split on. -/
def isSeparator (character : Char) : Bool := character == '/' || character == '\\'

/-- What `rsplit` finds first: the characters behind the last separator. -/
def lastSegment (name : Text) : Text :=
  (name.reverse.takeWhile (fun character => !isSeparator character)).reverse

/-- `safe_file_name`. -/
def safeFileName (windows : Bool) (name : String) : Except DownloadError String :=
  let segment := lastSegment name.toList
  if isSafeComponent segment windows then
    .ok (String.ofList segment)
  else
    .error (.invalidFilename name)

-----------------------------------------------------------------------------------------
-- Resolution
-----------------------------------------------------------------------------------------

/-- The components of a text without separators that starts a path. -/
def startOf (segment : Text) : Components :=
  if segment = [] then
    []
  else if segment = ".".toList then
    [.curDir]
  else if segment = "..".toList then
    [.parentDir]
  else
    [.normal segment]

/-- A drive, which starts a path of its own on Windows. -/
def hasDrive (segment : Text) : Bool :=
  (segment.head?.any Char.isAlpha) && segment[1]? == some ':'

/-- `Path::join` with a text without separators, which never has a root. -/
def join (windows : Bool) (dir : Components) (segment : Text) : Components :=
  if windows && hasDrive segment then
    .drive (segment.take 2) :: startOf (segment.drop 2)
  else if dir = [] then
    startOf segment
  else if segment = [] ∨ segment = ".".toList then
    dir
  else if segment = "..".toList then
    match dir, dir.getLast? with
    -- Nothing is above the root of a verbatim path.
    | .verbatim _ :: _, some (.normal _) => dir.dropLast
    | .verbatim _ :: _, _ => dir
    | _, _ => dir ++ [.parentDir]
  else
    dir ++ [.normal segment]

/-- `Destination::resolve`, for the filename the metadata suggests. -/
def resolve (windows : Bool) (destination : Destination) (filename : Option String)
    : Except DownloadError Components := do
  match destination with
  | file path => pure path
  | dir path =>
      match filename with
      | none => .error .missingFilename
      | some name => do
          let segment ← safeFileName windows name
          pure (join windows path segment.toList)

-----------------------------------------------------------------------------------------
-- Safe filenames
-----------------------------------------------------------------------------------------

/-- A device of Windows, in any letter case. -/
inductive DeviceName (name : Text) : Prop
  | device (isDevice : Text.toAsciiUppercase name
      ∈ ["CON".toList, "PRN".toList, "AUX".toList, "NUL".toList])
  | port (kind : Text) (digit : Char)
      (isPort : Text.toAsciiUppercase name = kind ++ [digit])
      (isKind : kind ∈ ["COM".toList, "LPT".toList])
      (isDigit : digit.isDigit = true ∨ digit ∈ ['¹', '²', '³'])

/-- What a filename is on every platform: one component, which is not the directory itself nor
the one above.
-/
structure Inside (name : Text) : Prop where
  nonempty : name ≠ []
  slash : '/' ∉ name
  backslash : '\\' ∉ name
  control : ∀ character ∈ name, Text.isControl character = false
  notDot : name ≠ ".".toList
  notDotDot : name ≠ "..".toList

/-- What it is besides on Windows: neither a stream nor a drive, not changed by what Windows
strips, and no device with however many of the spaces behind it taken away.
-/
structure InsideOnWindows (name : Text) : Prop where
  colon : ':' ∉ name
  last : ∀ character, name.getLast? = some character → character ≠ '.' ∧ character ≠ ' '
  device : ∀ stem spaces, name.takeWhile (· != '.') = stem ++ spaces →
    (∀ character ∈ spaces, Text.isWhitespace character = true) → ¬DeviceName stem

/-- Whitespace has no letter case. -/
theorem toUpper_of_isWhitespace {character : Char}
    (blank : Text.isWhitespace character = true)
    : character.toUpper = character := by
  unfold Char.toUpper
  rw [dif_neg]
  rintro ⟨low, high⟩
  have bounds : 97 ≤ character.toNat ∧ character.toNat ≤ 122 := ⟨low, high⟩
  simp only [Text.isWhitespace, Bool.or_eq_true, Bool.and_eq_true, decide_eq_true_eq, beq_iff_eq]
    at blank
  omega

/-- The last character of a device is not whitespace. -/
theorem DeviceName.last {name : Text} (device : DeviceName name)
    : ∃ character, name.getLast? = some character ∧ Text.isWhitespace character = false := by
  have upper : ∃ character, (Text.toAsciiUppercase name).getLast? = some character
      ∧ Text.isWhitespace character = false := by
    cases device with
    | device isDevice =>
        simp only [List.mem_cons, List.not_mem_nil, or_false] at isDevice
        rcases isDevice with same | same | same | same <;> rw [same]
        all_goals exact ⟨_, rfl, by decide⟩
    | port kind digit isPort _ isDigit =>
        rw [isPort]
        refine ⟨digit, List.getLast?_concat, ?_⟩
        rcases isDigit with decimal | superscript
        · exact Text.isWhitespace_of_isDigit decimal
        · simp only [List.mem_cons, List.not_mem_nil, or_false] at superscript
          rcases superscript with rfl | rfl | rfl <;> decide
  obtain ⟨character, last, solid⟩ := upper
  rw [Text.toAsciiUppercase, List.getLast?_map] at last
  obtain ⟨lower, isLast, rfl⟩ := Option.map_eq_some_iff.mp last
  refine ⟨lower, isLast, ?_⟩
  by_contra blank
  rw [toUpper_of_isWhitespace (Bool.of_not_eq_false blank)] at solid
  exact blank solid

/-- The reserved names are those whose stem is a device, once the spaces behind it are gone. -/
theorem isReservedDeviceName_iff {segment : Text}
    : isReservedDeviceName segment = true
      ↔ DeviceName (Text.trimEnd (segment.takeWhile (· != '.'))) := by
  unfold isReservedDeviceName
  dsimp only
  generalize Text.trimEnd (segment.takeWhile (· != '.')) = stem
  split
  · rename_i isDevice
    exact iff_of_true rfl (.device isDevice)
  · rename_i noDevice
    have port (kind : Text) (rest : Text)
        : (Text.toAsciiUppercase stem).dropPrefix? kind = some rest
          ↔ Text.toAsciiUppercase stem = kind ++ rest := by
      simp [List.dropPrefix?_eq_some_iff]
    have ports (rest : Text)
        : ((Text.toAsciiUppercase stem).dropPrefix? "COM".toList).or
            ((Text.toAsciiUppercase stem).dropPrefix? "LPT".toList) = some rest
          ↔ ∃ kind ∈ ["COM".toList, "LPT".toList],
              Text.toAsciiUppercase stem = kind ++ rest := by
      rw [Option.or_eq_some_iff, port, port]
      constructor
      · rintro (com | ⟨_, lpt⟩)
        · exact ⟨_, List.mem_cons_self, com⟩
        · exact ⟨_, List.mem_cons_of_mem _ List.mem_cons_self, lpt⟩
      · rintro ⟨kind, isKind, same⟩
        simp only [List.mem_cons, List.not_mem_nil, or_false] at isKind
        rcases isKind with rfl | rfl
        · exact .inl same
        · refine .inr ⟨Option.eq_none_iff_forall_ne_some.mpr fun other com => ?_, same⟩
          have clash := ((port _ _).mp com).symm.trans same
          simp at clash
    constructor
    · intro reserved
      split at reserved
      · rename_i digit found
        obtain ⟨kind, isKind, same⟩ := (ports _).mp found
        exact .port kind digit same isKind (by simpa using reserved)
      · cases reserved
    · rintro (isDevice | ⟨kind, digit, isPort, isKind, isDigit⟩)
      · exact absurd isDevice noDevice
      · rw [(ports [digit]).mpr ⟨kind, isKind, isPort⟩]
        simpa using isDigit

/-- Trimming the end takes away the spaces behind a text that ends otherwise. -/
theorem trimEnd_append {text spaces : Text}
    (last : ∃ character, text.getLast? = some character ∧ Text.isWhitespace character = false)
    (blank : ∀ character ∈ spaces, Text.isWhitespace character = true)
    : Text.trimEnd (text ++ spaces) = text := by
  obtain ⟨character, isLast, solid⟩ := last
  have behind : ∀ other ∈ spaces.reverse, Text.isWhitespace other = true :=
    fun other member => blank other (List.mem_reverse.mp member)
  rw [Text.trimEnd, List.reverse_append, List.dropWhile_append_of_pos behind]
  cases backwards : text.reverse with
  | nil =>
      rw [List.reverse_eq_nil_iff.mp backwards] at isLast
      cases isLast
  | cons head rest =>
      obtain rfl : head = character := by
        rw [List.getLast?_eq_head?_reverse, backwards] at isLast
        exact Option.some.inj isLast
      rw [List.dropWhile_cons_of_neg (by rw [solid]; exact Bool.false_ne_true), ← backwards,
        List.reverse_reverse]

/-- What passes the check on Windows. -/
theorem insideOnWindows_of_isSafeComponent {segment : Text}
    (safe : isSafeComponent segment true = true)
    : InsideOnWindows segment := by
  unfold isSafeComponent at safe
  split at safe
  · cases safe
  · rw [if_pos rfl] at safe
    split at safe
    · cases safe
    · rename_i colon
      simp only [Bool.not_eq_true', Bool.or_eq_false_iff, decide_eq_false_iff_not, List.mem_cons,
        List.not_mem_nil, or_false, not_or] at safe
      obtain ⟨⟨dot, space⟩, unreserved⟩ := safe
      refine ⟨by simpa using colon, fun character last => ?_, ?_⟩
      · rw [last] at dot space
        exact ⟨fun same => dot (congrArg some same), fun same => space (congrArg some same)⟩
      · intro stem spaces parts blank device
        have reserved : isReservedDeviceName segment = true := by
          rw [isReservedDeviceName_iff, parts, trimEnd_append device.last blank]
          exact device
        rw [reserved] at unreserved
        cases unreserved

/-- A component that passes the check, on any platform, without separators. -/
theorem inside_of_isSafeComponent {segment : Text} {windows : Bool}
    (safe : isSafeComponent segment windows = true)
    (clean : ∀ character ∈ segment, isSeparator character = false)
    : Inside segment := by
  unfold isSafeComponent at safe
  split at safe
  · cases safe
  · rename_i plain
    simp only [Bool.or_eq_true, decide_eq_true_eq, List.mem_cons, List.not_mem_nil, or_false,
      List.any_eq_true, not_or, not_exists, not_and, Bool.not_eq_true] at plain
    obtain ⟨⟨nonempty, notDot, notDotDot⟩, control⟩ := plain
    refine ⟨by simpa using nonempty, fun member => ?_, fun member => ?_, control, notDot,
      notDotDot⟩
    · exact absurd (clean _ member) (by decide)
    · exact absurd (clean _ member) (by decide)

/-- The last segment ends the name. -/
theorem lastSegment_suffix (name : Text) : lastSegment name <:+ name := by
  have front := List.takeWhile_prefix (l := name.reverse) (fun character => !isSeparator character)
  simpa [lastSegment] using List.reverse_suffix.mpr front

theorem lastSegment_clean (name : Text)
    : ∀ character ∈ lastSegment name, isSeparator character = false := by
  intro character member
  have kept := List.mem_takeWhile_imp (List.mem_reverse.mp member)
  simpa using kept

/-- A name without separators is its only segment. -/
theorem lastSegment_eq_self {name : Text}
    (clean : ∀ character ∈ name, isSeparator character = false)
    : lastSegment name = name := by
  rw [lastSegment, List.takeWhile_eq_self_iff.mpr, List.reverse_reverse]
  intro character member
  rw [clean character (List.mem_reverse.mp member)]
  rfl

theorem safeFileName_eq_ok_iff {windows : Bool} {name segment : String}
    : safeFileName windows name = .ok segment
      ↔ segment.toList = lastSegment name.toList
        ∧ isSafeComponent segment.toList windows = true := by
  unfold safeFileName
  dsimp only
  constructor
  · intro accepted
    split at accepted
    · rename_i safe
      cases accepted
      rw [String.toList_ofList]
      exact ⟨rfl, safe⟩
    · cases accepted
  · rintro ⟨same, safe⟩
    rw [← same, if_pos safe, String.ofList_toList]

/-- A safe component is joined as the one component it is. -/
theorem join_eq {windows : Bool} {dir : Components} {segment : Text} (inside : Inside segment)
    (onWindows : windows = true → InsideOnWindows segment)
    : join windows dir segment = dir ++ [.normal segment] := by
  have noDrive : (windows && hasDrive segment) = false := by
    cases windows with
    | false => rfl
    | true =>
        rw [Bool.true_and, hasDrive, Bool.and_eq_false_iff]
        refine .inr (beq_eq_false_iff_ne.mpr fun colon => ?_)
        exact (onWindows rfl).colon (List.mem_of_getElem? colon)
  unfold join
  rw [if_neg (by rw [noDrive]; exact Bool.false_ne_true)]
  split
  · rename_i empty
    subst empty
    rw [startOf, if_neg inside.nonempty, if_neg inside.notDot, if_neg inside.notDotDot]
    rfl
  · rw [if_neg (by rw [not_or]; exact ⟨inside.nonempty, inside.notDot⟩), if_neg inside.notDotDot]

/-- A suggested filename that is accepted is one component of the directory: whatever the
adapter suggests, the file is saved in the directory.
-/
theorem safeFileName_inside (windows : Bool) (name segment : String)
    (accepted : safeFileName windows name = .ok segment)
    : segment.toList <:+ name.toList
      ∧ Inside segment.toList
      ∧ (windows = true → InsideOnWindows segment.toList)
      ∧ safeFileName windows segment = .ok segment
      ∧ ∀ dir, resolve windows (.dir dir) (some name) = .ok (dir ++ [.normal segment.toList]) := by
  obtain ⟨same, safe⟩ := safeFileName_eq_ok_iff.mp accepted
  have clean : ∀ character ∈ segment.toList, isSeparator character = false :=
    same ▸ lastSegment_clean name.toList
  have inside := inside_of_isSafeComponent safe clean
  have onWindows : windows = true → InsideOnWindows segment.toList := by
    rintro rfl
    exact insideOnWindows_of_isSafeComponent safe
  refine ⟨same ▸ lastSegment_suffix name.toList, inside, onWindows, ?_, fun dir => ?_⟩
  · exact safeFileName_eq_ok_iff.mpr ⟨(lastSegment_eq_self clean).symm, safe⟩
  · simp only [resolve, accepted]
    exact congrArg Except.ok (join_eq inside onWindows)

/-- A path that leads out of the directory is reduced to its last segment. -/
theorem safeFileName_inside_traversal
    : Inside ".bashrc".toList ∧ InsideOnWindows ".bashrc".toList
      ∧ resolve true (.dir [.normal "downloads".toList]) (some "..\\../.bashrc")
        = .ok [.normal "downloads".toList, .normal ".bashrc".toList] := by
  obtain ⟨_, inside, onWindows, _, resolves⟩ :=
    safeFileName_inside true "..\\../.bashrc" ".bashrc" (by decide +kernel)
  exact ⟨inside, onWindows rfl, resolves _⟩

end Destination

end BoltLoad
