import Mathlib

/-! Texts between quotes. A quote ends the text unless an escape stands before it; an escape makes
the symbol after it a part of the text, whichever it is. A text is written with an escape before
its quotes and escapes, and read back by a scan over its symbols, or over their code units.
-/

universe u v

namespace Quoted

section Symbols

variable {Symbol : Type u} [DecidableEq Symbol] {escape quote : Symbol}

/-- The text up to the closing quote, behind what was found of it before, and what stands after
that quote.
-/
def scan (escape quote : Symbol)
    : Bool → List Symbol → List Symbol → Option (List Symbol × List Symbol)
  | _, _, [] => none
  | true, found, symbol :: rest => scan escape quote false (found ++ [symbol]) rest
  | false, found, symbol :: rest =>
      if symbol = escape then
        scan escape quote true found rest
      else if symbol = quote then
        some (found, rest)
      else
        scan escape quote false (found ++ [symbol]) rest

/-- A text with an escape before each symbol that needs one. -/
def write (escape : Symbol) (escapes : Symbol → Bool) (text : List Symbol) : List Symbol :=
  text.flatMap (fun symbol => if escapes symbol then [escape, symbol] else [symbol])

/-- What was found before stays in front, by induction on the symbols. -/
theorem scan_found (escaping : Bool) (found text : List Symbol)
    : scan escape quote escaping found text
      = (scan escape quote escaping [] text).map (fun (scanned, rest) => (found ++ scanned, rest))
    := by
  induction text generalizing escaping found with
  | nil => cases escaping <;> rfl
  | cons symbol rest ih =>
      have push
          : scan escape quote false (found ++ [symbol]) rest
            = (scan escape quote false [symbol] rest).map
                (fun (scanned, rest) => (found ++ scanned, rest)) := by
        rw [ih false (found ++ [symbol]), ih false [symbol], Option.map_map]
        simp only [Function.comp_def, List.append_assoc]
      cases escaping with
      | true => exact push
      | false =>
          simp only [scan, List.nil_append]
          split
          · exact ih true found
          · split
            · simp only [Option.map_some, List.append_nil]
            · exact push

/-- An escaped symbol is a part of the text. -/
theorem scan_escaped (symbol : Symbol) (text : List Symbol)
    : scan escape quote true [] (symbol :: text)
      = (scan escape quote false [] text).map (fun (scanned, rest) => (symbol :: scanned, rest)) :=
  scan_found false [symbol] text

/-- So is one that is neither an escape nor a quote. -/
theorem scan_plain {symbol : Symbol} (text : List Symbol) (apart : symbol ≠ escape)
    (other : symbol ≠ quote)
    : scan escape quote false [] (symbol :: text)
      = (scan escape quote false [] text).map (fun (scanned, rest) => (symbol :: scanned, rest)) := by
  simp only [scan, if_neg apart, if_neg other]
  exact scan_found false [symbol] text

/-- What stands after the closing quote is shorter, by induction on the symbols. -/
theorem length_lt_of_scan {escaping : Bool} {found text scanned rest : List Symbol}
    (is : scan escape quote escaping found text = some (scanned, rest))
    : rest.length < text.length := by
  induction text generalizing escaping found with
  | nil => cases escaping <;> cases is
  | cons symbol text ih =>
      have later {escaping : Bool} {found : List Symbol}
          (is : scan escape quote escaping found text = some (scanned, rest))
          : rest.length < (symbol :: text).length :=
        Nat.lt_succ_of_lt (ih is)
      cases escaping with
      | true => exact later is
      | false =>
          simp only [scan] at is
          split at is
          · exact later is
          · split at is
            · cases is
              exact Nat.lt_succ_self _
            · exact later is

/-- A text written with escapes is read back, by induction on it. -/
theorem scan_write {escapes : Symbol → Bool} (apart : quote ≠ escape)
    (escaped : escapes escape = true) (quoted : escapes quote = true) (text rest : List Symbol)
    : scan escape quote false [] (write escape escapes text ++ quote :: rest)
      = some (text, rest) := by
  induction text with
  | nil => simp only [write, List.flatMap_nil, List.nil_append, scan, if_neg apart, if_true]
  | cons symbol text ih =>
      rw [write, List.flatMap_cons, List.append_assoc, ← write]
      cases needs : escapes symbol with
      | true =>
          simp only [if_true, List.cons_append, List.nil_append]
          rw [scan, if_pos rfl, scan_escaped, ih]
          rfl
      | false =>
          have ne {special : Symbol} (is : escapes special = true) : symbol ≠ special := by
            rintro rfl
            exact Bool.false_ne_true (needs.symm.trans is)
          simp only [Bool.false_eq_true, if_false, List.cons_append, List.nil_append]
          rw [scan_plain _ (ne escaped) (ne quoted), ih]
          rfl

/-- How many symbols stand before the first `stop`. -/
def before (stop : Symbol) (text : List Symbol) : Nat := (text.takeWhile (· != stop)).length

@[simp] theorem before_nil (stop : Symbol)
    : before stop [] = 0 :=
  rfl

theorem before_cons (stop symbol : Symbol) (text : List Symbol)
    : before stop (symbol :: text) = if symbol = stop then 0 else before stop text + 1 := by
  unfold before
  by_cases same : symbol = stop
  · rw [List.takeWhile_cons_of_neg (by simpa using same), if_pos same]
    rfl
  · rw [List.takeWhile_cons_of_pos (by simpa using same), if_neg same]
    rfl

theorem before_append {stop : Symbol} {front : List Symbol} (apart : stop ∉ front)
    (text : List Symbol)
    : before stop (front ++ text) = front.length + before stop text := by
  induction front with
  | nil => simp
  | cons symbol front ih =>
      obtain ⟨other, apart⟩ := List.ne_and_not_mem_of_not_mem_cons apart
      rw [List.cons_append, before_cons, if_neg (Ne.symm other), ih apart, List.length_cons]
      omega

theorem before_append_stop (stop : Symbol) (text more : List Symbol)
    : before stop (text ++ stop :: more) = before stop text := by
  induction text with
  | nil => rw [List.nil_append, before_cons, if_pos rfl, before_nil]
  | cons symbol text ih => rw [List.cons_append, before_cons, before_cons, ih]

theorem before_le_of_isPrefix {stop : Symbol} {front text : List Symbol} (part : front <+: text)
    : before stop front ≤ before stop text := by
  obtain ⟨more, rfl⟩ := part
  induction front with
  | nil => exact Nat.zero_le _
  | cons symbol front ih =>
      rw [List.cons_append, before_cons, before_cons]
      split
      · exact Nat.le_refl _
      · exact Nat.succ_le_succ ih

/-- A scan only leaves out symbols, so the first `stop` does not come later, by induction on the
symbols.
-/
theorem before_le_of_scan {stop : Symbol} (apart : escape ≠ stop) {escaping : Bool}
    {text scanned rest : List Symbol}
    (is : scan escape quote escaping [] text = some (scanned, rest))
    : before stop scanned ≤ before stop text := by
  induction text generalizing escaping scanned with
  | nil => cases escaping <;> cases is
  | cons symbol text ih =>
      have push
          (is
            : (scan escape quote false [] text).map (fun (scanned, rest) => (symbol :: scanned, rest))
              = some (scanned, rest))
          : before stop scanned ≤ before stop (symbol :: text) := by
        obtain ⟨⟨more, _⟩, later, same⟩ := Option.map_eq_some_iff.mp is
        cases same
        have fewer := ih later
        rw [before_cons, before_cons]
        split <;> omega
      cases escaping with
      | true => exact push (scan_escaped symbol text ▸ is)
      | false =>
          by_cases escapes : symbol = escape
          · simp only [scan, if_pos escapes] at is
            have fewer := ih is
            rw [before_cons, if_neg (escapes ▸ apart)]
            omega
          · by_cases quotes : symbol = quote
            · simp only [scan, if_neg escapes, if_pos quotes] at is
              cases is
              exact Nat.zero_le _
            · exact push (scan_plain text escapes quotes ▸ is)

end Symbols

section Units

variable {Symbol : Type u} {Code : Type v} [DecidableEq Symbol] [DecidableEq Code]

/-- Code units for symbols: the escape and the quote have one each, which no other symbol uses. -/
structure Encodes (encode : Symbol → List Code) (escape quote : Symbol) (escape' quote' : Code)
    : Prop where
  escapes : encode escape = [escape']
  quotes : encode quote = [quote']
  nonempty : ∀ symbol, encode symbol ≠ []
  apart
    : ∀ symbol,
        symbol ≠ escape
        → symbol ≠ quote
        → ∀ code ∈ encode symbol, code ≠ escape' ∧ code ≠ quote'

variable {encode : Symbol → List Code} {escape quote : Symbol} {escape' quote' : Code}

/-- Plain units are all found. -/
theorem scan_units {units : List Code} (plain : ∀ code ∈ units, code ≠ escape' ∧ code ≠ quote')
    (found text : List Code)
    : scan escape' quote' false found (units ++ text)
      = scan escape' quote' false (found ++ units) text := by
  induction units generalizing found with
  | nil => rw [List.nil_append, List.append_nil]
  | cons code units ih =>
      obtain ⟨apart, other⟩ := plain code (.head _)
      rw [List.cons_append, scan, if_neg apart, if_neg other,
        ih (fun code inside => plain code (.tail _ inside)), List.append_assoc,
        List.singleton_append]

/-- A scan over the units is one over the symbols, by induction on these: it splits no symbol. -/
theorem scan_encode (encodes : Encodes encode escape quote escape' quote') (apart : quote ≠ escape)
    (apart' : quote' ≠ escape') (escaping : Bool) (found : List Code) (text : List Symbol)
    : scan escape' quote' escaping found (text.flatMap encode)
      = (scan escape quote escaping [] text).map
          (fun (scanned, rest) => (found ++ scanned.flatMap encode, rest.flatMap encode)) := by
  induction text generalizing escaping found with
  | nil => cases escaping <;> rfl
  | cons symbol text ih =>
      have push
          : scan escape' quote' false (found ++ encode symbol) (text.flatMap encode)
            = ((scan escape quote false [] text).map
                (fun (scanned, rest) => (symbol :: scanned, rest))).map
                  (fun (scanned, rest) => (found ++ scanned.flatMap encode, rest.flatMap encode)) := by
        rw [ih false, Option.map_map]
        simp only [Function.comp_def, List.flatMap_cons, List.append_assoc]
      rw [List.flatMap_cons]
      cases escaping with
      | true =>
          rw [scan_escaped, ← push]
          cases units : encode symbol with
          | nil => exact absurd units (encodes.nonempty symbol)
          | cons code units' =>
              rw [List.cons_append, scan]
              have plain : ∀ other ∈ units', other ≠ escape' ∧ other ≠ quote' := by
                by_cases escapes : symbol = escape
                · rw [escapes, encodes.escapes] at units
                  cases units
                  exact fun _ never => by cases never
                · by_cases quotes : symbol = quote
                  · rw [quotes, encodes.quotes] at units
                    cases units
                    exact fun _ never => by cases never
                  · intro other inside
                    exact encodes.apart symbol escapes quotes other (by rw [units]; exact .tail _ inside)
              rw [scan_units plain, List.append_assoc, List.singleton_append]
      | false =>
          by_cases escapes : symbol = escape
          · rw [escapes, encodes.escapes, List.singleton_append, scan, if_pos rfl, scan, if_pos rfl]
            exact ih true found
          · by_cases quotes : symbol = quote
            · rw [quotes, encodes.quotes, List.singleton_append, scan, if_neg apart', if_pos rfl, scan,
                if_neg apart, if_pos rfl]
              simp only [Option.map_some, List.flatMap_nil, List.append_nil]
            · rw [scan_plain text escapes quotes, ← push]
              exact scan_units (encodes.apart symbol escapes quotes) found _

end Units

end Quoted
