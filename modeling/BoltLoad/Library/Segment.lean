import Mathlib

/-! Segments of an indexed content, and overwriting a part of a list in place.
A list that starts out as a segment is one, and so is what follows any front of it; a list
overwritten with a segment at its own index holds the content there and is otherwise as before.
-/

universe u

namespace Segment

variable {α : Type u} {content : Nat → α}

/-- The `length` values from index `start` on. -/
def segment (content : Nat → α) (start length : Nat) : List α :=
  (List.range' start length).map content

@[simp] theorem length_segment (start length : Nat)
    : (segment content start length).length = length := by
  simp [segment]

@[simp] theorem segment_zero (start : Nat) : segment content start 0 = [] := rfl

/-- A segment goes on where the one before it ends. -/
theorem segment_append (start first second : Nat)
    : segment content start first ++ segment content (start + first) second
      = segment content start (first + second) := by
  simp only [segment, ← List.map_append]
  rw [← List.range'_append, Nat.one_mul]

theorem getElem?_segment {start length index : Nat} (within : index < length)
    : (segment content start length)[index]? = some (content (start + index)) := by
  simp [segment, within]

/-- The two parts of a segment are segments. -/
theorem eq_segment_of_append {front back : List α} {start : Nat}
    (whole : front ++ back = segment content start (front ++ back).length)
    : front = segment content start front.length
      ∧ back = segment content (start + front.length) back.length := by
  rw [List.length_append, ← segment_append] at whole
  exact List.append_inj whole (length_segment _ _).symm

/-- A prefix of a segment is a segment. -/
theorem eq_segment_of_prefix {front whole : List α} {start : Nat} (starts : front <+: whole)
    (same : whole = segment content start whole.length)
    : front = segment content start front.length := by
  obtain ⟨back, rfl⟩ := starts
  exact (eq_segment_of_append same).1

/-- Replace the values from `start` on by `values`. -/
def overwrite (old : List α) (start : Nat) (values : List α) : List α :=
  old.take start ++ values ++ old.drop (start + values.length)

theorem length_overwrite {old values : List α} {start : Nat}
    (fits : start + values.length ≤ old.length)
    : (overwrite old start values).length = old.length := by
  simp only [overwrite, List.length_append, List.length_take, List.length_drop]
  omega

/-- Overwriting changes the values it covers, and no other. -/
theorem getElem?_overwrite {old values : List α} {start : Nat}
    (fits : start + values.length ≤ old.length) (index : Nat)
    : (overwrite old start values)[index]?
      = if start ≤ index ∧ index < start + values.length then
          values[index - start]?
        else
          old[index]? := by
  have before : (old.take start).length = start := by
    rw [List.length_take]
    omega
  simp only [overwrite, List.append_assoc, List.getElem?_append, before, List.getElem?_drop]
  by_cases early : index < start
  · rw [if_pos early, if_neg (by omega), List.getElem?_take_of_lt early]
  · rw [if_neg early]
    by_cases inside : index - start < values.length
    · rw [if_pos inside, if_pos (by omega)]
    · rw [if_neg inside, if_neg (by omega)]
      congr 1
      omega

/-- Overwriting with a segment of the content puts the content in its place. -/
theorem getElem?_overwrite_segment {old : List α} {start length : Nat}
    (fits : start + length ≤ old.length) (index : Nat)
    : (overwrite old start (segment content start length))[index]?
      = if start ≤ index ∧ index < start + length then some (content index) else old[index]? := by
  have sized : start + (segment content start length).length ≤ old.length := by
    rw [length_segment]
    exact fits
  rw [getElem?_overwrite sized, length_segment]
  by_cases covered : start ≤ index ∧ index < start + length
  · rw [if_pos covered, if_pos covered, getElem?_segment (by omega)]
    congr 2
    omega
  · rw [if_neg covered, if_neg covered]

/-- Cut a list to `size` values, or fill it up to them. -/
def resize (fill : α) (old : List α) (size : Nat) : List α :=
  old.take size ++ List.replicate (size - old.length) fill

@[simp] theorem length_resize (fill : α) (old : List α) (size : Nat)
    : (resize fill old size).length = size := by
  simp only [resize, List.length_append, List.length_take, List.length_replicate]
  omega

/-- What a longer list held is kept. -/
theorem getElem?_resize {fill : α} {old : List α} {size index : Nat} (kept : index < old.length)
    (within : index < size)
    : (resize fill old size)[index]? = old[index]? := by
  rw [resize, List.getElem?_append_left (by rw [List.length_take]; omega),
    List.getElem?_take_of_lt within]

/-- Replace the values from `start` on, filling the list up to them where it is shorter. -/
def writeAt (fill : α) (old : List α) (start : Nat) (values : List α) : List α :=
  overwrite (resize fill old (max old.length (start + values.length))) start values

@[simp] theorem length_writeAt (fill : α) (old : List α) (start : Nat) (values : List α)
    : (writeAt fill old start values).length = max old.length (start + values.length) := by
  rw [writeAt, length_overwrite (by rw [length_resize]; exact Nat.le_max_right _ _),
    length_resize]

/-- The values written stand where they were written. -/
theorem getElem?_writeAt_covered {fill : α} {old values : List α} {start offset : Nat}
    (covered : offset < values.length)
    : (writeAt fill old start values)[start + offset]? = values[offset]? := by
  rw [writeAt, getElem?_overwrite (by rw [length_resize]; exact Nat.le_max_right _ _),
    if_pos ⟨Nat.le_add_right _ _, Nat.add_lt_add_left covered _⟩, Nat.add_sub_cancel_left]

/-- What was there before stays, outside of what is written. -/
theorem getElem?_writeAt_kept {fill : α} {old values : List α} {start index : Nat}
    (kept : index < old.length) (outside : index < start ∨ start + values.length ≤ index)
    : (writeAt fill old start values)[index]? = old[index]? := by
  rw [writeAt, getElem?_overwrite (by rw [length_resize]; exact Nat.le_max_right _ _),
    if_neg (by omega), getElem?_resize kept (kept.trans_le (Nat.le_max_left _ _))]

/-- Within the list, writing is overwriting. -/
theorem writeAt_eq_overwrite {fill : α} {old values : List α} {start : Nat}
    (fits : start + values.length ≤ old.length)
    : writeAt fill old start values = overwrite old start values := by
  rw [writeAt, Nat.max_eq_left fits, resize, List.take_length, Nat.sub_self, List.replicate_zero,
    List.append_nil]

/-- What stands at an index after writing: a value written, one from before, or the filling
below the values where the list was shorter.
-/
theorem getElem?_writeAt {fill : α} {old values : List α} {start index : Nat}
    : (writeAt fill old start values)[index]?
      = if start ≤ index ∧ index < start + values.length then
          values[index - start]?
        else if index < old.length then
          old[index]?
        else if index < start then
          some fill
        else
          none := by
  by_cases covered : start ≤ index ∧ index < start + values.length
  · rw [if_pos covered]
    obtain ⟨offset, rfl⟩ := Nat.exists_eq_add_of_le covered.1
    rw [getElem?_writeAt_covered (by omega), Nat.add_sub_cancel_left]
  · rw [if_neg covered]
    by_cases kept : index < old.length
    · rw [if_pos kept, getElem?_writeAt_kept kept (by omega)]
    · rw [if_neg kept]
      by_cases below : index < start
      · rw [if_pos below, writeAt,
          getElem?_overwrite (by rw [length_resize]; exact Nat.le_max_right _ _), if_neg covered,
          resize, List.getElem?_append_right (by rw [List.length_take]; omega),
          List.getElem?_replicate, if_pos (by rw [List.length_take]; omega)]
      · rw [if_neg below, List.getElem?_eq_none (by rw [length_writeAt]; omega)]

/-- Writing one part and then the other behind it is writing both. -/
theorem writeAt_append {fill : α} {old : List α} {start : Nat} (front back : List α)
    : writeAt fill (writeAt fill old start front) (start + front.length) back
      = writeAt fill old start (front ++ back) := by
  apply List.ext_getElem?
  intro index
  have turned : index - start - front.length = index - (start + front.length) := by omega
  simp only [getElem?_writeAt, length_writeAt, List.length_append, List.getElem?_append, turned]
  rcases Nat.lt_or_ge index (start + front.length) with early | late
  · have apart : ¬(start + front.length ≤ index
        ∧ index < start + front.length + back.length) := by omega
    rw [if_neg apart]
    split_ifs <;> first | rfl | omega
  · have behind : ¬(start ≤ index ∧ index < start + front.length) := by omega
    rw [if_neg behind]
    split_ifs <;> first | rfl | omega

/-- Writing on where the values end keeps them and eats into the filling behind them. -/
theorem writeAt_filled {fill : α} (values more : List α) (filling : Nat)
    : writeAt fill (values ++ List.replicate filling fill) values.length more
      = values ++ more ++ List.replicate (filling - more.length) fill := by
  apply List.ext_getElem?
  intro index
  have length : (values ++ List.replicate filling fill).length = values.length + filling := by
    rw [List.length_append, List.length_replicate]
  rcases Nat.lt_or_ge index values.length with early | late
  · rw [getElem?_writeAt_kept (by omega) (.inl early), List.append_assoc,
      List.getElem?_append_left early, List.getElem?_append_left early]
  · obtain ⟨offset, rfl⟩ := Nat.exists_eq_add_of_le late
    rw [List.append_assoc, List.getElem?_append_right late, Nat.add_sub_cancel_left]
    rcases Nat.lt_or_ge offset more.length with covered | behind
    · rw [getElem?_writeAt_covered covered, List.getElem?_append_left covered]
    · rw [List.getElem?_append_right behind]
      rcases Nat.lt_or_ge offset filling with filled | outside
      · rw [getElem?_writeAt_kept (by omega) (.inr (by omega)), List.getElem?_append_right late,
          Nat.add_sub_cancel_left, List.getElem?_replicate, List.getElem?_replicate,
          if_pos filled, if_pos (by omega)]
      · rw [List.getElem?_eq_none (by rw [length_writeAt, length]; omega),
          List.getElem?_eq_none (by rw [List.length_replicate]; omega)]

-----------------------------------------------------------------------------------------
-- Values standing in their place
-----------------------------------------------------------------------------------------

/-- The values stand in the list from `start` on. -/
def Holds (list : List α) (start : Nat) (values : List α) : Prop :=
  ∀ offset < values.length, list[start + offset]? = values[offset]?

@[simp] theorem Holds.nil (list : List α) (start : Nat) : Holds list start [] :=
  fun _ never => absurd never (Nat.not_lt_zero _)

theorem Holds.lt {list values : List α} {start offset : Nat} (holds : Holds list start values)
    (inside : offset < values.length)
    : start + offset < list.length := by
  have stands := holds offset inside
  rw [List.getElem?_eq_getElem inside] at stands
  exact (List.getElem?_eq_some_iff.mp stands).1

/-- What is written elsewhere does not move them. -/
theorem Holds.writeAt {fill : α} {old values others : List α} {start place : Nat}
    (holds : Holds old start values)
    (elsewhere
      : ∀ offset < values.length,
          start + offset < place ∨ place + others.length ≤ start + offset)
    : Holds (writeAt fill old place others) start values := by
  intro offset inside
  rw [getElem?_writeAt_kept (holds.lt inside) (elsewhere offset inside)]
  exact holds offset inside

/-- Writing on where the values end. -/
theorem Holds.append {fill : α} {old front back : List α} {start : Nat}
    (holds : Holds old start front)
    : Holds (Segment.writeAt fill old (start + front.length) back) start (front ++ back) := by
  intro offset inside
  rw [List.length_append] at inside
  rcases Nat.lt_or_ge offset front.length with early | late
  · rw [getElem?_writeAt_kept (holds.lt early) (.inl (by omega)), List.getElem?_append_left early]
    exact holds offset early
  · obtain ⟨more, rfl⟩ := Nat.exists_eq_add_of_le late
    rw [← Nat.add_assoc, getElem?_writeAt_covered (by omega), List.getElem?_append_right late,
      Nat.add_sub_cancel_left]

/-- What is written before a place leaves the list from there on as it was. -/
theorem getElem?_writeAt_behind {fill : α} {old values : List α} {start stop index : Nat}
    (ends : start + values.length ≤ stop) (behind : stop ≤ index)
    : (writeAt fill old start values)[index]? = old[index]? := by
  rw [getElem?_writeAt, if_neg (by omega)]
  split
  · rfl
  · rename_i outside
    rw [if_neg (by omega), List.getElem?_eq_none (by omega)]

/-- A list with a content up to `total`, and the values of another from there on. -/
theorem eq_segment_append_drop {list others : List α} {total : Nat}
    (front : ∀ index < total, list[index]? = some (content index))
    (back : ∀ index, total ≤ index → list[index]? = others[index]?)
    : list = segment content 0 total ++ others.drop total := by
  apply List.ext_getElem?
  intro index
  rcases Nat.lt_or_ge index total with early | late
  · rw [List.getElem?_append_left (by rw [length_segment]; exact early), getElem?_segment early,
      Nat.zero_add]
    exact front index early
  · rw [List.getElem?_append_right (by rw [length_segment]; exact late), length_segment,
      List.getElem?_drop, Nat.add_sub_cancel' late]
    exact back index late

end Segment
