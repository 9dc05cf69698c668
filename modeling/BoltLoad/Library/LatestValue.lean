import Mathlib

/-! Values passed through a cell that keeps only the latest: a newer value replaces one not
read yet, and each value is read at most once.
-/

universe u

/-- The values read from the cell, with the unread one if there is any, against the values
sent: a subsequence that ends with the last value sent.
-/
inductive LatestValue {Value : Type u} : List Value → List Value → Prop
  | unsent : LatestValue [] []
  | sent {earlier seen : List Value} (kept : seen.Sublist earlier) (last : Value)
    : LatestValue (earlier ++ [last]) (seen ++ [last])

namespace LatestValue

variable {Value : Type u} {sent read : List Value}

theorem subsequence (upToDate : LatestValue sent read)
    : read.Sublist sent := by
  cases upToDate with
  | unsent => exact List.Sublist.slnil
  | sent kept last => exact kept.append (List.Sublist.refl [last])

theorem last (upToDate : LatestValue sent read)
    : read.getLast? = sent.getLast? := by
  cases upToDate with
  | unsent => rfl
  | sent kept last => simp only [List.getLast?_append, List.getLast?_singleton, Option.some_or]

/-- Storing a value drops the unread one, if there is any. -/
theorem store {unread : Option Value} (upToDate : LatestValue sent (read ++ unread.toList))
    (value : Value)
    : LatestValue (sent ++ [value]) (read ++ [value]) :=
  .sent ((List.sublist_append_left read unread.toList).trans upToDate.subsequence) value

end LatestValue
