import Mathlib

/-! A queue that forgets at its front, for two reasons: it holds at most so many elements, and
what is kept once is kept until a stricter predicate expires it. Against the history of all
elements ever pushed, the queue is the right end of what is still kept.
-/

namespace SlidingWindow

variable {α : Type*}

/-- From the first kept element of a history on, every element is kept. -/
def Settles (keep : α → Bool) (history : List α) : Prop :=
  history.Pairwise (fun earlier later => keep earlier = true → keep later = true)

/-- The last `cap` of the kept elements. -/
def held (cap : Nat) (keep : α → Bool) (history : List α) : List α :=
  (history.filter keep).rtake cap

variable {cap : Nat} {keep stricter : α → Bool} {history : List α}

theorem length_rtake_le (cap : Nat) (history : List α) : (history.rtake cap).length ≤ cap := by
  rw [List.rtake, List.length_drop]
  omega

theorem rtake_of_length_le (few : history.length ≤ cap) : history.rtake cap = history := by
  rw [List.rtake, Nat.sub_eq_zero_of_le few, List.drop_zero]

theorem rtake_rtake {fewer : Nat} (le : fewer ≤ cap)
    : (history.rtake cap).rtake fewer = history.rtake fewer := by
  simp only [List.rtake, List.drop_drop, List.length_drop]
  congr 1
  omega

/-- Expiring from the front is filtering. -/
theorem Settles.dropWhile_eq_filter (settles : Settles keep history)
    : history.dropWhile (fun element => !keep element) = history.filter keep := by
  induction history with
  | nil => rfl
  | cons first rest ih =>
      obtain ⟨later, restSettles⟩ := List.pairwise_cons.mp settles
      cases kept : keep first with
      | true =>
          rw [List.dropWhile_cons_of_neg (by simp [kept]), List.filter_cons_of_pos kept,
            List.filter_eq_self.mpr (fun element member => later element member kept)]
      | false =>
          rw [List.dropWhile_cons_of_pos (by simp [kept]),
            List.filter_cons_of_neg (by simp [kept]), ih restSettles]

/-- The last kept elements are the kept ones of the last elements. -/
theorem Settles.held_eq (settles : Settles keep history)
    : held cap keep history = (history.rtake cap).filter keep := by
  unfold held
  induction history with
  | nil => simp
  | cons first rest ih =>
      obtain ⟨later, restSettles⟩ := List.pairwise_cons.mp settles
      cases kept : keep first with
      | true =>
          have every : ∀ element ∈ first :: rest, keep element = true := by
            intro element member
            rcases List.mem_cons.mp member with same | member
            · exact same ▸ kept
            · exact later element member kept
          have last : ((first :: rest).rtake cap).filter keep = (first :: rest).rtake cap :=
            List.filter_eq_self.mpr
              (fun element member => every element (List.mem_of_mem_drop member))
          rw [List.filter_eq_self.mpr every, last]
      | false =>
          rw [List.filter_cons_of_neg (by simp [kept])]
          by_cases few : rest.length < cap
          · have fewer := List.length_filter_le keep rest
            rw [rtake_of_length_le (by omega), rtake_of_length_le (by simpa using few),
              List.filter_cons_of_neg (by simp [kept])]
          · have dropped : (first :: rest).rtake cap = rest.rtake cap := by
              have split : (first :: rest).length - cap = rest.length - cap + 1 := by
                rw [List.length_cons]
                omega
              rw [List.rtake, split, List.drop_succ_cons, List.rtake]
            rw [dropped, ih restSettles]

/-- A stricter predicate expires the front of the queue. -/
theorem Settles.expire (settles : Settles stricter history)
    (implies : ∀ element ∈ history, stricter element = true → keep element = true)
    : (held cap keep history).dropWhile (fun element => !stricter element)
      = held cap stricter history := by
  have suffix : held cap keep history = (history.filter keep).rtake cap := rfl
  have kept : Settles stricter (history.filter keep) := List.Pairwise.filter keep settles
  have held : Settles stricter (held cap keep history) :=
    List.Pairwise.sublist (List.drop_sublist _ _) kept
  rw [held.dropWhile_eq_filter, suffix, ← kept.held_eq, SlidingWindow.held,
    SlidingWindow.held, List.filter_filter]
  congr 1
  refine List.filter_congr (fun element member => ?_)
  cases strict : stricter element with
  | true => simp [implies element member strict]
  | false => simp

/-- A new element is pushed at the back, and the front cut. -/
theorem held_push {element : α} (kept : keep element = true)
    : (held cap keep history ++ [element]).rtake cap = held cap keep (history ++ [element]) := by
  have filtered : (history ++ [element]).filter keep = history.filter keep ++ [element] := by
    simp [kept]
  unfold held
  rw [filtered]
  cases cap with
  | zero => simp
  | succ cap =>
      rw [List.rtake_concat_succ, List.rtake_concat_succ, rtake_rtake (Nat.le_succ cap)]

end SlidingWindow
