import Mathlib

/-! Half-open intervals over a linear order and ascending lists of them.
The gaps such a list leaves in an enclosing interval meet none of its members, and they
vanish exactly when the members tile the enclosing interval.
-/

universe u

/-- The points from `start` on, up to but without `stop`. -/
structure HalfOpen (Point : Type u) where
  start : Point
  stop : Point
  deriving DecidableEq, Repr

namespace HalfOpen

variable {Point : Type u} [LinearOrder Point]

instance : Membership Point (HalfOpen Point) :=
  ⟨fun interval point => interval.start ≤ point ∧ point < interval.stop⟩

theorem mem_iff {interval : HalfOpen Point} {point : Point}
    : point ∈ interval ↔ interval.start ≤ point ∧ point < interval.stop :=
  Iff.rfl

instance (point : Point) (interval : HalfOpen Point) : Decidable (point ∈ interval) :=
  inferInstanceAs (Decidable (_ ∧ _))

/-- Whether the interval holds no point. -/
def isEmpty (interval : HalfOpen Point) : Bool := !decide (interval.start < interval.stop)

/-- The intervals share no point. -/
def Apart (left right : HalfOpen Point) : Prop := ∀ point ∈ left, point ∉ right

/-- Intervals that lie one after the other, in either order, share no point. -/
theorem apart_of_le {left right : HalfOpen Point}
    (after : left.stop ≤ right.start ∨ right.stop ≤ left.start)
    : left.Apart right := by
  rintro point ⟨leftStart, leftStop⟩ ⟨rightStart, rightStop⟩
  rcases after with h | h
  · exact (leftStop.trans_le (h.trans rightStart)).false
  · exact (rightStop.trans_le (h.trans leftStart)).false

/-- An interval with a point that shares none with another lies before or after it. -/
theorem Apart.le_or_le {left right : HalfOpen Point} (apart : left.Apart right)
    (leftHolds : left.start < left.stop) (rightHolds : right.start < right.stop)
    : left.stop ≤ right.start ∨ right.stop ≤ left.start := by
  by_contra crossing
  obtain ⟨first, second⟩ := not_or.mp crossing
  exact apart (max left.start right.start)
    ⟨le_max_left _ _, max_lt leftHolds (not_le.mp first)⟩
    ⟨le_max_right _ _, max_lt (not_le.mp second) rightHolds⟩

/-- An interval without points is apart from every other. -/
theorem apart_of_isEmpty {left right : HalfOpen Point} (empty : left.stop ≤ left.start)
    : left.Apart right :=
  fun _ inside _ => ((inside.1.trans_lt inside.2).trans_le empty).false

-----------------------------------------------------------------------------------------
-- Ascending lists of intervals and the gaps they leave
-----------------------------------------------------------------------------------------

/-- Nonempty intervals within `[low, high)`, each starting at or after the stop of the
one before.
-/
def Ascending (low high : Point) : List (HalfOpen Point) → Prop
  | [] => low ≤ high
  | head :: rest => low ≤ head.start ∧ head.start < head.stop ∧ Ascending head.stop high rest

/-- Nonempty intervals, each stopping strictly before the later ones start. -/
structure Separated (intervals : List (HalfOpen Point)) : Prop where
  nonempty : ∀ interval ∈ intervals, interval.start < interval.stop
  apart : intervals.Pairwise (fun left right => left.stop < right.start)

/-- The maximal intervals of `[low, high)` before, between and after the listed ones. -/
def gaps (low high : Point) : List (HalfOpen Point) → List (HalfOpen Point)
  | [] => if low < high then [⟨low, high⟩] else []
  | head :: rest =>
      if low < head.start then
        ⟨low, head.start⟩ :: gaps head.stop high rest
      else
        gaps head.stop high rest

/-- The listed intervals follow each other without gap from `low` to `high`. -/
def Tiles (low high : Point) : List (HalfOpen Point) → Prop
  | [] => low = high
  | head :: rest => head.start = low ∧ Tiles head.stop high rest

theorem Ascending.low_le_high {low high : Point} {intervals : List (HalfOpen Point)}
    (ascending : Ascending low high intervals)
    : low ≤ high := by
  induction intervals generalizing low with
  | nil => exact ascending
  | cons head rest ih =>
      exact ascending.1.trans (ascending.2.1.le.trans (ih ascending.2.2))

/-- Every member of an ascending list is nonempty and lies within its bounds. -/
theorem Ascending.within {low high : Point} {intervals : List (HalfOpen Point)}
    (ascending : Ascending low high intervals) {interval : HalfOpen Point}
    (member : interval ∈ intervals)
    : low ≤ interval.start ∧ interval.start < interval.stop ∧ interval.stop ≤ high := by
  induction intervals generalizing low with
  | nil => cases member
  | cons head rest ih =>
      obtain ⟨first, nonempty, later⟩ := ascending
      rcases List.mem_cons.mp member with rfl | inRest
      · exact ⟨first, nonempty, later.low_le_high⟩
      · obtain ⟨start, inside, stop⟩ := ih later inRest
        exact ⟨first.trans (nonempty.le.trans start), inside, stop⟩

/-- Intervals in key order are ascending when each is nonempty, within the bounds, and
stops before the later ones start.
-/
theorem ascending_of_pairwise {low high : Point} {intervals : List (HalfOpen Point)}
    (bounds : low ≤ high)
    (within
      : ∀ interval ∈ intervals,
          low ≤ interval.start ∧ interval.start < interval.stop ∧ interval.stop ≤ high)
    (apart : intervals.Pairwise (fun left right => left.stop ≤ right.start))
    : Ascending low high intervals := by
  induction intervals generalizing low with
  | nil => exact bounds
  | cons head rest ih =>
      obtain ⟨above, rest_apart⟩ := List.pairwise_cons.mp apart
      obtain ⟨first, nonempty, stop⟩ := within head List.mem_cons_self
      refine ⟨first, nonempty, ih stop (fun interval member => ?_) rest_apart⟩
      have inside := within interval (List.mem_cons_of_mem _ member)
      exact ⟨above interval member, inside.2⟩

/-- A gap is nonempty and within the bounds. -/
theorem Ascending.gap_within {low high : Point} {intervals : List (HalfOpen Point)}
    (ascending : Ascending low high intervals) {gap : HalfOpen Point}
    (member : gap ∈ gaps low high intervals)
    : low ≤ gap.start ∧ gap.start < gap.stop ∧ gap.stop ≤ high := by
  induction intervals generalizing low with
  | nil =>
      simp only [gaps] at member
      split at member
      · rename_i less
        exact List.mem_singleton.mp member ▸ ⟨le_refl _, less, le_refl _⟩
      · cases member
  | cons head rest ih =>
      obtain ⟨first, nonempty, later⟩ := ascending
      have inRest (found : gap ∈ gaps head.stop high rest)
          : low ≤ gap.start ∧ gap.start < gap.stop ∧ gap.stop ≤ high := by
        obtain ⟨start, inside, stop⟩ := ih later found
        exact ⟨first.trans (nonempty.le.trans start), inside, stop⟩
      simp only [gaps] at member
      split at member
      · rename_i less
        rcases List.mem_cons.mp member with rfl | found
        · exact ⟨le_refl _, less, nonempty.le.trans later.low_le_high⟩
        · exact inRest found
      · exact inRest member

/-- A gap lies before or after every listed interval. -/
theorem Ascending.gap_apart {low high : Point} {intervals : List (HalfOpen Point)}
    (ascending : Ascending low high intervals) {gap interval : HalfOpen Point}
    (gapMember : gap ∈ gaps low high intervals) (member : interval ∈ intervals)
    : gap.stop ≤ interval.start ∨ interval.stop ≤ gap.start := by
  induction intervals generalizing low with
  | nil => cases member
  | cons head rest ih =>
      obtain ⟨first, nonempty, later⟩ := ascending
      have inRest (found : gap ∈ gaps head.stop high rest)
          : gap.stop ≤ interval.start ∨ interval.stop ≤ gap.start := by
        rcases List.mem_cons.mp member with rfl | inRest
        · exact .inr (later.gap_within found).1
        · exact ih later found inRest
      simp only [gaps] at gapMember
      split at gapMember
      · rcases List.mem_cons.mp gapMember with rfl | found
        · rcases List.mem_cons.mp member with rfl | inRest
          · exact .inl (le_refl _)
          · exact .inl (nonempty.le.trans (later.within inRest).1)
        · exact inRest found
      · exact inRest gapMember

/-- Between two gaps lies a nonempty interval, by induction on the listed ones. -/
theorem Ascending.gaps_separated {low high : Point} {intervals : List (HalfOpen Point)}
    (ascending : Ascending low high intervals)
    : Separated (gaps low high intervals) := by
  refine ⟨fun gap member => (ascending.gap_within member).2.1, ?_⟩
  induction intervals generalizing low with
  | nil =>
      simp only [gaps]
      split
      · exact List.pairwise_singleton _ _
      · exact .nil
  | cons head rest ih =>
      obtain ⟨first, nonempty, later⟩ := ascending
      simp only [gaps]
      split
      · refine List.pairwise_cons.mpr ⟨fun gap member => ?_, ih later⟩
        exact nonempty.trans_le (later.gap_within member).1
      · exact ih later

/-- Each gap stops before the later ones start. -/
theorem Ascending.gaps_pairwise {low high : Point} {intervals : List (HalfOpen Point)}
    (ascending : Ascending low high intervals)
    : (gaps low high intervals).Pairwise (fun left right => left.stop ≤ right.start) :=
  ascending.gaps_separated.apart.imp le_of_lt

/-- No gap is left exactly when the intervals tile the enclosing one. -/
theorem Ascending.gaps_eq_nil_iff {low high : Point} {intervals : List (HalfOpen Point)}
    (ascending : Ascending low high intervals)
    : gaps low high intervals = [] ↔ Tiles low high intervals := by
  induction intervals generalizing low with
  | nil =>
      have bounds : low ≤ high := ascending
      simp only [gaps, Tiles]
      split
      · rename_i less
        simp [less.ne]
      · rename_i notLess
        simp [le_antisymm bounds (not_lt.mp notLess)]
  | cons head rest ih =>
      obtain ⟨first, nonempty, later⟩ := ascending
      simp only [gaps, Tiles]
      split
      · rename_i less
        simp [less.ne']
      · rename_i notLess
        simp [ih later, le_antisymm (not_lt.mp notLess) first]

/-- Every point of the enclosing interval lies in a listed interval or in a gap. -/
theorem Ascending.covered {low high : Point} {intervals : List (HalfOpen Point)}
    (ascending : Ascending low high intervals) {point : Point}
    (inside : point ∈ (⟨low, high⟩ : HalfOpen Point))
    : (∃ interval ∈ intervals, point ∈ interval) ∨ ∃ gap ∈ gaps low high intervals, point ∈ gap := by
  induction intervals generalizing low with
  | nil =>
      have bounds : low < high := inside.1.trans_lt inside.2
      exact .inr ⟨⟨low, high⟩, by simp [gaps, bounds], inside⟩
  | cons head rest ih =>
      obtain ⟨first, nonempty, later⟩ := ascending
      rcases lt_or_ge point head.start with before | afterStart
      · refine .inr ⟨⟨low, head.start⟩, ?_, inside.1, before⟩
        simp [gaps, inside.1.trans_lt before]
      rcases lt_or_ge point head.stop with within | afterStop
      · exact .inl ⟨head, List.mem_cons_self, afterStart, within⟩
      rcases ih later ⟨afterStop, inside.2⟩ with ⟨interval, member, holds⟩ | ⟨gap, member, holds⟩
      · exact .inl ⟨interval, List.mem_cons_of_mem _ member, holds⟩
      · refine .inr ⟨gap, ?_, holds⟩
        simp only [gaps]
        split
        · exact List.mem_cons_of_mem _ member
        · exact member

/-- No gap is left exactly when every point of the enclosing interval is in a member. -/
theorem Ascending.gaps_eq_nil_iff_covered {low high : Point} {intervals : List (HalfOpen Point)}
    (ascending : Ascending low high intervals)
    : gaps low high intervals = []
      ↔ ∀ point ∈ (⟨low, high⟩ : HalfOpen Point), ∃ interval ∈ intervals, point ∈ interval := by
  refine ⟨fun closed point inside => ?_, fun covered => ?_⟩
  · rcases ascending.covered inside with holds | ⟨gap, member, -⟩
    · exact holds
    · rw [closed] at member
      cases member
  · refine List.eq_nil_iff_forall_not_mem.mpr (fun gap member => ?_)
    obtain ⟨first, nonempty, last⟩ := ascending.gap_within member
    obtain ⟨interval, listed, holds⟩ := covered gap.start ⟨first, nonempty.trans_le last⟩
    rcases ascending.gap_apart member listed with before | behind
    · exact ((nonempty.trans_le before).trans_le holds.1).false
    · exact (holds.2.trans_le behind).false

/-- Ascending intervals are in order of their starts. -/
theorem Ascending.pairwise_start {low high : Point} {intervals : List (HalfOpen Point)}
    (ascending : Ascending low high intervals)
    : intervals.Pairwise (fun left right => left.start ≤ right.start) := by
  induction intervals generalizing low with
  | nil => exact .nil
  | cons head rest ih =>
      obtain ⟨-, nonempty, later⟩ := ascending
      refine List.pairwise_cons.mpr ⟨fun interval member => ?_, ih later⟩
      exact nonempty.le.trans (later.within member).1

-----------------------------------------------------------------------------------------
-- Gaps are the maximal uncovered intervals
-----------------------------------------------------------------------------------------

/-- A nonempty interval within the bounds that meets none of the listed ones. -/
structure Uncovered (low high : Point) (intervals : List (HalfOpen Point))
    (free : HalfOpen Point)
    : Prop where
  nonempty : free.start < free.stop
  first : low ≤ free.start
  last : free.stop ≤ high
  apart : ∀ interval ∈ intervals, free.Apart interval

/-- An uncovered interval no other uncovered one reaches beyond. -/
structure MaximalGap (low high : Point) (intervals : List (HalfOpen Point))
    (gap : HalfOpen Point)
    : Prop where
  uncovered : Uncovered low high intervals gap
  maximal
    : ∀ other, Uncovered low high intervals other
        → other.start ≤ gap.start
        → gap.stop ≤ other.stop
        → other = gap

theorem Ascending.gap_uncovered {low high : Point} {intervals : List (HalfOpen Point)}
    (ascending : Ascending low high intervals) {gap : HalfOpen Point}
    (member : gap ∈ gaps low high intervals)
    : Uncovered low high intervals gap := by
  obtain ⟨first, nonempty, last⟩ := ascending.gap_within member
  exact ⟨nonempty, first, last, fun interval listed =>
    apart_of_le (ascending.gap_apart member listed)⟩

/-- Every uncovered interval lies inside one gap, by induction on the listed intervals. -/
theorem Ascending.uncovered_inside {low high : Point} {intervals : List (HalfOpen Point)}
    (ascending : Ascending low high intervals) {free : HalfOpen Point}
    (uncovered : Uncovered low high intervals free)
    : ∃ gap ∈ gaps low high intervals, gap.start ≤ free.start ∧ free.stop ≤ gap.stop := by
  induction intervals generalizing low with
  | nil =>
      have bounds : low < high :=
        uncovered.first.trans_lt (uncovered.nonempty.trans_le uncovered.last)
      exact ⟨⟨low, high⟩, by simp [gaps, bounds], uncovered.first, uncovered.last⟩
  | cons head rest ih =>
      obtain ⟨first, nonempty, later⟩ := ascending
      have headApart := uncovered.apart head List.mem_cons_self
      rcases headApart.le_or_le uncovered.nonempty nonempty with before | behind
      · have room : low < head.start :=
          uncovered.first.trans_lt (uncovered.nonempty.trans_le before)
        refine ⟨⟨low, head.start⟩, ?_, uncovered.first, before⟩
        simp [gaps, room]
      · obtain ⟨gap, member, inside⟩ := ih later
          ⟨uncovered.nonempty, behind, uncovered.last,
            fun interval listed => uncovered.apart interval (List.mem_cons_of_mem _ listed)⟩
        refine ⟨gap, ?_, inside⟩
        simp only [gaps]
        split
        · exact List.mem_cons_of_mem _ member
        · exact member

/-- Two gaps that share a point are the same. -/
theorem Ascending.gap_unique {low high : Point} {intervals : List (HalfOpen Point)}
    (ascending : Ascending low high intervals) {left right : HalfOpen Point}
    (leftMember : left ∈ gaps low high intervals) (rightMember : right ∈ gaps low high intervals)
    {point : Point} (inLeft : point ∈ left) (inRight : point ∈ right)
    : left = right := by
  by_contra distinct
  have symmetric : Std.Symm (fun left right : HalfOpen Point => left.Apart right) :=
    ⟨fun _ _ apart point inside outside => apart point outside inside⟩
  have apart := (ascending.gaps_pairwise.imp (fun before => apart_of_le (Or.inl before))).forall
    leftMember rightMember distinct
  exact apart point inLeft inRight

/-- The gaps are exactly the maximal uncovered intervals. -/
theorem Ascending.mem_gaps_iff {low high : Point} {intervals : List (HalfOpen Point)}
    (ascending : Ascending low high intervals) {gap : HalfOpen Point}
    : gap ∈ gaps low high intervals ↔ MaximalGap low high intervals gap := by
  constructor
  · intro member
    have uncovered := ascending.gap_uncovered member
    refine ⟨uncovered, fun other otherUncovered starts stops => ?_⟩
    obtain ⟨wide, wideMember, wideStarts, wideStops⟩ :=
      ascending.uncovered_inside otherUncovered
    have inWide : gap.start ∈ wide :=
      ⟨wideStarts.trans starts, uncovered.nonempty.trans_le (stops.trans wideStops)⟩
    have same := ascending.gap_unique member wideMember ⟨le_refl _, uncovered.nonempty⟩ inWide
    subst same
    cases other
    cases gap
    exact congrArg₂ HalfOpen.mk (le_antisymm starts wideStarts) (le_antisymm wideStops stops)
  · intro maximal
    obtain ⟨wide, member, starts, stops⟩ := ascending.uncovered_inside maximal.uncovered
    have same := maximal.maximal wide (ascending.gap_uncovered member) starts stops
    exact same ▸ member

/-- A point is in a gap exactly when it is within the bounds and in no listed interval. -/
theorem Ascending.exists_gap_iff {low high : Point} {intervals : List (HalfOpen Point)}
    (ascending : Ascending low high intervals) {point : Point}
    : (∃ gap ∈ gaps low high intervals, point ∈ gap)
      ↔ point ∈ (⟨low, high⟩ : HalfOpen Point) ∧ ∀ interval ∈ intervals, point ∉ interval := by
  constructor
  · rintro ⟨gap, member, holds⟩
    have uncovered := ascending.gap_uncovered member
    exact ⟨⟨uncovered.first.trans holds.1, holds.2.trans_le uncovered.last⟩,
      fun interval listed => uncovered.apart interval listed point holds⟩
  · rintro ⟨inside, outside⟩
    rcases ascending.covered inside with ⟨interval, listed, holds⟩ | found
    · exact absurd holds (outside interval listed)
    · exact found

/-- Separated intervals are in order, so their members determine the list. -/
theorem Separated.ext {left right : List (HalfOpen Point)} (leftSeparated : Separated left)
    (rightSeparated : Separated right) (same : ∀ interval, interval ∈ left ↔ interval ∈ right)
    : left = right := by
  have strict {intervals : List (HalfOpen Point)} (separated : Separated intervals)
      : intervals.Pairwise (fun first second => first.start < second.start) :=
    separated.apart.imp_of_mem (fun firstMember _ before =>
      (separated.nonempty _ firstMember).trans before)
  have distinct {intervals : List (HalfOpen Point)} (separated : Separated intervals)
      : intervals.Nodup :=
    (strict separated).imp (fun before same => before.ne (congrArg HalfOpen.start same))
  have perm : left.Perm right :=
    (List.perm_ext_iff_of_nodup (distinct leftSeparated) (distinct rightSeparated)).mpr same
  refine perm.eq_of_pairwise ?_ (strict leftSeparated) (strict rightSeparated)
  intro first second _ _ before after
  exact absurd after before.asymm

/-- The points of the listed intervals determine the gaps they leave. -/
theorem Ascending.gaps_congr {low high : Point} {left right : List (HalfOpen Point)}
    (leftAscending : Ascending low high left) (rightAscending : Ascending low high right)
    (same : ∀ point, (∃ interval ∈ left, point ∈ interval) ↔ ∃ interval ∈ right, point ∈ interval)
    : gaps low high left = gaps low high right := by
  have uncovered (free : HalfOpen Point)
      : Uncovered low high left free ↔ Uncovered low high right free := by
    constructor
    · intro within
      refine ⟨within.nonempty, within.first, within.last, fun interval listed point mine theirs => ?_⟩
      obtain ⟨other, otherListed, holds⟩ := (same point).mpr ⟨interval, listed, theirs⟩
      exact within.apart other otherListed point mine holds
    · intro within
      refine ⟨within.nonempty, within.first, within.last, fun interval listed point mine theirs => ?_⟩
      obtain ⟨other, otherListed, holds⟩ := (same point).mp ⟨interval, listed, theirs⟩
      exact within.apart other otherListed point mine holds
  refine leftAscending.gaps_separated.ext rightAscending.gaps_separated (fun gap => ?_)
  rw [leftAscending.mem_gaps_iff, rightAscending.mem_gaps_iff]
  constructor
  · intro maximal
    exact ⟨(uncovered gap).mp maximal.uncovered,
      fun other free => maximal.maximal other ((uncovered other).mpr free)⟩
  · intro maximal
    exact ⟨(uncovered gap).mpr maximal.uncovered,
      fun other free => maximal.maximal other ((uncovered other).mp free)⟩

-----------------------------------------------------------------------------------------
-- Lengths
-----------------------------------------------------------------------------------------

/-- The number of points of an interval of natural numbers. -/
def len (interval : HalfOpen Nat) : Nat := interval.stop - interval.start

/-- Parts of ascending intervals, one for each, are together no longer than the enclosing
interval, by induction on the list.
-/
theorem Ascending.sum_le {low high : Nat} {intervals : List (HalfOpen Nat)}
    (ascending : Ascending low high intervals)
    {Item : Type u} (items : List Item) (whole : Item → HalfOpen Nat) (part : Item → Nat)
    (listed : items.map whole = intervals)
    (parts : ∀ item ∈ items, part item ≤ (whole item).len)
    : (items.map part).sum ≤ high - low := by
  induction items generalizing low intervals with
  | nil => simp
  | cons head rest ih =>
      subst listed
      obtain ⟨first, nonempty, later⟩ := ascending
      have headPart := parts head List.mem_cons_self
      have restSum := ih later rfl (fun item member => parts item (List.mem_cons_of_mem _ member))
      have bounds := later.low_le_high
      simp only [List.map_cons, List.sum_cons, len] at *
      omega

/-- Intervals without gaps are together as long as what they tile. -/
theorem Ascending.sum_eq {low high : Nat} {intervals : List (HalfOpen Nat)}
    (ascending : Ascending low high intervals) (tiles : Tiles low high intervals)
    : (intervals.map len).sum = high - low := by
  induction intervals generalizing low with
  | nil =>
      have last : low = high := tiles
      simp [last]
  | cons head rest ih =>
      obtain ⟨-, nonempty, later⟩ := ascending
      obtain ⟨starts, tail⟩ := tiles
      have restSum := ih later tail
      have bounds := later.low_le_high
      simp only [List.map_cons, List.sum_cons, restSum, len]
      omega

end HalfOpen
