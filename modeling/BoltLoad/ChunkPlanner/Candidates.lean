import BoltLoad.ChunkPlanner.Available

/-! What `findChunkToSplit` suggests. The scan over the available ranges ends with a fitting
one or with a longest one. The range cut out of a chunk is as long as was asked for, whatever
the chunk has left.
-/

namespace BoltLoad

open OrderedMap

namespace ChunkPlanner

-----------------------------------------------------------------------------------------
-- Available ranges
-----------------------------------------------------------------------------------------

/-- The best of the ranges seen, none of which is long enough. -/
structure BestSoFar (requiredSize : Nat) (seen : List Range) (best : Option Range) : Prop where
  short : ∀ range ∈ seen, range.len < requiredSize
  longest : ∀ previous ∈ best, previous ∈ seen ∧ ∀ range ∈ seen, range.len ≤ previous.len
  nothing : best = none → seen = []

/-- A range cut from the start of one that is long enough, or a longest one where none is. -/
def Suggested (requiredSize : Nat) (ranges : List Range) (suggested : Range) : Prop :=
  (∃ range ∈ ranges,
    requiredSize ≤ range.len
    ∧ suggested = ⟨range.start, range.start + requiredSize⟩)
  ∨ (∀ range ∈ ranges, range.len < requiredSize)
    ∧ suggested ∈ ranges
    ∧ ∀ range ∈ ranges, range.len ≤ suggested.len

/-- The scan over the rest of the ranges, by induction on them. -/
theorem fittingRange_suggests {requiredSize : Nat} {seen ranges : List Range}
    {best : Option Range} (soFar : BestSoFar requiredSize seen best)
    (representable
      : ∀ range ∈ seen ++ ranges, range.start ≤ range.stop ∧ range.stop < u64Size)
    : ∃ result,
        fittingRange requiredSize best ranges = .ok result
        ∧ (result = none → seen ++ ranges = [])
        ∧ ∀ suggested ∈ result, Suggested requiredSize (seen ++ ranges) suggested := by
  induction ranges generalizing seen best with
  | nil =>
      refine ⟨best, rfl, ?_, ?_⟩
      · intro missing
        rw [soFar.nothing missing, List.append_nil]
      · intro suggested member
        obtain ⟨inSeen, longest⟩ := soFar.longest suggested member
        rw [List.append_nil]
        exact Or.inr ⟨soFar.short, inSeen, longest⟩
  | cons range rest ih =>
      obtain ⟨ordered, bounded⟩ := representable range (by simp)
      have length : Checked.sub range.stop range.start = .ok range.len := Checked.sub_eq ordered
      by_cases long : range.len ≥ requiredSize
      · have stop
            : Checked.add range.start requiredSize = .ok (range.start + requiredSize) := by
          refine Checked.add_eq ?_
          simp only [HalfOpen.len] at long
          omega
        refine ⟨some ⟨range.start, range.start + requiredSize⟩, ?_, by simp, ?_⟩
        · simp only [fittingRange, fittingStep, length, Checked.ok_bind, long, if_true, stop]
          rfl
        · intro suggested member
          cases member
          exact Or.inl ⟨range, by simp, long, rfl⟩
      · -- The longer of the best so far and this range goes on.
        have goesOn
            : ∃ next,
                fittingStep requiredSize best range = .ok (.inr (some next))
                ∧ BestSoFar requiredSize (seen ++ [range]) (some next) := by
          have short (other : Range) (member : other ∈ seen ++ [range])
              : other.len < requiredSize := by
            rcases List.mem_append.mp member with before | last
            · exact soFar.short other before
            · exact (List.mem_singleton.mp last) ▸ not_le.mp long
          cases best with
          | none =>
              have nothing := soFar.nothing rfl
              refine ⟨range, ?_, short, ?_, by simp⟩
              · simp only [fittingStep, length, Checked.ok_bind, long, if_false]
                rfl
              · intro previous same
                cases same
                subst nothing
                exact ⟨by simp, by simp⟩
          | some previous =>
              obtain ⟨inSeen, longest⟩ := soFar.longest previous rfl
              have previousOrdered := (representable previous (by simp [inSeen])).1
              have previousLength : Checked.sub previous.stop previous.start = .ok previous.len :=
                Checked.sub_eq previousOrdered
              refine ⟨if previous.len > range.len then previous else range, ?_, short, ?_, by simp⟩
              · simp only [fittingStep, length, Checked.ok_bind, long, if_false, previousLength]
                rfl
              · intro next same
                cases same
                split
                · rename_i longer
                  refine ⟨by simp [inSeen], fun other member => ?_⟩
                  rcases List.mem_append.mp member with before | last
                  · exact longest other before
                  · exact (List.mem_singleton.mp last) ▸ longer.le
                · rename_i shorter
                  refine ⟨by simp, fun other member => ?_⟩
                  rcases List.mem_append.mp member with before | last
                  · exact (longest other before).trans (not_lt.mp shorter)
                  · exact (List.mem_singleton.mp last) ▸ le_refl _
        obtain ⟨next, step, nextSoFar⟩ := goesOn
        have rest_eq : seen ++ [range] ++ rest = seen ++ range :: rest := by simp
        obtain ⟨result, found, nothing, suggests⟩ := ih nextSoFar (rest_eq ▸ representable)
        rw [rest_eq] at nothing suggests
        refine ⟨result, ?_, nothing, suggests⟩
        simp only [fittingRange, step, Checked.ok_bind]
        exact found

-----------------------------------------------------------------------------------------
-- Chunks
-----------------------------------------------------------------------------------------

section Chunks

variable {planner : ChunkPlanner}

/-- What the search takes for a candidate, in a well-formed planner. -/
def isCandidate (planner : ChunkPlanner) (chunk : ChunkState) : Bool :=
  decide (chunk.status = .running) && decide (planner.minChunkSize ≤ chunk.incompleteRange.len)

theorem isCandidate_iff {chunk : ChunkState}
    : planner.isCandidate chunk = true
      ↔ chunk.status = .running ∧ planner.minChunkSize ≤ chunk.incompleteRange.len := by
  simp [isCandidate]

theorem WellFormed.remaining_of_mem (wf : planner.WellFormed) {chunk : ChunkState}
    (member : chunk ∈ planner.chunks.values)
    : chunk.remaining = .ok chunk.incompleteRange.len := by
  obtain ⟨start, found⟩ := mem_values_iff.mp member
  exact (wf.shaped found).remaining_eq

/-- A running chunk names its runner. -/
theorem WellFormed.running_owned (wf : planner.WellFormed) {chunk : ChunkState}
    (member : chunk ∈ planner.chunks.values) (running : chunk.status = .running)
    : ∃ runnerId, chunk.runnerId = some runnerId ∧ planner.Owns runnerId chunk := by
  obtain ⟨start, found⟩ := mem_values_iff.mp member
  have key := wf.keyed found
  obtain ⟨runnerId, named, mapped⟩ :=
    wf.active found (by simp [running, ChunkStatus.isActive])
  exact ⟨runnerId, named, ⟨key.symm ▸ mapped, key.symm ▸ found⟩⟩

theorem WellFormed.splitCandidate_eq (wf : planner.WellFormed) {chunk : ChunkState}
    (member : chunk ∈ planner.chunks.values)
    : planner.splitCandidate chunk = .ok (planner.isCandidate chunk) := by
  unfold splitCandidate isCandidate
  by_cases running : chunk.status = .running
  · obtain ⟨runnerId, named, -⟩ := wf.running_owned member running
    simp only [running, named, Option.isSome_some, and_self, if_true,
      wf.remaining_of_mem member, Checked.ok_bind, decide_true, Bool.true_and, ge_iff_le]
    rfl
  · simp only [running, false_and, if_false, decide_false, Bool.false_and]
    rfl

/-- The search ends with a chunk that has the most left, by induction on the chunks. -/
theorem mostRemaining_longest {chunks : List ChunkState}
    (remaining : ∀ chunk ∈ chunks, chunk.remaining = .ok chunk.incompleteRange.len)
    : ∃ result,
        mostRemaining chunks = .ok result
        ∧ (result = none → chunks = [])
        ∧ ∀ chunk ∈ result,
            chunk ∈ chunks
            ∧ ∀ other ∈ chunks, other.incompleteRange.len ≤ chunk.incompleteRange.len := by
  induction chunks with
  | nil => exact ⟨none, rfl, fun _ => rfl, fun chunk member => by cases member⟩
  | cons head rest ih =>
      obtain ⟨later, found, nothing, longest⟩ :=
        ih (fun chunk member => remaining chunk (List.mem_cons_of_mem _ member))
      have mine := remaining head List.mem_cons_self
      cases later with
      | none =>
          have alone := nothing rfl
          subst alone
          refine ⟨some head, ?_, by simp, ?_⟩
          · simp only [mostRemaining]
            rfl
          · intro chunk same
            cases same
            exact ⟨by simp, by simp⟩
      | some other =>
          obtain ⟨inRest, atLeast⟩ := longest other rfl
          have theirs := remaining other (List.mem_cons_of_mem _ inRest)
          refine ⟨some (if head.incompleteRange.len > other.incompleteRange.len then head
            else other), ?_, by simp, ?_⟩
          · simp only [mostRemaining, found, Checked.ok_bind, mine, theirs]
            rfl
          · intro chunk same
            cases same
            split
            · rename_i more
              refine ⟨List.mem_cons_self, fun third member => ?_⟩
              rcases List.mem_cons.mp member with rfl | later
              · exact le_refl _
              · exact (atLeast third later).trans more.le
            · rename_i less
              refine ⟨List.mem_cons_of_mem _ inRest, fun third member => ?_⟩
              rcases List.mem_cons.mp member with rfl | later
              · exact not_lt.mp less
              · exact atLeast third later

/-- A candidate with the most left, which a running runner owns. -/
structure BestCandidate (planner : ChunkPlanner) (runnerId : RunnerId) (chunk : ChunkState)
    : Prop where
  owned : planner.Owns runnerId chunk
  named : chunk.runnerId = some runnerId
  running : chunk.status = .running
  large : planner.minChunkSize ≤ chunk.incompleteRange.len
  most
    : ∀ other ∈ planner.chunks.values,
        planner.isCandidate other = true
        → other.incompleteRange.len ≤ chunk.incompleteRange.len

/-- Everything the search can end with. -/
theorem WellFormed.findChunkToSplit_cases (wf : planner.WellFormed) (requiredSize : Nat)
    : (∃ suggested,
        planner.getAvailableRanges ≠ []
        ∧ Suggested requiredSize planner.getAvailableRanges suggested
        ∧ planner.findChunkToSplit requiredSize = .ok (some (none, suggested)))
      ∨ (∃ runnerId chunk,
          planner.getAvailableRanges = []
          ∧ planner.BestCandidate runnerId chunk
          ∧ planner.findChunkToSplit requiredSize
            = (Checked.add chunk.downloaded.stop requiredSize).map
                (fun splitPos => some (some runnerId, ⟨chunk.downloaded.stop, splitPos⟩)))
      ∨ (planner.getAvailableRanges = []
        ∧ (∀ chunk ∈ planner.chunks.values, planner.isCandidate chunk = false)
        ∧ planner.findChunkToSplit requiredSize = .ok none) := by
  have representable := wf.representable
  have within (range : Range) (member : range ∈ [] ++ planner.getAvailableRanges)
      : range.start ≤ range.stop ∧ range.stop < u64Size := by
    rw [List.nil_append, getAvailableRanges_eq] at member
    have uncovered := wf.ascending.gap_uncovered member
    exact ⟨uncovered.nonempty.le, uncovered.last.trans_lt representable⟩
  have start : BestSoFar requiredSize [] none :=
    ⟨by simp, fun _ never => (by cases never), fun _ => rfl⟩
  obtain ⟨available, scanned, nothing, suggests⟩ := fittingRange_suggests start within
  rw [List.nil_append] at nothing suggests
  have search
      : planner.chunks.values.filterM planner.splitCandidate
        = .ok (planner.chunks.values.filter planner.isCandidate) :=
    Checked.filterM_eq_ok (fun chunk member => wf.splitCandidate_eq member)
  have remaining (chunk : ChunkState)
      (member : chunk ∈ planner.chunks.values.filter planner.isCandidate)
      : chunk.remaining = .ok chunk.incompleteRange.len :=
    wf.remaining_of_mem (List.mem_filter.mp member).1
  obtain ⟨candidate, chosen, missing, longest⟩ := mostRemaining_longest remaining
  cases available with
  | some suggested =>
      refine Or.inl ⟨suggested, ?_, suggests suggested rfl, ?_⟩
      · intro empty
        rcases suggests suggested rfl with ⟨range, member, -⟩ | ⟨-, member, -⟩
        · rw [empty] at member
          cases member
        · rw [empty] at member
          cases member
      · simp only [findChunkToSplit, scanned, Checked.ok_bind]
        rfl
  | none =>
      have empty := nothing rfl
      right
      cases candidate with
      | none =>
          refine Or.inr ⟨empty, ?_, ?_⟩
          · intro chunk member
            by_contra isCandidate
            have listed := List.mem_filter.mpr ⟨member, Bool.not_eq_false _ ▸ isCandidate⟩
            rw [missing rfl] at listed
            cases listed
          · simp only [findChunkToSplit, scanned, search, chosen, Checked.ok_bind]
            rfl
      | some chunk =>
          obtain ⟨listed, most⟩ := longest chunk rfl
          obtain ⟨member, keeps⟩ := List.mem_filter.mp listed
          obtain ⟨running, large⟩ := isCandidate_iff.mp keeps
          obtain ⟨runnerId, named, owned⟩ := wf.running_owned member running
          refine Or.inl ⟨runnerId, chunk, empty, ⟨owned, named, running, large, ?_⟩, ?_⟩
          · intro other otherMember otherKeeps
            exact most other (List.mem_filter.mpr ⟨otherMember, otherKeeps⟩)
          · simp only [findChunkToSplit, scanned, search, chosen, Checked.ok_bind, named]
            cases Checked.add chunk.downloaded.stop requiredSize with
            | ok splitPos => rfl
            | error panic => rfl

end Chunks

-----------------------------------------------------------------------------------------
-- Staying inside what is named
-----------------------------------------------------------------------------------------

/-- A suggestion stays inside what it names: part of an available range, as long as asked if
one is that long and a longest one otherwise, or the front of a running runner's incomplete
range, long enough exactly when that is.
-/
def StaysInside (planner : ChunkPlanner) (requiredSize : Nat)
    : Option RunnerId × Range → Prop
  | (none, range) =>
    range.start < range.stop
    ∧ (∃ gap ∈ planner.getAvailableRanges, gap.start ≤ range.start ∧ range.stop ≤ gap.stop)
    ∧ ((∃ gap ∈ planner.getAvailableRanges, requiredSize ≤ gap.len)
      → range.len = requiredSize)
    ∧ ((∀ gap ∈ planner.getAvailableRanges, gap.len < requiredSize)
      → range ∈ planner.getAvailableRanges
        ∧ ∀ gap ∈ planner.getAvailableRanges, gap.len ≤ range.len)
  | (some runnerId, range) =>
    ∃ chunk,
      planner.getRunnerState runnerId = some chunk
      ∧ chunk.status = .running
      ∧ range.start = chunk.downloaded.stop
      ∧ range.stop ≤ chunk.allocated.stop
      ∧ (requiredSize ≤ range.len ↔ requiredSize ≤ chunk.incompleteRange.len)

/-- The search does not overflow, and what it finds stays inside what it names. -/
def FindsInside (planner : ChunkPlanner) (requiredSize : Nat) : Prop :=
  ∃ result,
    planner.findChunkToSplit requiredSize = .ok result
    ∧ ∀ found ∈ result, planner.StaysInside requiredSize found

/-- Something is available, or nothing is a candidate, or a candidate has the asked size
left.
-/
def HasEnough (planner : ChunkPlanner) (requiredSize : Nat) : Prop :=
  planner.getAvailableRanges ≠ []
  ∨ (∀ chunk ∈ planner.chunks.values, planner.isCandidate chunk = false)
  ∨ ∃ chunk ∈ planner.chunks.values,
      planner.isCandidate chunk = true ∧ requiredSize ≤ chunk.incompleteRange.len

/-- An available range is suggested as promised. -/
theorem Suggested.staysInside {planner : ChunkPlanner} (wf : planner.WellFormed)
    {requiredSize : Nat} (positive : 1 ≤ requiredSize) {suggested : Range}
    (suggests : Suggested requiredSize planner.getAvailableRanges suggested)
    : planner.StaysInside requiredSize (none, suggested) := by
  rcases suggests with ⟨gap, member, long, rfl⟩ | ⟨short, member, longest⟩
  · refine ⟨by simp only; omega, ⟨gap, member, le_refl _, ?_⟩, fun _ => ?_, fun short => ?_⟩
    · simp only [HalfOpen.len] at long
      simp only
      omega
    · simp [HalfOpen.len]
    · exact absurd long (not_le.mpr (short gap member))
  · have nonempty : suggested.start < suggested.stop := by
      rw [getAvailableRanges_eq] at member
      exact (wf.ascending.gap_uncovered member).nonempty
    refine ⟨nonempty, ⟨suggested, member, le_refl _, le_refl _⟩, ?_, fun _ => ⟨member, longest⟩⟩
    rintro ⟨gap, gapMember, long⟩
    exact absurd long (not_le.mpr (short gap gapMember))

/-- In every reachable planner and for every positive size, what `findChunkToSplit` finds
stays inside what it names exactly when something is available, no chunk is a candidate, or a
candidate has the asked size left.
-/
theorem finds_inside_iff {planner : ChunkPlanner} (reached : machine.Reachable planner)
    {requiredSize : Nat} (positive : 1 ≤ requiredSize)
    : planner.FindsInside requiredSize ↔ planner.HasEnough requiredSize := by
  have wf := reachable_wellFormed reached
  have representable := wf.representable
  rcases wf.findChunkToSplit_cases requiredSize with
    ⟨suggested, available, suggests, found⟩ | ⟨runnerId, chunk, empty, best, found⟩
    | ⟨empty, missing, found⟩
  · refine ⟨fun _ => Or.inl available, fun _ => ⟨_, found, fun result same => ?_⟩⟩
    cases same
    exact suggests.staysInside wf positive
  · have shaped := wf.shaped best.owned.found
    have bounded := shaped.bounded
    have inside := shaped.inside
    have state := (getRunnerState_eq_some_iff wf).mpr best.owned
    have member := mem_values_iff.mpr ⟨_, best.owned.found⟩
    have candidate := isCandidate_iff.mpr ⟨best.running, best.large⟩
    constructor
    · rintro ⟨result, result_eq, stays⟩
      right
      right
      refine ⟨chunk, member, candidate, ?_⟩
      rw [found, Checked.add] at result_eq
      split at result_eq
      · cases result_eq
        obtain ⟨owner, owned, -, -, stops, -⟩ := stays _ rfl
        cases state.symm.trans owned
        simp only [ChunkState.incompleteRange, HalfOpen.len]
        simp only at stops
        omega
      · cases result_eq
    · intro hasEnough
      have enough : requiredSize ≤ chunk.incompleteRange.len := by
        rcases hasEnough with available | missing | ⟨other, otherMember, otherCandidate, large⟩
        · exact absurd empty available
        · rw [missing chunk member] at candidate
          cases candidate
        · exact large.trans (best.most other otherMember otherCandidate)
      have fits : chunk.downloaded.stop + requiredSize ≤ chunk.allocated.stop := by
        simp only [ChunkState.incompleteRange, HalfOpen.len] at enough
        omega
      have sum
          : Checked.add chunk.downloaded.stop requiredSize
            = .ok (chunk.downloaded.stop + requiredSize) := Checked.add_eq (by omega)
      rw [sum] at found
      refine ⟨_, found, fun result same => ?_⟩
      cases same
      refine ⟨chunk, state, best.running, rfl, fits, fun _ => enough, fun _ => ?_⟩
      simp [HalfOpen.len]
  · refine ⟨fun _ => Or.inr (Or.inl missing), fun _ => ⟨_, found, fun result never => ?_⟩⟩
    cases never

/-- A chunk of two mebibytes that is downloading: asked for one, the search stays inside it. -/
theorem finds_inside_iff_enough
    : ∃ planner : ChunkPlanner,
        machine.execute (ChunkPlanner.new 2097152)
            [.allocatePendingChunk ⟨0, 2097152⟩ 0, .markRunning 0, .updateProgress 0 48576]
          = some planner
        ∧ planner.findChunkToSplit 1048576 = .ok (some (some 0, ⟨48576, 1097152⟩))
        ∧ planner.FindsInside 1048576 := by
  let events : List Operation :=
    [.allocatePendingChunk ⟨0, 2097152⟩ 0, .markRunning 0, .updateProgress 0 48576]
  have start : machine.Reachable (ChunkPlanner.new 2097152) := .initial ⟨2097152, by decide, rfl⟩
  have isRun : (machine.execute (ChunkPlanner.new 2097152) events).isSome = true := by decide
  obtain ⟨planner, executed⟩ := Option.isSome_iff_exists.mp isRun
  have found
      : (machine.execute (ChunkPlanner.new 2097152) events).map
          (fun planner => planner.findChunkToSplit 1048576)
        = some (.ok (some (some 0, ⟨48576, 1097152⟩))) := by decide
  have enough
      : (machine.execute (ChunkPlanner.new 2097152) events).map
          (fun planner =>
            planner.chunks.values.any (fun chunk =>
              planner.isCandidate chunk && decide (1048576 ≤ chunk.incompleteRange.len)))
        = some true := by decide
  rw [executed] at found enough
  obtain ⟨chunk, member, keeps⟩ := List.any_eq_true.mp (Option.some.inj enough)
  obtain ⟨candidate, large⟩ := Bool.and_eq_true_iff.mp keeps
  refine ⟨planner, executed, Option.some.inj found, ?_⟩
  exact (finds_inside_iff (start.execute events executed) (by decide)).mpr
    (Or.inr (Or.inr ⟨chunk, member, candidate, of_decide_eq_true large⟩))

/-- Asked for four, it names a range beyond the chunk and the file. -/
theorem finds_outside
    : ¬ ∀ planner : ChunkPlanner,
        machine.Reachable planner
        → ∀ requiredSize, 1 ≤ requiredSize → planner.FindsInside requiredSize := by
  intro always
  let events : List Operation := [.allocatePendingChunk ⟨0, 2097152⟩ 0, .markRunning 0]
  have start : machine.Reachable (ChunkPlanner.new 2097152) := .initial ⟨2097152, by decide, rfl⟩
  have isRun : (machine.execute (ChunkPlanner.new 2097152) events).isSome = true := by decide
  obtain ⟨planner, executed⟩ := Option.isSome_iff_exists.mp isRun
  have found
      : (machine.execute (ChunkPlanner.new 2097152) events).map
          (fun planner => planner.findChunkToSplit 4194304)
        = some (.ok (some (some 0, ⟨0, 4194304⟩))) := by decide
  have state
      : (machine.execute (ChunkPlanner.new 2097152) events).map
          (fun planner => planner.getRunnerState 0)
        = some (some ⟨⟨0, 2097152⟩, ⟨0, 0⟩, some 0, .running⟩) := by decide
  rw [executed] at found state
  obtain ⟨result, result_eq, stays⟩ :=
    always planner (start.execute events executed) 4194304 (by decide)
  cases (Option.some.inj found).symm.trans result_eq
  obtain ⟨chunk, owned, -, -, stops, -⟩ := stays _ rfl
  cases (Option.some.inj state).symm.trans owned
  exact absurd stops (by decide)

end ChunkPlanner

end BoltLoad
