import BoltLoad.Runner.Progress

/-! The allowance of a runner on every width of a `usize`. It is cast from a `u64`, so that a
total beyond a `usize` may admit nothing long before it is reached; a total that fits is met by
every upstream that goes on, and missed only by one that ends early.
-/

namespace BoltLoad

namespace RunnerRun

variable {usizeSize total : Nat} {start run after : RunnerRun} {sources : Sources}

/-- What the allowance is for, with a `usize` of `usizeSize` values: it is used up only where
the total is reached, and leads no runner to report a size it did not see.
-/
structure AllowanceRight (usizeSize total : Nat) : Prop where
  admits
    : ∀ (runner : TaskRunner) (buffer : Bytes),
        runner.total = some total
        → (runner.allowance usizeSize buffer = 0 → total ≤ runner.downloaded + buffer.length)
          ∧ runner.allowance usizeSize buffer ≤ total - (runner.downloaded + buffer.length)
  endsEarly
    : ∀ start run,
        (machine usizeSize).Initial start
        → start.loop.runner.total = some total
        → (runsUnder usizeSize start Fed).Reachable run
        → .lifecycle (.stopped (.failed .smallerThanTotalSize)) ∉ run.history
  finishes
    : ∀ start run,
        (machine usizeSize).Initial start
        → start.loop.runner.total = some total
        → (runsUnder usizeSize start Undisturbed).Reachable run
        → (∀ reason,
            .lifecycle (.stopped reason) ∈ run.history
            → reason = .finished ∧ run.pushed.length = total ∧ run.pushed <+: run.read)
          ∧ ∃ later,
              ((runsUnder usizeSize start Undisturbed).startingAt run).Reachable later
              ∧ .lifecycle (.stopped .finished) ∈ later.history

/-- What a runner has pushed and buffered never exceeds its total, so that adding the two does
not overflow.
-/
theorem counts_within (started : (machine usizeSize).Initial start)
    (known : start.loop.runner.total = some total) (wide : bufferSize < usizeSize - 1)
    (fits : total < usizeSize)
    (reached : ((machine usizeSize).startingAt start).Reachable run)
    : run.loop.runner.downloaded + run.loop.held ≤ total := by
  refine (metered_reachable started wide (fun limit same => ?_) reached).loop.budget.within total
    known
  cases same.symm.trans known
  exact fits

/-- The allowance is right exactly for the totals that fit a `usize`, which are all of them
where it has 64 bits.
-/
theorem allowanceRight_iff {bits : Nat} (wide : 32 ≤ bits)
    : AllowanceRight (2 ^ bits) total ↔ total < 2 ^ bits := by
  have large : 2 ^ 32 ≤ 2 ^ bits := Nat.pow_le_pow_right (by decide) wide
  constructor
  · intro right
    by_contra beyond
    let runner : TaskRunner := ⟨some total, total - 2 ^ bits, .connected, true⟩
    have nothing : runner.allowance (2 ^ bits) [] = 0 := by
      have whole : total - (total - 2 ^ bits + 0) = 2 ^ bits := by omega
      simp only [runner, TaskRunner.allowance, List.length_nil, whole, Nat.mod_self]
    have reached := (right.admits runner [] rfl).1 nothing
    simp only [runner, List.length_nil] at reached
    omega
  · intro fits
    have roomy : bufferSize < 2 ^ bits - 1 := by
      unfold bufferSize
      omega
    refine ⟨fun runner buffer known => ⟨fun nothing => ?_, ?_⟩,
      fun start run started known reached => fed_reachable started known roomy fits reached,
      fun start run started known reached => ⟨fun reason member => ?_, ?_⟩⟩
    · rw [RunnerLoop.allowance_eq known fits] at nothing
      omega
    · exact RunnerLoop.allowance_le known
    · exact undisturbed_finished started known roomy fits reached member
    · exact undisturbed_finishes started known roomy fits reached

theorem allowanceRight_ten : AllowanceRight (2 ^ 64) 10 :=
  (allowanceRight_iff (by decide)).mpr (by decide)

/-- A turn whose poll does not see the upstream end is fed. -/
theorem fed_turn {polled : Polled} (polls : run.loop.pollStep sources = .ok polled)
    (continues : polled.step ≠ some (.download none))
    : run.Fed (.turn sources) := by
  rintro ⟨⟨other, polls', ends⟩, _⟩
  cases polls'.symm.trans polls
  exact continues ends

/-- A connected runner of `2 ^ 32` bytes. -/
def wrapping : RunnerRun := .new .run (some (2 ^ 32)) .connected

def wrappingStreams : RunnerRun := {
  wrapping with
  loop := ⟨wrapping.loop.runner, .streaming .new⟩
  lifecycle := [.started]
  history := [.lifecycle .started] }

def wrappingReads : RunnerRun := {
  wrappingStreams with
  loop := .stopping wrapping.loop.runner (.error (.failed .smallerThanTotalSize))
  read := [1, 2, 3] }

def wrappingStops : RunnerRun := {
  wrappingReads with
  loop := ⟨{ wrapping.loop.runner with dataOpen := false }, .stopped⟩
  lifecycle := [.started, .stopped (.failed .smallerThanTotalSize)]
  history := [.lifecycle .started, .lifecycle (.stopped (.failed .smallerThanTotalSize))] }

/-- With 32 bits, a total of `2 ^ 32` admits nothing from the start: the first item stops its
runner as too small, with all of its upstream still to come.
-/
theorem allowanceRight_not_of_wraps
    : TaskRunner.allowance (2 ^ 32) wrapping.loop.runner [] = 0
      ∧ (runsUnder (2 ^ 32) wrapping Fed).Reachable wrappingStops
      ∧ ¬AllowanceRight (2 ^ 32) (2 ^ 32) := by
  have starts
      : (runsUnder (2 ^ 32) wrapping Fed).Step wrapping
          (.turn { lifecycleReady := some true }) wrappingStreams :=
    ⟨⟨by decide, fed_turn rfl (fun never => by cases never)⟩, rfl⟩
  have reads
      : (runsUnder (2 ^ 32) wrapping Fed).Step wrappingStreams
          (.turn { item := some (some (.ok [1, 2, 3])) }) wrappingReads :=
    ⟨⟨by decide, fed_turn rfl (fun never => by cases never)⟩, rfl⟩
  have stops
      : (runsUnder (2 ^ 32) wrapping Fed).Step wrappingReads
          (.turn { lifecycleReady := some true }) wrappingStops :=
    ⟨⟨by decide, fed_turn rfl (fun never => by cases never)⟩, rfl⟩
  have reached := (((Machine.Reachable.initial rfl).step starts).step reads).step stops
  refine ⟨by decide, reached, fun right => ?_⟩
  refine right.endsEarly wrapping wrappingStops ⟨_, _, _, ?_, ?_, rfl⟩ rfl reached ?_
  · decide
  · decide
  · exact List.mem_cons_of_mem _ (List.mem_singleton_self _)

end RunnerRun

end BoltLoad
