import BoltLoad.RunnerManager.Model

/-! When a concurrent task gives up. -/

namespace BoltLoad

/-- The options of a task its failure policy reads. -/
structure TaskOptions where
  maxConsecutiveFailures : Nat
  noProgressTimeout : Duration

/-- The checks of `validate` on the options above, with the reason of the first that fails. -/
def TaskOptions.validate (options : TaskOptions) : Except String Unit :=
  if options.noProgressTimeout = 0 then
    .error "no_progress_timeout must be greater than zero"
  else if options.maxConsecutiveFailures = 0 then
    .error "max_consecutive_failures must be at least 1"
  else
    .ok ()

theorem TaskOptions.positive_of_validate {options : TaskOptions}
    (valid : options.validate = .ok ())
    : 0 < options.noProgressTimeout ∧ 0 < options.maxConsecutiveFailures := by
  unfold validate at valid
  split at valid
  · cases valid
  split at valid
  · cases valid
  · exact ⟨Nat.pos_of_ne_zero ‹_›, Nat.pos_of_ne_zero ‹_›⟩

structure FailurePolicy where
  maxConsecutive : Nat
  noProgress : Duration
  consecutive : Nat
  lastProgressAt : Instant
  deriving DecidableEq, Repr

namespace FailurePolicy

/-- A server rejecting the connection count. -/
def isCongestion : TaskError → Bool
  | .streamError (.unretryable (.congestion _ _)) => true
  | _ => false

def new (options : TaskOptions) (now : Instant) : FailurePolicy where
  maxConsecutive := options.maxConsecutiveFailures
  noProgress := options.noProgressTimeout
  consecutive := 0
  lastProgressAt := now

/-- New bytes were accepted. -/
def onProgress (policy : FailurePolicy) (now : Instant) : FailurePolicy :=
  { policy with lastProgressAt := now }

/-- A successful non-empty write resets the consecutive failure count. -/
def onWriteOk (policy : FailurePolicy) (written : Nat) : FailurePolicy :=
  if 0 < written then { policy with consecutive := 0 } else policy

/-- The terminal error, if this failure ends the task. `inFlight` is the number of other
attempts still allocated.
-/
def onFailure (policy : FailurePolicy) (failure : AttemptFailure) (inFlight : Nat)
    : Option TaskError × FailurePolicy :=
  if !failure.retryable then
    let tolerated := decide (0 < inFlight) && isCongestion failure.error
    (if tolerated then none else some failure.error, policy)
  else
    let consecutive := policy.consecutive + 1
    (if policy.maxConsecutive ≤ consecutive then
        some (.retryLimitExceeded policy.maxConsecutive failure.error)
      else
        none,
      { policy with consecutive })

def deadline (policy : FailurePolicy) : Instant := policy.lastProgressAt + policy.noProgress

def check (policy : FailurePolicy) (now : Instant) : Option TaskError :=
  if policy.deadline ≤ now then some (.noProgress policy.noProgress) else none

end FailurePolicy

end BoltLoad
