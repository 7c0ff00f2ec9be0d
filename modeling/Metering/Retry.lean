import Metering.Program

/-!
Repeating an attempt that may fail. A success or a failure that another attempt cannot mend ends the
matter at once, and so does the last attempt that the policy allows. Before each further attempt there
is a pause, twice as long as the one before up to the limits of 32-bit counts and of lengths of time.
-/
namespace Metering

/-- The longest pause, in nanoseconds: seconds of 64 bits and all of the last second. -/
def longestPause : Nat := 18446744073709551615 * 1000000000 + 999999999

structure RetryPolicy where
  /-- How many attempts may follow the first. -/
  furtherAttempts : Nat
  /-- The first pause, in nanoseconds. -/
  firstPause : Nat
deriving DecidableEq, Repr

namespace RetryPolicy

/-- At most `maxAttempts` attempts, but at least one. -/
def make (maxAttempts firstPause : Nat) : RetryPolicy := ⟨maxAttempts - 1, firstPause⟩

/-- A power of two that 32 bits hold, or the greatest number that they do. -/
def doubling (n : Nat) : Nat := if n < 32 then Nat.pow 2 n else 4294967295

/-- The pause after an attempt; the first attempt is number one. -/
def pauseAfter (p : RetryPolicy) (attempt : Nat) : Nat :=
  min (p.firstPause * doubling (attempt - 1)) longestPause

variable {Request : Type} {Answer : Request → Type} {ε α : Type}

/-- Attempts after `made` others, of which `further` may follow the next one. -/
def retryFrom (p : RetryPolicy) (isRetryable : ε → Bool) (pause : Nat → Program Request Answer Unit)
    (attempt : Program Request Answer (Except ε α)) :
    (further made : Nat) → Program Request Answer (Except ε α × Nat)
  | 0, made => attempt.bind fun outcome => .done (outcome, made + 1)
  | further + 1, made => attempt.bind fun
    | .ok a => .done (.ok a, made + 1)
    | .error e =>
      if isRetryable e then
        (pause (p.pauseAfter (made + 1))).bind fun _ =>
          p.retryFrom isRetryable pause attempt further (made + 1)
      else .done (.error e, made + 1)

/-- The outcome of the last attempt, and the number of attempts made. -/
def retry (p : RetryPolicy) (isRetryable : ε → Bool) (pause : Nat → Program Request Answer Unit)
    (attempt : Program Request Answer (Except ε α)) : Program Request Answer (Except ε α × Nat) :=
  p.retryFrom isRetryable pause attempt p.furtherAttempts 0

end RetryPolicy

end Metering
