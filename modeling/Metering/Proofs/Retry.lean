import Metering.Retry
import Metering.Proofs.Program

/-!
What a run of attempts comes to when each of its requests is answered by an action on a state. A property
of the state that every failure with another attempt after it keeps still holds before the last attempt,
whose outcome is that of the run (`RetryPolicy.run_retryFrom`).
-/
namespace Metering

namespace RetryPolicy

variable {Request S ε α : Type} {Answer : Request → Type}

/-- Whether no attempt is made after one that so many others may follow. -/
def IsLast (isRetryable : ε → Bool) (further : Nat) : Except ε α → Prop
  | .ok _ => True
  | .error e => further = 0 ∨ isRetryable e = false

variable {p : RetryPolicy} {isRetryable : ε → Bool} {pause : Nat → Program Request Answer Unit}
variable {attempt : Program Request Answer (Except ε α)}
variable {answer : (r : Request) → StateM S (Answer r)}
variable {further made : Nat} {σ τ : S} {outcome : Except ε α}

theorem run_retryFrom_of_isLast (tried : attempt.run answer σ = (outcome, τ))
    (last : IsLast isRetryable further outcome) :
    (p.retryFrom isRetryable pause attempt further made).run answer σ = ((outcome, made + 1), τ) := by
  cases further with
  | zero =>
    rw [retryFrom, Program.run_bind_apply, tried]
    rfl
  | succ further =>
    rw [retryFrom, Program.run_bind_apply, tried]
    cases outcome with
    | ok a => rfl
    | error e =>
      have final : isRetryable e = false := last.resolve_left (by omega)
      simp only [final]
      rfl

theorem run_retryFrom_of_error {e : ε} (failed : attempt.run answer σ = (.error e, τ))
    (retryable : isRetryable e = true) :
    (p.retryFrom isRetryable pause attempt (further + 1) made).run answer σ =
      (p.retryFrom isRetryable pause attempt further (made + 1)).run answer
        ((pause (p.pauseAfter (made + 1))).run answer τ).2 := by
  rw [retryFrom, Program.run_bind_apply, failed]
  simp only [retryable, ↓reduceIte, Program.run_bind_apply]

/-- Attempts follow one another as long as they fail for a passing reason and others may follow. -/
theorem run_retryFrom {Before : (further made : Nat) → S → Prop} {After : Except ε α → Nat → S → Prop}
    (again : ∀ further made σ e τ, Before (further + 1) made σ →
      attempt.run answer σ = (.error e, τ) → isRetryable e = true →
      Before further (made + 1) ((pause (p.pauseAfter (made + 1))).run answer τ).2)
    (last : ∀ further made σ outcome τ, Before further made σ →
      attempt.run answer σ = (outcome, τ) → IsLast isRetryable further outcome →
      After outcome (made + 1) τ)
    (before : Before further made σ) :
    ∃ outcome n τ, (p.retryFrom isRetryable pause attempt further made).run answer σ =
      ((outcome, n), τ) ∧ After outcome n τ := by
  induction further generalizing made σ with
  | zero =>
    obtain ⟨outcome, τ, tried⟩ : ∃ outcome τ, attempt.run answer σ = (outcome, τ) := ⟨_, _, rfl⟩
    have isLast : IsLast isRetryable 0 outcome := by
      cases outcome with
      | ok a => trivial
      | error e => exact .inl rfl
    exact ⟨_, _, _, run_retryFrom_of_isLast tried isLast, last _ _ _ _ _ before tried isLast⟩
  | succ further ih =>
    obtain ⟨outcome, τ, tried⟩ : ∃ outcome τ, attempt.run answer σ = (outcome, τ) := ⟨_, _, rfl⟩
    by_cases isLast : IsLast isRetryable (further + 1) outcome
    · exact ⟨_, _, _, run_retryFrom_of_isLast tried isLast, last _ _ _ _ _ before tried isLast⟩
    · cases outcome with
      | ok a => exact absurd trivial isLast
      | error e =>
        have retryable : isRetryable e = true := by
          simpa [IsLast] using isLast
        rw [run_retryFrom_of_error tried retryable]
        exact ih (again _ _ _ _ _ before tried retryable)

end RetryPolicy

end Metering
