import Mathlib.Algebra.Group.Nat.Defs
import Mathlib.Order.Bounds.Defs
import Mathlib.Order.MinMax
import Metering.Proofs.Retry

/-!
How often an attempt is made, and how long the pauses between are. Here the attempts turn out as the
outcomes of an endless sequence, one after the other, and what a run asks for is kept. A run ends with the
first outcome that leaves nothing to repeat, or with the last attempt that the policy allows. Attempts and
pauses take turns up to it, and the pauses double until they reach the limits of 32-bit counts and of
lengths of time (`RetryPolicy.retry_on_schedule`).
-/
namespace Metering

/-- What a run of attempts asks for. -/
inductive RetryRequest where
  | attempt
  /-- A pause, in nanoseconds. -/
  | pause (length : Nat)
deriving DecidableEq

namespace RetryRequest

variable {ε α : Type}

def Answer (ε α : Type) : RetryRequest → Type
  | attempt => Except ε α
  | pause _ => Unit

/-- Answers to requests, which are kept in their order; each attempt turns out as the next outcome. -/
def answer (outcomes : Nat → Except ε α) :
    (r : RetryRequest) → StateM (List RetryRequest) (r.Answer ε α)
  | attempt => fun asked => (outcomes (asked.count attempt), asked ++ [attempt])
  | pause length => fun asked => ((), asked ++ [pause length])

/-- An attempt before each of these pauses. -/
def rounds (lengths : List Nat) : List RetryRequest :=
  lengths.flatMap fun length => [attempt, pause length]

theorem rounds_concat (lengths : List Nat) (length : Nat) :
    rounds (lengths ++ [length]) = rounds lengths ++ [attempt] ++ [pause length] := by
  simp [rounds]

theorem count_rounds (lengths : List Nat) : (rounds lengths).count attempt = lengths.length := by
  induction lengths with
  | nil => rfl
  | cons length lengths ih =>
    rw [rounds, List.flatMap_cons, List.count_append, ← rounds, ih]
    simp [Nat.add_comm]

end RetryRequest

namespace RetryPolicy

variable {ε α : Type}

/-- A pause doubled so many times, within the limits of 32-bit counts and of lengths of time. -/
def doubledPause (firstPause doublings : Nat) : Nat :=
  min (firstPause * min (2 ^ doublings) (UInt32.size - 1)) longestPause

/-- The first so many pauses. -/
def pauses (firstPause count : Nat) : List Nat := (List.range count).map (doubledPause firstPause)

theorem doubling_eq_min (n : Nat) : doubling n = min (2 ^ n) (UInt32.size - 1) := by
  have size : UInt32.size = 2 ^ 32 := rfl
  unfold doubling
  split <;> rename_i small
  · have fits : 2 ^ n < 2 ^ 32 := Nat.pow_lt_pow_right (by omega) small
    have bounded : 2 ^ n ≤ UInt32.size - 1 := by omega
    exact (Nat.min_eq_left bounded).symm
  · have beyond : 2 ^ 32 ≤ 2 ^ n := Nat.pow_le_pow_right (by omega) (by omega)
    have bounded : UInt32.size - 1 ≤ 2 ^ n := by omega
    exact (Nat.min_eq_right bounded).symm

theorem pauseAfter_succ (p : RetryPolicy) (made : Nat) :
    p.pauseAfter (made + 1) = doubledPause p.firstPause made := by
  rw [pauseAfter, Nat.add_sub_cancel, doubling_eq_min, doubledPause]

theorem doubledPause_mono (firstPause : Nat) : Monotone (doubledPause firstPause) := by
  intro m n le
  have powers : 2 ^ m ≤ 2 ^ n := Nat.pow_le_pow_right (by omega) le
  have factors : min (2 ^ m) (UInt32.size - 1) ≤ min (2 ^ n) (UInt32.size - 1) := by omega
  exact min_le_min_right _ (Nat.mul_le_mul_left firstPause factors)

theorem pauses_succ (firstPause count : Nat) :
    pauses firstPause (count + 1) = pauses firstPause count ++ [doubledPause firstPause count] := by
  simp [pauses, List.range_succ]

theorem length_pauses (firstPause count : Nat) : (pauses firstPause count).length = count := by
  simp [pauses]

theorem pairwise_pauses (firstPause count : Nat) :
    (pauses firstPause count).Pairwise (· ≤ ·) := by
  rw [pauses, List.pairwise_map]
  exact List.pairwise_lt_range.imp fun lt => doubledPause_mono firstPause (Nat.le_of_lt lt)

/-- Whether an outcome leaves nothing to repeat: it is a success, or a failure that no other attempt can
mend. -/
def Settled (isRetryable : ε → Bool) : Except ε α → Prop
  | .ok _ => True
  | .error e => isRetryable e = false

theorem isLast_iff {isRetryable : ε → Bool} {further : Nat} {outcome : Except ε α} :
    IsLast isRetryable further outcome ↔ Settled isRetryable outcome ∨ further = 0 := by
  cases outcome with
  | ok a => exact iff_of_true trivial (.inl trivial)
  | error e => exact or_comm

/-- What was asked for while every attempt failed for a passing reason and was followed by its pause. -/
structure Repeating (isRetryable : ε → Bool) (outcomes : Nat → Except ε α) (most firstPause : Nat)
    (further made : Nat) (asked : List RetryRequest) : Prop where
  count : made + further = most
  unsettled : ∀ i < made, ¬ Settled isRetryable (outcomes i)
  asked : asked = RetryRequest.rounds (pauses firstPause made)

/-- The outcome of a run, the number of its attempts and what was asked for in it; `last` attempts came
before the last one, and no more than `most` could. -/
structure EndsAt (isRetryable : ε → Bool) (outcomes : Nat → Except ε α) (most firstPause last : Nat)
    (outcome : Except ε α) (count : Nat) (asked : List RetryRequest) : Prop where
  least : IsLeast {i | Settled isRetryable (outcomes i) ∨ i = most} last
  outcome : outcome = outcomes last
  count : count = last + 1
  asked : asked = RetryRequest.rounds (pauses firstPause last) ++ [.attempt]

variable {isRetryable : ε → Bool} {outcomes : Nat → Except ε α} {most firstPause further made : Nat}
variable {asked : List RetryRequest}

/-- The next attempt turns out as the next outcome. -/
theorem Repeating.next (h : Repeating isRetryable outcomes most firstPause further made asked) :
    outcomes (asked.count .attempt) = outcomes made := by
  rw [h.asked, RetryRequest.count_rounds, length_pauses]

theorem Repeating.again
    (h : Repeating isRetryable outcomes most firstPause (further + 1) made asked)
    (unsettled : ¬ Settled isRetryable (outcomes made)) :
    Repeating isRetryable outcomes most firstPause further (made + 1)
      (asked ++ [.attempt] ++ [.pause (doubledPause firstPause made)]) := by
  refine ⟨by have := h.count; omega, ?_, ?_⟩
  · intro i lt
    rcases Nat.lt_succ_iff_lt_or_eq.1 lt with earlier | rfl
    · exact h.unsettled i earlier
    · exact unsettled
  · rw [pauses_succ, RetryRequest.rounds_concat, h.asked]

theorem Repeating.last (h : Repeating isRetryable outcomes most firstPause further made asked)
    (last : IsLast isRetryable further (outcomes made)) :
    EndsAt isRetryable outcomes most firstPause made (outcomes made) (made + 1)
      (asked ++ [.attempt]) := by
  have count := h.count
  refine ⟨⟨?_, ?_⟩, rfl, rfl, by rw [h.asked]⟩
  · exact (isLast_iff.1 last).imp_right fun none => by omega
  · rintro i (settled | rfl)
    · exact Nat.not_lt.1 fun earlier => h.unsettled i earlier settled
    · omega

/-- A run makes attempts as long as they are not settled and others may follow. -/
theorem run_retry_endsAt (p : RetryPolicy) (isRetryable : ε → Bool) (outcomes : Nat → Except ε α) :
    ∃ outcome count asked, (p.retry isRetryable (fun length => .request (RetryRequest.pause length))
        (.request RetryRequest.attempt)).run (RetryRequest.answer outcomes) [] =
          ((outcome, count), asked) ∧
      ∃ last, EndsAt isRetryable outcomes p.furtherAttempts p.firstPause last outcome count asked := by
  have start : Repeating isRetryable outcomes p.furtherAttempts p.firstPause p.furtherAttempts 0 [] :=
    ⟨Nat.zero_add _, by simp, rfl⟩
  refine run_retryFrom ?_ ?_ start
  · intro further made asked e τ repeating tried retryable
    obtain ⟨failed, rfl⟩ := Prod.mk.inj tried
    rw [repeating.next] at failed
    have unsettled : ¬ Settled isRetryable (outcomes made) := by
      rw [failed]
      simp [Settled, retryable]
    rw [pauseAfter_succ]
    exact repeating.again unsettled
  · intro further made asked outcome τ repeating tried last
    obtain ⟨rfl, rfl⟩ := Prod.mk.inj tried
    rw [repeating.next] at last ⊢
    exact ⟨made, repeating.last last⟩

/-- A run ends with the first settled outcome or with the last attempt that is allowed. It makes no attempt
but those, which a count of 32 bits holds, and between two of them a pause that is no shorter than the one
before. -/
theorem retry_on_schedule (maxAttempts : UInt32) (firstPause : Nat) (isRetryable : ε → Bool)
    (outcomes : Nat → Except ε α) :
    ∃ last, IsLeast {i | Settled isRetryable (outcomes i) ∨ i + 1 = max 1 maxAttempts.toNat} last ∧
      last + 1 < UInt32.size ∧
      ((make maxAttempts.toNat firstPause).retry isRetryable
          (fun length => .request (RetryRequest.pause length))
          (.request RetryRequest.attempt)).run (RetryRequest.answer outcomes) [] =
        ((outcomes last, last + 1), RetryRequest.rounds (pauses firstPause last) ++ [.attempt]) ∧
      (pauses firstPause last).Pairwise (· ≤ ·) := by
  obtain ⟨outcome, count, asked, ran, last, ends⟩ :=
    run_retry_endsAt (make maxAttempts.toNat firstPause) isRetryable outcomes
  have most (i : Nat) : i = maxAttempts.toNat - 1 ↔ i + 1 = max 1 maxAttempts.toNat := by omega
  have least := ends.least
  simp only [make, most] at least
  have fits : last + 1 < UInt32.size := by
    have size : UInt32.size = 2 ^ 32 := rfl
    have le : last ≤ maxAttempts.toNat - 1 := least.2 (.inr ((most _).1 rfl))
    have := maxAttempts.toNat_lt
    omega
  refine ⟨last, least, fits, ?_, pairwise_pauses firstPause last⟩
  rw [ran, ends.outcome, ends.count, ends.asked]
  rfl

/-- The second of three attempts succeeds. -/
example :
    ((make 3 100).retry (fun _ => true) (fun length => .request (RetryRequest.pause length))
        (.request RetryRequest.attempt)).run
      (RetryRequest.answer fun i => if i = 1 then .ok i else .error "busy") [] =
    ((.ok 1, 2), [.attempt, .pause 100, .attempt]) := rfl

end RetryPolicy

end Metering
