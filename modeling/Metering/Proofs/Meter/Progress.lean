import Metering.Meter.Progress

/-!
The order of records of progress. `isBehind` compares two records by their stage, and within a stage by
the number of chunks that are left: a strict order in which records can be level without being equal.
`lags` extends it to meters without a record, which are behind all others.
-/
namespace Metering

namespace Progress

/-- The stages that a record has passed, the later ones weighing more. -/
def stage (p : Progress) : Nat :=
  4 * rank p.ready + 2 * rank p.cutover.isSome + rank p.earliest.isSome

theorem rank_le (b : Bool) : rank b ≤ 1 := by
  cases b <;> decide

theorem isBehind_iff (p q : Progress) : p.isBehind q = true ↔
    p.stage < q.stage ∨ p.stage = q.stage ∧ q.pending.length < p.pending.length := by
  have ready := rank_le q.ready
  have cutover := rank_le p.cutover.isSome
  have cutover' := rank_le q.cutover.isSome
  have earliest := rank_le p.earliest.isSome
  have earliest' := rank_le q.earliest.isSome
  simp only [isBehind, stage]
  split
  · rename_i same
    simp only [List.cons.injEq, and_true] at same
    simp only [decide_eq_true_eq]
    omega
  · rename_i other
    simp only [List.cons.injEq, and_true] at other
    simp only [decide_eq_true_eq, List.cons_lt_cons_iff, List.not_lt_nil, and_false, or_false]
    omega

/-- Whether the first of two meters has less progress than the second. -/
def lags : Option Progress → Option Progress → Bool
  | _, none => false
  | none, some _ => true
  | some p, some q => p.isBehind q

theorem lags_self (p : Option Progress) : lags p p = false := by
  cases p with
  | none => rfl
  | some p =>
    rw [lags, ← Bool.not_eq_true, isBehind_iff]
    omega

theorem lags_asymm {p q : Option Progress} (h : lags p q = true) : lags q p = false := by
  cases p with
  | none => rfl
  | some p =>
    cases q with
    | none => exact absurd h (by simp [lags])
    | some q =>
      rw [lags, isBehind_iff] at h
      rw [lags, ← Bool.not_eq_true, isBehind_iff]
      omega

theorem lags_trans {p q r : Option Progress} (first : lags q p = false) (second : lags r q = false) :
    lags r p = false := by
  cases p with
  | none => cases r <;> rfl
  | some p =>
    cases q with
    | none => exact absurd first (by simp [lags])
    | some q =>
      cases r with
      | none => exact absurd second (by simp [lags])
      | some r =>
        rw [lags, ← Bool.not_eq_true, isBehind_iff] at *
        omega

/-- A record that the stored one is behind does not lag the stored one. -/
theorem lags_of_isBehind {p : Option Progress} {q : Progress}
    (behind : (p.getD initial).isBehind q = true) : lags (some q) p = false := by
  cases p with
  | none => rfl
  | some p => exact lags_asymm behind

/-- A refresh puts the newer record in the place of one exactly when that one lags it. -/
theorem all_isBehind (p : Option Progress) (q : Progress) :
    p.all (fun p => p.isBehind q) = lags p (some q) := by
  cases p <;> rfl

end Progress

end Metering
