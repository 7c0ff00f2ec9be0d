import Metering.Calendar.Instant

/-!
The order of instants, and how the starts of microseconds and of days keep it.
-/
namespace Metering

namespace Instant

theorem microsecondStart_mono {a b : Instant} (h : a ≤ b) :
    a.microsecondStart ≤ b.microsecondStart := by
  simp only [le_iff, microsecondStart, micros] at h ⊢
  omega

theorem microsecondStart_le (t : Instant) : t.microsecondStart ≤ t := by
  simp only [le_iff, microsecondStart, micros]
  omega

theorem min_bounds (t u : Instant) :
    min t u ≤ t ∧ min t u ≤ u ∧ (min t u = t ∨ min t u = u) := by
  have either : min t u = if t ≤ u then t else u := rfl
  rw [either]
  split
  · rename_i le
    exact ⟨Int.le_refl _, le, .inl rfl⟩
  · rename_i gt
    exact ⟨Int.le_of_lt (Int.not_le.1 gt), Int.le_refl _, .inr rfl⟩

theorem lt_min {t u v : Instant} (first : t < u) (second : t < v) : t < min u v := by
  obtain ⟨-, -, is | is⟩ := min_bounds u v
  · rw [is]
    exact first
  · rw [is]
    exact second

theorem startOfDay_le (t : Instant) : t.startOfDay ≤ t := by
  simp only [le_iff, startOfDay, ofDayNumber, dayNumber]
  omega

theorem truncateToSecond_le (t : Instant) : t.truncateToSecond ≤ t := by
  unfold truncateToSecond
  split
  · simp only [le_iff, ofSeconds, second]
    omega
  · exact Int.le_refl _

end Instant

end Metering
