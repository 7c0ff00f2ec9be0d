import Metering.Proofs.Window.Grid
import Metering.Proofs.Zone.Clock

/-!
Windows by the clock of a zone. A window has the number that its instants have by the clock
(`numberIn`), and it starts where the clock is found to show its boundary (`startIn`). Where no jump
skips the boundary, that is the first instant with the number (`startIn_of_not_skipped`).
-/
namespace Metering

open Calendar

namespace WindowSize

variable {size : WindowSize} {z : Zone} {t u : Instant} {k : Int}

/-- What the clock of a zone shows, as an instant whose clock shows UTC. -/
def clock (z : Zone) (t : Instant) : Instant := ⟨(z.wall t).nanos⟩

/-- The number of the window that holds an instant by the clock. -/
def numberIn (size : WindowSize) (z : Zone) (t : Instant) : Int := size.number (clock z t)

/-- Where the clock is found to show the start of the window with a number. -/
def startIn (size : WindowSize) (z : Zone) (k : Int) : Instant := z.resolve ⟨(size.boundary k).nanos⟩

theorem truncate_eq (size : WindowSize) (z : Zone) (t : Instant) :
    size.truncate z t = min (size.startIn z (size.numberIn z t)) t := by
  rw [truncate, floorWall_eq]
  rfl

theorem truncate_le (size : WindowSize) (z : Zone) (t : Instant) : size.truncate z t ≤ t := by
  rw [truncate_eq]
  exact (Instant.min_bounds _ _).2.1

/-- Either a window starts where its start is found, or its start is only found later. -/
theorem truncate_cases (size : WindowSize) (z : Zone) (t : Instant) :
    size.truncate z t = size.startIn z (size.numberIn z t) ∨
      size.truncate z t = t ∧ t < size.startIn z (size.numberIn z t) := by
  obtain ⟨before, -, either⟩ := Instant.min_bounds (size.startIn z (size.numberIn z t)) t
  rw [truncate_eq]
  rcases either with start | own
  · exact .inl start
  · rw [own] at before ⊢
    rcases Int.lt_or_eq_of_le before with lt | same
    · exact .inr ⟨rfl, lt⟩
    · exact .inl (Instant.ext same)

/-- Sizes whose windows end where the clock is found to show the next boundary. -/
def ByClock (size : WindowSize) : Prop := size = .day ∨ size = .month

instance (size : WindowSize) : Decidable size.ByClock := inferInstanceAs (Decidable (_ ∨ _))

theorem next_eq (h : size.ByClock) (z : Zone) (t : Instant) :
    size.next z t = size.startIn z (size.numberIn z t + 1) := by
  rcases h with rfl | rfl
  · rfl
  · have valid := Date.isValid_ofDayNumber (z.wall t).dayNumber
    have month : WallTime.ofDate (z.wall t).date.nextMonth =
        ⟨(month.boundary (month.numberIn z t + 1)).nanos⟩ := by
      rw [WallTime.ofDate, WallTime.date, nextMonth_eq valid]
      rfl
    rw [next, month, startIn]

/-- Minutes and hours end after they start, whatever the clock shows. -/
theorem lt_next_of_fixed (h : ¬ size.ByClock) (z : Zone) (t : Instant) : t < size.next z t := by
  cases size with
  | minute =>
    simp only [next, Instant.lt_iff, Instant.nanos_add, Span.minutes, Span.seconds]
    omega
  | hour =>
    simp only [next, Instant.lt_iff, Instant.nanos_add, Span.hours, Span.seconds]
    omega
  | day => exact absurd (.inl rfl) h
  | month => exact absurd (.inr rfl) h

/-- The numbers of the windows whose boundaries are skipped by the clock. -/
def skipped (size : WindowSize) (z : Zone) : List Int :=
  z.jumps.flatMap fun j => Int.range (size.endNumber j.leaves) (size.endNumber j.lands)

theorem mem_skipped : k ∈ size.skipped z ↔ ∃ j ∈ z.jumps, j.Skips ⟨(size.boundary k).nanos⟩ := by
  have skips (j : Zone.Jump) : k ∈ Int.range (size.endNumber j.leaves) (size.endNumber j.lands) ↔
      j.Skips ⟨(size.boundary k).nanos⟩ := by
    have low : k < size.endNumber j.leaves ↔ size.boundary k < j.leaves := lt_endNumber_iff
    have high : k < size.endNumber j.lands ↔ size.boundary k < j.lands := lt_endNumber_iff
    rw [Int.mem_range_iff, high, Zone.Jump.Skips]
    simp only [Instant.lt_iff] at low ⊢
    omega
  simp only [skipped, List.mem_flatMap, skips]

/-- A window starts where its number first comes up, unless the clock skips its boundary. -/
theorem startIn_of_not_skipped (ordered : z.Ordered) (h : k ∉ size.skipped z) :
    clock z (size.startIn z k) = size.boundary k ∧ ∀ u < size.startIn z k, size.numberIn z u < k := by
  have shown : ∀ j ∈ z.jumps, ¬ j.Skips ⟨(size.boundary k).nanos⟩ :=
    fun j mem skips => h (mem_skipped.2 ⟨j, mem, skips⟩)
  obtain ⟨t, found, reading, before⟩ := z.earliest?_of_not_skipped ordered shown
  have start : size.startIn z k = t := by
    rw [startIn, Zone.resolve, Zone.gapSteps, Zone.resolveWithin, found]
  rw [start]
  constructor
  · rw [clock, reading]
  · exact fun u lt => number_lt_iff.2 (before u lt)

theorem numberIn_startIn (ordered : z.Ordered) (h : k ∉ size.skipped z) :
    size.numberIn z (size.startIn z k) = k := by
  rw [numberIn, (startIn_of_not_skipped ordered h).1, number_boundary]

/-- A start that the clock skips is found after the jump. -/
def Found (size : WindowSize) (z : Zone) (k : Int) : Prop :=
  k ∈ size.skipped z → k ≤ size.numberIn z (size.startIn z k)

instance (size : WindowSize) (z : Zone) (k : Int) : Decidable (size.Found z k) :=
  inferInstanceAs (Decidable (_ → _))

theorem Found.le_numberIn (found : size.Found z k) (ordered : z.Ordered) :
    k ≤ size.numberIn z (size.startIn z k) := by
  by_cases mem : k ∈ size.skipped z
  · exact found mem
  · exact Int.le_of_eq (numberIn_startIn ordered mem).symm

section Peaks

/-- The nanosecond before an instant. -/
def justBefore (t : Instant) : Instant := ⟨t.nanos - 1⟩

theorem le_justBefore_iff : t ≤ justBefore u ↔ t < u := by
  simp only [justBefore, Instant.le_iff, Instant.lt_iff]
  omega

/-- The numbers just before each change up to an instant, and at the instant. -/
def peaks (size : WindowSize) (z : Zone) (t : Instant) : List Int :=
  size.numberIn z t :: (z.changes.filter fun c => Instant.ofSeconds c.second ≤ t).map fun c =>
    size.numberIn z (justBefore (.ofSeconds c.second))

theorem mem_peaks {p : Int} : p ∈ size.peaks z t ↔ p = size.numberIn z t ∨
    ∃ c ∈ z.changes, Instant.ofSeconds c.second ≤ t ∧
      size.numberIn z (justBefore (.ofSeconds c.second)) = p := by
  simp [peaks, and_assoc]

/-- Between changes numbers do not fall. -/
theorem numberIn_le_succ (quiet : ∀ c ∈ z.changes, Instant.ofSeconds c.second ≠ ⟨t.nanos + 1⟩) :
    size.numberIn z t ≤ size.numberIn z ⟨t.nanos + 1⟩ := by
  refine number_mono ?_
  simp only [clock, Zone.wall, Zone.offsetAt_succ quiet, Instant.le_iff]
  omega

/-- No number up to an instant is greater than all peaks. -/
theorem exists_peak (h : t ≤ u) : ∃ p ∈ size.peaks z u, size.numberIn z t ≤ p := by
  obtain ⟨n, hn⟩ := Int.le.dest (show t.nanos ≤ u.nanos from h)
  induction n generalizing t with
  | zero =>
    obtain rfl : t = u := Instant.ext (by omega)
    exact ⟨_, List.mem_cons_self, Int.le_refl _⟩
  | succ n ih =>
    by_cases quiet : ∀ c ∈ z.changes, Instant.ofSeconds c.second ≠ ⟨t.nanos + 1⟩
    · have later : (⟨t.nanos + 1⟩ : Instant) ≤ u := by
        simp only [Instant.le_iff]
        omega
      obtain ⟨p, mem, le⟩ := ih later (by simp only; omega)
      exact ⟨p, mem, Int.le_trans (numberIn_le_succ quiet) le⟩
    · push Not at quiet
      obtain ⟨c, mem, here⟩ := quiet
      have own : justBefore (.ofSeconds c.second) = t := by
        rw [here]
        ext
        simp only [justBefore]
        omega
      refine ⟨size.numberIn z t, mem_peaks.2 (.inr ⟨c, mem, ?_, by rw [own]⟩), Int.le_refl _⟩
      rw [here]
      simp only [Instant.le_iff]
      omega

/-- Up to an instant, no window after the one with a number is shown. -/
def UpTo (size : WindowSize) (z : Zone) (t : Instant) (k : Int) : Prop :=
  ∀ u ≤ t, size.numberIn z u ≤ k

theorem upTo_iff : size.UpTo z t k ↔ ∀ p ∈ size.peaks z t, p ≤ k := by
  constructor
  · intro upTo p mem
    rcases mem_peaks.1 mem with rfl | ⟨c, -, le, rfl⟩
    · exact upTo t (Int.le_refl _)
    · refine upTo _ (Int.le_trans ?_ le)
      exact Int.le_of_lt (le_justBefore_iff.1 (Int.le_refl _))
  · intro peaks u le
    obtain ⟨p, mem, bound⟩ := exists_peak le
    exact Int.le_trans bound (peaks p mem)

instance (size : WindowSize) (z : Zone) (t : Instant) (k : Int) : Decidable (size.UpTo z t k) :=
  decidable_of_iff _ upTo_iff.symm

end Peaks

end WindowSize

end Metering
