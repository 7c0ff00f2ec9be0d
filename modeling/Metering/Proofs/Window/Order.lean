import Metering.Proofs.Window.Tiling

/-!
Windows and the order of time. Unless the clock has been taken back over the end of a window, or the
starts that it skips there are not found after the jump, a window holds its instants and comes after the
windows of earlier ones (`truncate_next`). An hour that is shown twice breaks this for minutes and hours
(`repeated_minute`): the window of an instant in the second showing is that of the first.
-/
namespace Metering

namespace WindowSize

variable {size : WindowSize} {z : Zone} {t u : Instant} {k : Int}

/-- What the clock of a zone must keep to around the window of an instant. -/
structure Keeps (size : WindowSize) (z : Zone) (t : Instant) : Prop where
  ordered : z.Ordered
  /-- No later window has been shown before. -/
  past : size.UpTo z t (size.numberIn z t)
  /-- If the start of the window is skipped, it is found after the jump. -/
  own : size.Found z (size.numberIn z t)
  /-- So is the start of the next window, and the start of the window that is shown there. -/
  next : size.Found z (size.numberIn z t + 1)
  there : size.Found z (size.numberIn z (size.startIn z (size.numberIn z t + 1)))
  /-- The start of the next window is found before any later window is shown. -/
  soon : size.UpTo z (justBefore (size.startIn z (size.numberIn z t + 1))) (size.numberIn z t + 1)
  /-- A window of a fixed length ends where the next one starts. -/
  even : ¬ size.ByClock → size.next z (size.startIn z (size.numberIn z t)) =
    size.startIn z (size.numberIn z t + 1)

instance (size : WindowSize) (z : Zone) (t : Instant) : Decidable (size.Keeps z t) :=
  decidable_of_iff (z.Ordered ∧ size.UpTo z t (size.numberIn z t) ∧
      size.Found z (size.numberIn z t) ∧ size.Found z (size.numberIn z t + 1) ∧
      size.Found z (size.numberIn z (size.startIn z (size.numberIn z t + 1))) ∧
      size.UpTo z (justBefore (size.startIn z (size.numberIn z t + 1))) (size.numberIn z t + 1) ∧
      (¬ size.ByClock → size.next z (size.startIn z (size.numberIn z t)) =
        size.startIn z (size.numberIn z t + 1)))
    ⟨fun ⟨ordered, past, own, next, there, soon, even⟩ =>
        ⟨ordered, past, own, next, there, soon, even⟩,
      fun ⟨ordered, past, own, next, there, soon, even⟩ =>
        ⟨ordered, past, own, next, there, soon, even⟩⟩

namespace Keeps

variable (keeps : size.Keeps z t)
include keeps

/-- A window that starts by an instant is no later than that of the instant. -/
theorem le_number (found : size.Found z k) (h : size.startIn z k ≤ t) : k ≤ size.numberIn z t :=
  Int.le_trans (found.le_numberIn keeps.ordered) (keeps.past _ h)

theorem lt_startIn_succ : t < size.startIn z (size.numberIn z t + 1) := by
  by_contra after
  have reached := keeps.le_number keeps.next (Int.not_lt.1 after)
  omega

/-- A window that starts where its start is found ends where the next start is found. -/
theorem next_startIn (start : size.startIn z (size.numberIn z t) ≤ t) :
    size.next z (size.startIn z (size.numberIn z t)) = size.startIn z (size.numberIn z t + 1) := by
  by_cases byClock : size.ByClock
  · have number : size.numberIn z (size.startIn z (size.numberIn z t)) = size.numberIn z t :=
      Int.le_antisymm (keeps.past _ start) (keeps.own.le_numberIn keeps.ordered)
    rw [next_eq byClock, number]
  · exact keeps.even byClock

theorem lt_next_truncate : t < size.next z (size.truncate z t) := by
  rcases truncate_cases size z t with start | ⟨own, -⟩
  · rw [start, keeps.next_startIn (start ▸ truncate_le size z t)]
    exact keeps.lt_startIn_succ
  · rw [own]
    by_cases byClock : size.ByClock
    · rw [next_eq byClock]
      exact keeps.lt_startIn_succ
    · exact lt_next_of_fixed byClock z t

/-- The start of the next window is truncated to itself. -/
theorem truncate_startIn_succ : size.truncate z (size.startIn z (size.numberIn z t + 1)) =
    size.startIn z (size.numberIn z t + 1) := by
  have le := truncate_le size z (size.startIn z (size.numberIn z t + 1))
  rcases truncate_cases size z (size.startIn z (size.numberIn z t + 1)) with start | ⟨own, -⟩
  · rw [start] at le ⊢
    rcases Int.lt_or_eq_of_le le with before | same
    · have first := keeps.soon _ (le_justBefore_iff.2 before)
      have shown := keeps.there.le_numberIn keeps.ordered
      have reached := keeps.next.le_numberIn keeps.ordered
      have number : size.numberIn z (size.startIn z (size.numberIn z t + 1)) =
          size.numberIn z t + 1 := by omega
      rw [number]
    · exact Instant.ext same
  · exact own

theorem ceil_eq : size.ceil z t = t ∧ size.truncate z t = t ∨
    size.ceil z t = size.startIn z (size.numberIn z t + 1) := by
  rw [ceil]
  split
  · rename_i own
    exact .inl ⟨rfl, own⟩
  · rename_i other
    rcases truncate_cases size z t with start | ⟨own, -⟩
    · rw [start]
      exact .inr (keeps.next_startIn (start ▸ truncate_le size z t))
    · exact absurd own other

end Keeps

/--
A window holds its instants, windows are in the order of their instants, and rounding up goes to the
start of a window.
-/
theorem truncate_next (keeps : size.Keeps z t) (keeps' : size.Keeps z u) (h : t ≤ u) :
    (size.truncate z t ≤ t ∧ t < size.next z (size.truncate z t)) ∧
      size.truncate z t ≤ size.truncate z u ∧
        t ≤ size.ceil z t ∧ size.truncate z (size.ceil z t) = size.ceil z t := by
  have mono : size.truncate z t ≤ size.truncate z u := by
    rcases truncate_cases size z u with start | ⟨own, -⟩
    · rw [start]
      rcases Int.lt_or_eq_of_le (keeps'.past t h) with earlier | same
      · by_contra other
        have begun := Int.le_trans (Int.le_of_lt (Int.not_le.1 other)) (truncate_le size z t)
        have reached := keeps.le_number keeps'.own begun
        omega
      · rw [← same, truncate_eq]
        exact (Instant.min_bounds _ _).1
    · rw [own]
      exact Int.le_trans (truncate_le size z t) h
  refine ⟨⟨truncate_le size z t, keeps.lt_next_truncate⟩, mono, ?_⟩
  rcases keeps.ceil_eq with ⟨is, own⟩ | is
  · rw [is]
    exact ⟨Int.le_refl _, own⟩
  · rw [is]
    exact ⟨Int.le_of_lt keeps.lt_startIn_succ, keeps.truncate_startIn_succ⟩

/-- The last second before a midnight that is skipped, and the first one after. -/
theorem truncate_next_summer :
    (WindowSize.day.truncate summer (.ofSeconds 1541300399) ≤ .ofSeconds 1541300399 ∧
        Instant.ofSeconds 1541300399 <
          WindowSize.day.next summer (WindowSize.day.truncate summer (.ofSeconds 1541300399))) ∧
      WindowSize.day.truncate summer (.ofSeconds 1541300399) ≤
          WindowSize.day.truncate summer (.ofSeconds 1541300401) ∧
        Instant.ofSeconds 1541300399 ≤ WindowSize.day.ceil summer (.ofSeconds 1541300399) ∧
          WindowSize.day.truncate summer (WindowSize.day.ceil summer (.ofSeconds 1541300399)) =
            WindowSize.day.ceil summer (.ofSeconds 1541300399) :=
  truncate_next (by decide +kernel) (by decide +kernel) (by decide)

/-- The end of a summer, when the clock goes back from three to two. -/
def autumn : Zone := ⟨"Europe/Berlin", 7200, [⟨1729990800, 3600⟩]⟩

/-- The minute of 2:30:30 in the second showing of the hour has long ended. -/
theorem repeated_minute :
    WindowSize.minute.next autumn (WindowSize.minute.truncate autumn (.ofSeconds 1729992630)) =
        .ofSeconds 1729989060 ∧
      ¬ Instant.ofSeconds 1729992630 <
        WindowSize.minute.next autumn (WindowSize.minute.truncate autumn (.ofSeconds 1729992630)) := by
  constructor
  · decide +kernel
  · decide +kernel

end WindowSize

end Metering
