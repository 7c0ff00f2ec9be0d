import Metering.Backfill.Chunks
import Metering.Proofs.Calendar.Instant
import Metering.Proofs.Window.Partition

/-!
The chunks of a plan follow each other without a gap. `frontier` is where the pending ones begin, and
the end of what they cover once none is left.

A plan from a midnight up to a cutover has a chunk for every day that begins before the cutover. All but
the last are whole days, the last ends at the cutover, and every instant in between lies in exactly one
chunk (`dailyChunks_partition`).
-/
namespace Metering

/-- Where the chunks that are left begin, or where the last one ended. -/
def frontier (stop : Instant) (pending : List Period) : Instant :=
  (pending.head?.map Period.start).getD stop

theorem frontier_nil (stop : Instant) : frontier stop [] = stop := rfl

theorem frontier_cons (stop : Instant) (chunk : Period) (rest : List Period) :
    frontier stop (chunk :: rest) = chunk.start := rfl

theorem dailyChunks_of_lt {start stop : Instant} (h : start < stop) :
    dailyChunks start stop =
      ⟨start, min (start + Span.days 1) stop⟩ :: dailyChunks (min (start + Span.days 1) stop) stop := by
  rw [dailyChunks, dif_pos h]

theorem dailyChunks_of_le {start stop : Instant} (h : stop ≤ start) :
    dailyChunks start stop = [] := by
  have ended : ¬ start < stop := Int.not_lt.2 h
  rw [dailyChunks, dif_neg ended]

theorem lt_day_end {start stop : Instant} (h : start < stop) :
    start < min (start + Span.days 1) stop := by
  have day : start < start + Span.days 1 := by
    simp only [Instant.lt_iff, Instant.nanos_add, Span.days, Span.seconds]
    omega
  exact Instant.lt_min day h

theorem day_bounds {start stop : Instant} (h : start < stop) :
    start ≤ min (start + Span.days 1) stop ∧ min (start + Span.days 1) stop ≤ stop := by
  obtain ⟨-, inside, -⟩ := Instant.min_bounds (start + Span.days 1) stop
  exact ⟨Int.le_of_lt (lt_day_end h), inside⟩

theorem frontier_dailyChunks_of_le {start stop : Instant} (h : start ≤ stop) :
    frontier stop (dailyChunks start stop) = start := by
  by_cases lt : start < stop
  · rw [dailyChunks_of_lt lt, frontier_cons]
  · have same : start = stop := Instant.ext (Int.le_antisymm h (Int.not_lt.1 lt))
    rw [same, dailyChunks_of_le (Int.le_refl _), frontier_nil]

theorem frontier_dailyChunks (start stop : Instant) :
    frontier stop (dailyChunks start stop) ≤ start ∧
      frontier stop (dailyChunks start stop) ≤ stop := by
  by_cases lt : start < stop
  · rw [dailyChunks_of_lt lt, frontier_cons]
    exact ⟨Int.le_refl _, Int.le_of_lt lt⟩
  · have le : stop ≤ start := Int.not_lt.1 lt
    rw [dailyChunks_of_le le, frontier_nil]
    exact ⟨le, Int.le_refl _⟩

/-- A chunk that is left ends where the next one begins, and not after the end of the plan. -/
theorem frontier_of_suffix {start stop : Instant} {chunk : Period} {rest : List Period}
    (h : chunk :: rest <:+ dailyChunks start stop) :
    chunk.start ≤ chunk.stop ∧ chunk.stop ≤ stop ∧ frontier stop rest = chunk.stop := by
  fun_induction dailyChunks start stop with
  | case1 start lt ih =>
    obtain ⟨after, before⟩ := day_bounds lt
    rcases List.suffix_cons_iff.1 h with same | h
    · obtain ⟨rfl, rfl⟩ := List.cons.inj same
      exact ⟨after, before, frontier_dailyChunks_of_le before⟩
    · exact ih h
  | case2 start ge => exact absurd (List.suffix_nil.1 h) (List.cons_ne_nil _ _)

/-! ### A plan as a whole -/

theorem partitions_dailyChunks {start stop : Instant} (h : start ≤ stop) :
    Partitions stop start (dailyChunks start stop) := by
  fun_induction dailyChunks start stop with
  | case1 start lt ih =>
    apply Partitions.window (lt_day_end lt)
    apply ih
    exact (day_bounds lt).2
  | case2 start ge =>
    have same : start = stop := Instant.ext (Int.le_antisymm h (Int.not_lt.1 ge))
    subst same
    exact .done

/-- A day that is cut ends the plan, so the days before the last chunk are whole. -/
theorem whole_dailyChunks {start stop : Instant} (midnight : (Span.days 1).nanos ∣ start.nanos) :
    ∀ c ∈ (dailyChunks start stop).dropLast,
      (Span.days 1).nanos ∣ c.start.nanos ∧ c.stop = c.start + Span.days 1 := by
  fun_induction dailyChunks start stop with
  | case1 start lt ih =>
    obtain ⟨-, -, either⟩ := Instant.min_bounds (start + Span.days 1) stop
    rcases either with whole | cut
    · have next : (Span.days 1).nanos ∣ (start + Span.days 1).nanos :=
        Int.dvd_add midnight (Int.dvd_refl _)
      rw [whole] at ih ⊢
      intro c mem
      cases more : dailyChunks (start + Span.days 1) stop with
      | nil =>
        rw [more] at mem
        exact absurd mem List.not_mem_nil
      | cons d rest =>
        rw [more, List.dropLast_cons_cons] at mem
        rcases List.mem_cons.1 mem with rfl | mem
        · exact ⟨midnight, rfl⟩
        · apply ih next
          rw [more]
          exact mem
    · rw [cut, dailyChunks_of_le (Int.le_refl _)]
      intro c mem
      exact absurd mem List.not_mem_nil
  | case2 => exact fun c mem => absurd mem List.not_mem_nil

/-- There is a chunk for each day that begins before the end. -/
theorem lt_length_dailyChunks (start stop : Instant) (n : Nat) :
    n < (dailyChunks start stop).length ↔ start + Span.days n < stop := by
  fun_induction dailyChunks start stop generalizing n with
  | case1 start lt ih =>
    rw [List.length_cons]
    cases n with
    | zero =>
      simp only [Instant.lt_iff, Instant.nanos_add, Span.days, Span.seconds] at lt ⊢
      omega
    | succ n =>
      rw [Nat.succ_lt_succ_iff, ih]
      obtain ⟨first, -, either⟩ := Instant.min_bounds (start + Span.days 1) stop
      rcases either with whole | cut
      · rw [whole]
        simp only [Instant.lt_iff, Instant.nanos_add, Span.days, Span.seconds]
        omega
      · rw [cut] at first ⊢
        simp only [Instant.lt_iff, Instant.le_iff, Instant.nanos_add, Span.days,
          Span.seconds] at first ⊢
        omega
  | case2 start ge =>
    simp only [List.length_nil, Instant.lt_iff, Instant.nanos_add, Span.days, Span.seconds] at ge ⊢
    omega

/-- The chunks that hold an instant: one if the plan reaches over it. -/
theorem countP_dailyChunks (start stop t : Instant) :
    (dailyChunks start stop).countP (fun c => t ∈ c) = if start ≤ t ∧ t < stop then 1 else 0 := by
  by_cases lt : start < stop
  · exact (partitions_dailyChunks (Int.le_of_lt lt)).countP_mem t
  · have none : ¬ (start ≤ t ∧ t < stop) := fun ⟨low, high⟩ => lt (Int.lt_of_le_of_lt low high)
    rw [dailyChunks_of_le (Int.not_lt.1 lt), if_neg none]
    rfl

/--
The chunks from the midnight before an instant up to a cutover. They follow one another from that
midnight to the cutover, all but the last are whole days, and an instant lies in one of them if it lies
in between, and otherwise in none.
-/
theorem dailyChunks_partition (earliest cutover : Instant) :
    let midnight := earliest.startOfDay
    let chunks := dailyChunks midnight cutover
    ((Span.days 1).nanos ∣ midnight.nanos ∧ midnight ≤ earliest ∧ earliest < midnight + Span.days 1) ∧
      (cutover ≤ midnight ∧ chunks = [] ∨
        midnight < cutover ∧ chunks ≠ [] ∧ Partitions cutover midnight chunks) ∧
      (∀ c ∈ chunks.dropLast,
        (Span.days 1).nanos ∣ c.start.nanos ∧ c.stop = c.start + Span.days 1) ∧
      (∀ c ∈ chunks, c.start < c.stop ∧ c.stop ≤ cutover) ∧
      (∀ n : Nat, n < chunks.length ↔ midnight + Span.days n < cutover) ∧
      ∀ t, chunks.countP (fun c => t ∈ c) = if midnight ≤ t ∧ t < cutover then 1 else 0 := by
  have multiple : (Span.days 1).nanos ∣ earliest.startOfDay.nanos := Int.dvd_mul_left _ _
  have sameDay : earliest < earliest.startOfDay + Span.days 1 := by
    simp only [Instant.lt_iff, Instant.nanos_add, Instant.startOfDay, Instant.ofDayNumber,
      Instant.dayNumber, Span.days, Span.seconds]
    omega
  refine ⟨⟨multiple, earliest.startOfDay_le, sameDay⟩, ?_, whole_dailyChunks multiple, ?_,
    lt_length_dailyChunks _ cutover, countP_dailyChunks _ cutover⟩
  · rcases Int.lt_or_le earliest.startOfDay.nanos cutover.nanos with before | ended
    · right
      have some : dailyChunks earliest.startOfDay cutover ≠ [] := by
        rw [dailyChunks_of_lt before]
        exact List.cons_ne_nil _ _
      exact ⟨before, some, partitions_dailyChunks (Int.le_of_lt before)⟩
    · left
      exact ⟨ended, dailyChunks_of_le ended⟩
  · intro c mem
    rcases Int.lt_or_le earliest.startOfDay.nanos cutover.nanos with before | ended
    · exact ((partitions_dailyChunks (Int.le_of_lt before)).inside c mem).2
    · rw [dailyChunks_of_le ended] at mem
      exact absurd mem List.not_mem_nil

end Metering
