import Metering.Cache.Answer
import Metering.Proofs.Window.Partition

/-!
The part of a query's range that is answered through the store. It is never empty and always old enough.
While the clock keeps to the order of time it lies inside the range of the query, and it consists of
whole windows, so that no window is cut where a part of it is filled (`storableRange?_whole`). Without
that it can start before the query does (`storableRange?_early`).
-/
namespace Metering

namespace WindowSize

variable {size : WindowSize} {z : Zone} {start last : Instant} {p : Period}

/--
What the clock of a zone must keep to around a range from `start` on and its part `p` of whole windows,
of which the last one ends with the window of `last`.
-/
structure Fits (size : WindowSize) (z : Zone) (start last : Instant) (p : Period) : Prop where
  keeps : size.Keeps z start
  /-- A day or month of the range that the clock does not show from its first moment on is first shown
  where it is found to start. -/
  shown : size.ByClock → ∀ k ∈ size.skipped z,
    min (size.numberIn z start) (size.numberIn z last) ≤ k → k ≤ size.numberIn z last →
      size.FirstShown z k
  inStep : ¬ size.ByClock → size.InStep z p

instance (size : WindowSize) (z : Zone) (start last : Instant) (p : Period) :
    Decidable (size.Fits z start last p) :=
  decidable_of_iff (size.Keeps z start ∧
      (size.ByClock → ∀ k ∈ size.skipped z,
        min (size.numberIn z start) (size.numberIn z last) ≤ k → k ≤ size.numberIn z last →
          size.FirstShown z k) ∧
      (¬ size.ByClock → size.InStep z p))
    ⟨fun ⟨keeps, shown, inStep⟩ => ⟨keeps, shown, inStep⟩,
      fun ⟨keeps, shown, inStep⟩ => ⟨keeps, shown, inStep⟩⟩

/-- Each day or month of the range starts where it is first shown. -/
theorem Fits.firstShown {k : Int} (fits : size.Fits z start last p) (byClock : size.ByClock)
    (low : min (size.numberIn z start) (size.numberIn z last) ≤ k) (high : k ≤ size.numberIn z last) :
    size.FirstShown z k := by
  by_cases mem : k ∈ size.skipped z
  · exact fits.shown byClock k mem low high
  · exact .of_not_skipped fits.keeps.ordered mem

/-- The whole windows from `start` to the window of `last`. -/
theorem Fits.partitions (fits : size.Fits z start last p) (first : p.start = size.ceil z start)
    (stop : size.ByClock → p.stop = size.truncate z last) (some : p.start < p.stop) :
    Partitions p.stop p.start (size.windows z p.start p.stop) := by
  have own : size.truncate z p.start = p.start := by
    rw [first]
    exact fits.keeps.truncate_ceil
  by_cases byClock : size.ByClock
  · have ends : size.FirstShown z (size.numberIn z last) :=
      fits.firstShown byClock (by omega) (Int.le_refl _)
    have stop : p.stop = size.startIn z (size.numberIn z last) := by
      rw [stop byClock]
      exact ends.truncate_eq_startIn
    obtain ⟨reached, past⟩ := fits.keeps.upTo_ceil
    rw [← first] at reached past
    rw [stop] at some ⊢
    refine windows_byClock byClock own past (Int.le_of_lt some) (fun k low high => ?_) ends
    exact fits.firstShown byClock (by omega) high
  · exact windows_fixed byClock own (Int.le_of_lt some) ((fits.inStep byClock).dvd byClock)

/-- A range whose windows start where it starts and end where it ends. -/
structure Whole (size : WindowSize) (z : Zone) (p : Period) : Prop where
  first : (size.windows z p.start p.stop).head?.map Period.start = some p.start
  last : (size.windows z p.start p.stop).getLast?.map Period.stop = some p.stop
  inside : ∀ w ∈ size.windows z p.start p.stop, p.start ≤ w.start ∧ w.start < w.stop ∧ w.stop ≤ p.stop
  one : ∀ t ∈ p, ∃! w, w ∈ size.windows z p.start p.stop ∧ t ∈ w
  /-- What is filled of the range are whole windows, those that are not covered. -/
  uncut : ∀ covered, uncovered size z p covered =
    joinAdjacent ((size.windows z p.start p.stop).filter fun w => w.start ∉ covered)

/-- Of a range of whole windows, what is not covered consists of whole windows. -/
theorem uncovered_of_partitions (parts : Partitions p.stop p.start (size.windows z p.start p.stop))
    (covered : List Instant) : uncovered size z p covered =
      joinAdjacent ((size.windows z p.start p.stop).filter fun w => w.start ∉ covered) := by
  have same : ((size.windows z p.start p.stop).filter fun w => w.start ∈ p ∧ w.start ∉ covered) =
      (size.windows z p.start p.stop).filter fun w => w.start ∉ covered := by
    refine List.filter_congr fun w mem => ?_
    obtain ⟨low, some, high⟩ := parts.inside w mem
    have begun : w.start ∈ p := ⟨low, Int.lt_of_lt_of_le some high⟩
    simp only [begun, true_and]
  have uncut (w : Period)
      (mem : w ∈ (size.windows z p.start p.stop).filter fun w => w.start ∉ covered) :
      (⟨w.start, min w.stop p.stop⟩ : Period) = w := by
    obtain ⟨-, -, high⟩ := parts.inside w (List.mem_filter.1 mem).1
    exact congrArg (Period.mk w.start) (if_pos high)
  rw [uncovered, same]
  exact congrArg joinAdjacent ((List.map_congr_left uncut).trans (List.map_id' _))

theorem whole_of_partitions (parts : Partitions p.stop p.start (size.windows z p.start p.stop))
    (some : p.start < p.stop) : size.Whole z p where
  first := parts.head_start some
  last := parts.getLast_stop some
  inside := parts.inside
  one := fun _ inside => parts.tiles.existsUnique inside.1 inside.2
  uncut := uncovered_of_partitions parts

end WindowSize

namespace CacheSettings

variable {s : CacheSettings} {range p : Period} {size : WindowSize} {z : Zone} {now : Instant}

/-- The end of the usage of a range that is old enough to be stored. -/
def limit (s : CacheSettings) (range : Period) (now : Instant) : Instant :=
  min range.stop (now - s.minUsageAge)

/-- Months are cut at the last midnight before the limit, the other sizes at the limit. -/
def cut (s : CacheSettings) (range : Period) (size : WindowSize) (z : Zone) (now : Instant) : Instant :=
  if size = .month then WindowSize.day.truncate z (s.limit range now) else s.limit range now

theorem storableRange?_eq (is : s.storableRange? range size z now = some p) :
    p.start = size.ceil z range.start ∧ p.start < p.stop ∧ p.stop ≤ s.limit range now ∧
      (size.ByClock → p.stop = size.truncate z (s.cut range size z now)) := by
  have midnight := WindowSize.truncate_le .day z (s.limit range now)
  simp only [storableRange?, Option.ite_none_right_eq_some, Option.some.injEq] at is
  obtain ⟨some, rfl⟩ := is
  refine ⟨rfl, some, ?_, fun byClock => ?_⟩
  · by_cases month : size = .month
    · rw [if_pos month]
      exact Int.le_trans (WindowSize.truncate_le _ _ _) midnight
    · rw [if_neg month]
      exact midnight
  · rcases byClock with rfl | rfl
    · rfl
    · rfl

/--
The stored part of a range is not empty and old enough. If the clock keeps to the order of time there,
it starts no earlier than the range and consists of whole windows.
-/
theorem storableRange?_whole (is : s.storableRange? range size z now = some p) :
    p.start < p.stop ∧ p.stop ≤ min range.stop (now - s.minUsageAge) ∧
      (size.Fits z range.start (s.cut range size z now) p →
        range.start ≤ p.start ∧ size.Whole z p) := by
  obtain ⟨first, some, old, stop⟩ := storableRange?_eq is
  refine ⟨some, old, fun fits => ?_⟩
  have parts := fits.partitions first stop some
  refine ⟨?_, WindowSize.whole_of_partitions parts some⟩
  rw [first]
  exact fits.keeps.le_ceil

/-- Five days of which one has no midnight, and the hours of a weekend with an hour more. -/
theorem storableRange?_weekends :
    (.ofSeconds 1541214000 ≤ Instant.ofSeconds 1541214000 ∧
        WindowSize.day.Whole WindowSize.summer ⟨.ofSeconds 1541214000, .ofSeconds 1541642400⟩) ∧
      .ofSeconds 1729938600 ≤ Instant.ofSeconds 1729940400 ∧
        WindowSize.hour.Whole WindowSize.autumn ⟨.ofSeconds 1729940400, .ofSeconds 1730070000⟩ := by
  have days : CacheSettings.default.storableRange? ⟨.ofSeconds 1541214000, .ofSeconds 1541728800⟩ .day
        WindowSize.summer (.ofSeconds 1541728800) =
      some ⟨.ofSeconds 1541214000, .ofSeconds 1541642400⟩ := by decide +kernel
  have hours : CacheSettings.default.storableRange? ⟨.ofSeconds 1729938600, .ofSeconds 1730116800⟩
        .hour WindowSize.autumn (.ofSeconds 1731196800) =
      some ⟨.ofSeconds 1729940400, .ofSeconds 1730070000⟩ := by decide +kernel
  exact ⟨(storableRange?_whole days).2.2 (by decide +kernel),
    (storableRange?_whole hours).2.2 (by decide +kernel)⟩

/-- From the second time that a clock shows half past two on, minutes are stored from the first time
on, an hour before the range starts. -/
theorem storableRange?_early :
    CacheSettings.default.storableRange? ⟨.ofSeconds 1729992630, .ofSeconds 1730764800⟩ .minute
        WindowSize.autumn (.ofSeconds 1731196800) =
      some ⟨.ofSeconds 1729989060, .ofSeconds 1730761200⟩ ∧
      ¬ Instant.ofSeconds 1729992630 ≤ .ofSeconds 1729989060 := by
  constructor
  · decide +kernel
  · decide

end CacheSettings

end Metering
