import Metering.Proofs.Window.Order

/-!
Ranges that consist of whole windows. A range that starts where a window starts and ends where one ends
is listed without a rest: days and months, if each of them starts where the clock first shows it
(`windows_byClock`), minutes and hours, if the clock is moved by whole windows between both ends
(`windows_fixed`).
-/
namespace Metering

/-- Windows that follow one another from `start` on, of which the last one ends at `stop`. -/
inductive Partitions (stop : Instant) : Instant → List Period → Prop
  | done : Partitions stop stop []
  | window {start after : Instant} {rest : List Period} : start < after →
      Partitions stop after rest → Partitions stop start (⟨start, after⟩ :: rest)

namespace Partitions

variable {start stop : Instant} {ws : List Period}

theorem le (h : Partitions stop start ws) : start ≤ stop := by
  induction h with
  | done => exact Int.le_refl _
  | window forward _ ih => exact Int.le_trans (Int.le_of_lt forward) ih

theorem inside (h : Partitions stop start ws) :
    ∀ w ∈ ws, start ≤ w.start ∧ w.start < w.stop ∧ w.stop ≤ stop := by
  induction h with
  | done => exact fun _ mem => absurd mem List.not_mem_nil
  | window forward rest ih =>
    intro w mem
    rcases List.mem_cons.1 mem with rfl | mem
    · exact ⟨Int.le_refl _, forward, rest.le⟩
    · obtain ⟨after, some, before⟩ := ih w mem
      exact ⟨Int.le_trans (Int.le_of_lt forward) after, some, before⟩

theorem tiles (h : Partitions stop start ws) : Tiles stop start ws := by
  induction h with
  | done => exact .done (Int.le_refl _)
  | window forward rest ih => exact .window (Int.lt_of_lt_of_le forward rest.le) forward ih

theorem head_start (h : Partitions stop start ws) (some : start < stop) :
    ws.head?.map Period.start = .some start := by
  cases h with
  | done => exact absurd some (Int.lt_irrefl _)
  | window _ _ => rfl

theorem getLast_stop (h : Partitions stop start ws) (some : start < stop) :
    ws.getLast?.map Period.stop = .some stop := by
  induction h with
  | done => exact absurd some (Int.lt_irrefl _)
  | @window start after rest _ others ih =>
    cases others with
    | done => rfl
    | window forward others =>
      rw [List.getLast?_cons_cons]
      exact ih (Int.lt_of_lt_of_le forward others.le)

/-- An instant between both ends lies in one of the windows, and any other in none. -/
theorem countP_mem (h : Partitions stop start ws) (t : Instant) :
    ws.countP (fun w => t ∈ w) = if start ≤ t ∧ t < stop then 1 else 0 := by
  induction h with
  | done =>
    rw [List.countP_nil, if_neg fun ⟨low, high⟩ => absurd high (Int.not_lt.2 low)]
  | @window start after rest forward others ih =>
    have last : after.nanos ≤ stop.nanos := others.le
    have first : start.nanos < after.nanos := forward
    have here : t ∈ (⟨start, after⟩ : Period) ↔ start.nanos ≤ t.nanos ∧ t.nanos < after.nanos := .rfl
    simp only [List.countP_cons, ih, decide_eq_true_eq, here, Instant.le_iff, Instant.lt_iff]
    split_ifs <;> omega

end Partitions

namespace WindowSize

variable {size : WindowSize} {z : Zone} {t u start stop : Instant} {k l : Int}

variable (size z stop) in
/-- Windows are listed up to the end of a range that none of them passes. -/
theorem windowsFrom_partitions (Moves : Instant → Prop)
    (step : ∀ s < stop, Moves s →
      s < size.next z s ∧ size.next z s ≤ stop ∧ Moves (size.next z s))
    (le : start ≤ stop) (moves : Moves start) (acc : List Period) :
    ∃ ws, size.windowsFrom z start stop acc = ws.reverse ++ acc ∧ Partitions stop start ws := by
  fun_induction windowsFrom size z start stop acc with
  | case1 start acc after h ih =>
    obtain ⟨-, inside, moves⟩ := step start h.1 moves
    obtain ⟨ws, listed, parts⟩ := ih inside moves
    refine ⟨⟨start, after⟩ :: ws, ?_, .window h.2 parts⟩
    rw [listed, List.reverse_cons, List.append_assoc]
    rfl
  | case2 start acc after h =>
    rcases Int.lt_or_eq_of_le le with before | same
    · exact absurd ⟨before, (step start before moves).1⟩ h
    · obtain rfl : start = stop := Instant.ext same
      exact ⟨[], rfl, .done⟩

/-- A range that starts at the start of a window is listed from there on. -/
theorem windows_of_truncate (own : size.truncate z start = start) {ws : List Period}
    (listed : size.windowsFrom z start stop [] = ws.reverse ++ []) :
    size.windows z start stop = ws := by
  rw [windows, own, listed, List.append_nil, List.reverse_reverse]

namespace Keeps

variable (keeps : size.Keeps z t)
include keeps

theorem le_ceil : t ≤ size.ceil z t := by
  rcases keeps.ceil_eq with ⟨is, -⟩ | is
  · exact Int.le_of_eq (congrArg Instant.nanos is.symm)
  · rw [is]
    exact Int.le_of_lt keeps.lt_startIn_succ

theorem truncate_ceil : size.truncate z (size.ceil z t) = size.ceil z t := by
  rcases keeps.ceil_eq with ⟨is, own⟩ | is
  · rw [is]
    exact own
  · rw [is]
    exact keeps.truncate_startIn_succ

/-- At the first start of a window after an instant, no later window has been shown yet. -/
theorem upTo_ceil : size.numberIn z t ≤ size.numberIn z (size.ceil z t) ∧
    size.UpTo z (size.ceil z t) (size.numberIn z (size.ceil z t)) := by
  rcases keeps.ceil_eq with ⟨is, -⟩ | is
  · rw [is]
    exact ⟨Int.le_refl _, keeps.past⟩
  · have reached := keeps.next.le_numberIn keeps.ordered
    rw [is]
    refine ⟨by omega, fun u le => ?_⟩
    rcases Int.lt_or_eq_of_le le with before | same
    · exact Int.le_trans (keeps.soon u (le_justBefore_iff.2 before)) reached
    · exact Int.le_of_eq (congrArg (size.numberIn z) (Instant.ext same))

end Keeps

section ByClock

/-- A window starts where its number is shown for the first time. -/
def FirstShown (size : WindowSize) (z : Zone) (k : Int) : Prop :=
  size.numberIn z (size.startIn z k) = k ∧ size.UpTo z (justBefore (size.startIn z k)) (k - 1)

instance (size : WindowSize) (z : Zone) (k : Int) : Decidable (size.FirstShown z k) :=
  inferInstanceAs (Decidable (_ ∧ _))

namespace FirstShown

theorem of_not_skipped (ordered : z.Ordered) (shown : k ∉ size.skipped z) : size.FirstShown z k := by
  refine ⟨numberIn_startIn ordered shown, fun u le => ?_⟩
  have earlier := (startIn_of_not_skipped ordered shown).2 u (le_justBefore_iff.1 le)
  omega

theorem startIn_le (first : size.FirstShown z k) (reached : k ≤ size.numberIn z t) :
    size.startIn z k ≤ t := by
  by_contra before
  have earlier := first.2 t (le_justBefore_iff.2 (Int.not_le.1 before))
  omega

theorem numberIn_lt (first : size.FirstShown z k) (before : t < size.startIn z k) :
    size.numberIn z t < k := by
  have earlier := first.2 t (le_justBefore_iff.2 before)
  omega

theorem upTo (first : size.FirstShown z k) : size.UpTo z (size.startIn z k) k := by
  intro u le
  rcases Int.lt_or_eq_of_le le with before | same
  · exact Int.le_of_lt (first.numberIn_lt before)
  · rw [Instant.ext same]
    exact Int.le_of_eq first.1

/-- The window of an instant starts where it is first shown. -/
theorem truncate_eq_startIn (first : size.FirstShown z (size.numberIn z t)) :
    size.truncate z t = size.startIn z (size.numberIn z t) := by
  rcases truncate_cases size z t with start | ⟨-, after⟩
  · exact start
  · exact absurd (first.startIn_le (Int.le_refl _)) (Int.not_le.2 after)

end FirstShown

/-- Days and months up to the start of one of them, from a start that they do not run ahead of. -/
theorem windows_byClock (byClock : size.ByClock) (own : size.truncate z start = start)
    (past : size.UpTo z start (size.numberIn z start)) (before : start ≤ size.startIn z l)
    (first : ∀ k, size.numberIn z start < k → k ≤ l → size.FirstShown z k)
    (last : size.FirstShown z l) :
    Partitions (size.startIn z l) start (size.windows z start (size.startIn z l)) := by
  have listed := windowsFrom_partitions size z (size.startIn z l)
    (fun s => size.numberIn z start ≤ size.numberIn z s ∧ size.UpTo z s (size.numberIn z s))
    (by
      rintro s inside ⟨low, upTo⟩
      have room := last.numberIn_lt inside
      have next := first (size.numberIn z s + 1) (by omega) room
      rw [next_eq byClock]
      refine ⟨?_, ?_, ?_, ?_⟩
      · by_contra other
        have shown := upTo _ (Int.not_lt.1 other)
        rw [next.1] at shown
        omega
      · refine next.startIn_le ?_
        rw [last.1]
        exact room
      · rw [next.1]
        omega
      · rw [next.1]
        exact next.upTo)
    before ⟨Int.le_refl _, past⟩ []
  obtain ⟨ws, is, parts⟩ := listed
  rw [windows_of_truncate own is]
  exact parts

end ByClock

section Fixed

/-- The length of a minute or an hour. Days and months have no length of their own. -/
def nanos : WindowSize → Int
  | .minute => 60000000000
  | .hour => 3600000000000
  | .day | .month => 0

theorem boundary_of_fixed (fixed : ¬ size.ByClock) (k : Int) : size.boundary k = ⟨k * size.nanos⟩ := by
  cases size with
  | minute | hour => rfl
  | day => exact absurd (.inl rfl) fixed
  | month => exact absurd (.inr rfl) fixed

theorem next_of_fixed (fixed : ¬ size.ByClock) (z : Zone) (t : Instant) :
    size.next z t = ⟨t.nanos + size.nanos⟩ := by
  cases size with
  | minute | hour => rfl
  | day => exact absurd (.inl rfl) fixed
  | month => exact absurd (.inr rfl) fixed

/-- Minutes and hours over a range of a whole number of them. -/
theorem windows_fixed (fixed : ¬ size.ByClock) (own : size.truncate z start = start)
    (before : start ≤ stop) (whole : size.nanos ∣ stop.nanos - start.nanos) :
    Partitions stop start (size.windows z start stop) := by
  have listed := windowsFrom_partitions size z stop
    (fun s => size.nanos ∣ stop.nanos - s.nanos)
    (by
      intro s inside whole
      have forward := lt_next_of_fixed fixed z s
      have fits : size.nanos ≤ stop.nanos - s.nanos :=
        Int.le_of_dvd (Int.sub_pos.2 inside) whole
      rw [next_of_fixed fixed] at forward ⊢
      refine ⟨forward, ?_, ?_⟩
      · simp only [Instant.le_iff]
        omega
      · rw [← Int.sub_sub]
        exact Int.dvd_sub whole (Int.dvd_refl _))
    before whole []
  obtain ⟨ws, is, parts⟩ := listed
  rw [windows_of_truncate own is]
  exact parts

/-- The clock shows the start of a window at both ends of a range, and is moved by whole windows from
one to the other. -/
structure InStep (size : WindowSize) (z : Zone) (p : Period) : Prop where
  start : clock z p.start = size.boundary (size.numberIn z p.start)
  stop : clock z p.stop = size.boundary (size.numberIn z p.stop)
  moved : size.nanos ∣ (z.offsetAt p.stop - z.offsetAt p.start) * 1000000000

instance (size : WindowSize) (z : Zone) (p : Period) : Decidable (size.InStep z p) :=
  decidable_of_iff (clock z p.start = size.boundary (size.numberIn z p.start) ∧
      clock z p.stop = size.boundary (size.numberIn z p.stop) ∧
      size.nanos ∣ (z.offsetAt p.stop - z.offsetAt p.start) * 1000000000)
    ⟨fun ⟨start, stop, moved⟩ => ⟨start, stop, moved⟩,
      fun ⟨start, stop, moved⟩ => ⟨start, stop, moved⟩⟩

theorem InStep.dvd {p : Period} (fixed : ¬ size.ByClock) (inStep : size.InStep z p) :
    size.nanos ∣ p.stop.nanos - p.start.nanos := by
  obtain ⟨start, stop, moved⟩ := inStep
  rw [boundary_of_fixed fixed] at start stop
  have start := congrArg Instant.nanos start
  have stop := congrArg Instant.nanos stop
  simp only [clock, Zone.wall] at start stop
  have length : p.stop.nanos - p.start.nanos =
      (size.numberIn z p.stop - size.numberIn z p.start) * size.nanos -
        (z.offsetAt p.stop - z.offsetAt p.start) * 1000000000 := by
    rw [Int.sub_mul, Int.sub_mul]
    omega
  rw [length]
  exact Int.dvd_sub (Int.dvd_mul_left _ _) moved

end Fixed

end WindowSize

end Metering
