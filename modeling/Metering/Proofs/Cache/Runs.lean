import Metering.Cache.Gaps
import Metering.Proofs.Window.Grid

/-!
Which windows a fill of the store computes. The periods that are not covered are runs of consecutive
windows, and together the runs have the windows at which no stored row starts (`uncovered_utc`). A
placeholder stands for a window of a run in which its group has no row.
-/
namespace Metering

/-- The period from one window up to another. -/
def WindowSize.run (size : WindowSize) (run : Int × Int) : Period :=
  ⟨size.boundary run.1, size.boundary run.2⟩

/-- The numbers of the windows of some runs. -/
def windowsOfRuns (runs : List (Int × Int)) : List Int := runs.flatMap fun run => Int.range run.1 run.2

/-- Windows that are joined where one ends at the start of the next. -/
theorem joinAdjacent_map (start : Int → Instant) {numbers : List Int}
    (apart : ∀ k ∈ numbers, ∀ l ∈ numbers, start (k + 1) = start l → k + 1 = l) :
    ∃ runs : List (Int × Int),
      joinAdjacent (numbers.map fun k => ⟨start k, start (k + 1)⟩) =
        runs.map (fun run => ⟨start run.1, start run.2⟩) ∧
      windowsOfRuns runs = numbers ∧ ∀ run ∈ runs, run.1 < run.2 := by
  induction numbers with
  | nil => exact ⟨[], rfl, rfl, fun _ mem => absurd mem List.not_mem_nil⟩
  | cons k numbers ih =>
    obtain ⟨runs, joined, windows, some⟩ := ih fun k mem l mem' =>
      apart k (List.mem_cons_of_mem _ mem) l (List.mem_cons_of_mem _ mem')
    have one : Int.range k (k + 1) = [k] := by
      rw [range_eq_cons (by omega), range_eq_nil (by omega)]
    cases runs with
    | nil =>
      refine ⟨[(k, k + 1)], ?_, ?_, ?_⟩
      · rw [List.map_cons, joinAdjacent, joined]
        rfl
      · rw [← windows, windowsOfRuns, List.flatMap_singleton, one]
        rfl
      · intro run mem
        rw [List.mem_singleton.1 mem]
        exact Int.lt_succ k
    | cons first runs =>
      have first_some := some first List.mem_cons_self
      by_cases touch : start (k + 1) = start first.1
      · have among : first.1 ∈ numbers := by
          rw [← windows, windowsOfRuns, List.flatMap_cons]
          exact List.mem_append_left _ (Int.mem_range_iff.2 ⟨Int.le_refl _, first_some⟩)
        have next : k + 1 = first.1 :=
          apart k List.mem_cons_self first.1 (List.mem_cons_of_mem _ among) touch
        refine ⟨(k, first.2) :: runs, ?_, ?_, ?_⟩
        · rw [List.map_cons, joinAdjacent, joined, List.map_cons]
          exact if_pos touch
        · rw [← windows, windowsOfRuns, windowsOfRuns, List.flatMap_cons, List.flatMap_cons,
            range_eq_cons (by omega : k < first.2), next, List.cons_append]
        · intro run mem
          rcases List.mem_cons.1 mem with rfl | mem
          · show k < first.2
            omega
          · exact some run (List.mem_cons_of_mem _ mem)
      · refine ⟨(k, k + 1) :: first :: runs, ?_, ?_, ?_⟩
        · rw [List.map_cons, joinAdjacent, joined, List.map_cons]
          exact if_neg touch
        · rw [← windows, windowsOfRuns, windowsOfRuns, List.flatMap_cons, one]
          rfl
        · intro run mem
          rcases List.mem_cons.1 mem with rfl | mem
          · exact Int.lt_succ k
          · exact some run mem

/-- The uncovered periods of a range of windows are runs of the windows at which no row starts. -/
theorem uncovered_eq {size : WindowSize} {z : Zone} {i j : Int} {start : Int → Instant}
    (windows : size.windows z (start i) (start j) =
      (Int.range i j).map fun k => ⟨start k, start (k + 1)⟩)
    (mono : ∀ k l, i ≤ k → k < l → l ≤ j → start k < start l) (covered : List Instant) :
    ∃ runs : List (Int × Int),
      uncovered size z ⟨start i, start j⟩ covered = runs.map (fun run => ⟨start run.1, start run.2⟩) ∧
        windowsOfRuns runs = (Int.range i j).filter (fun k => start k ∉ covered) ∧
        ∀ run ∈ runs, run.1 < run.2 := by
  have le (k l : Int) (low : i ≤ k) (le : k ≤ l) (high : l ≤ j) : start k ≤ start l := by
    rcases Int.lt_or_eq_of_le le with lt | rfl
    · exact Int.le_of_lt (mono k l low lt high)
    · exact Int.le_refl _
  have missing : ((size.windows z (start i) (start j)).filter fun w =>
      w.start ∈ (⟨start i, start j⟩ : Period) ∧ w.start ∉ covered).map
        (fun w => (⟨w.start, min w.stop (start j)⟩ : Period)) =
      ((Int.range i j).filter fun k => start k ∉ covered).map
        fun k => ⟨start k, start (k + 1)⟩ := by
    rw [windows, List.filter_map, List.map_map]
    have inside : (Int.range i j).filter ((fun w : Period =>
        decide (w.start ∈ (⟨start i, start j⟩ : Period) ∧ w.start ∉ covered)) ∘
          fun k => ⟨start k, start (k + 1)⟩) =
        (Int.range i j).filter fun k => decide (start k ∉ covered) := by
      refine List.filter_congr fun k mem => ?_
      obtain ⟨low, high⟩ := Int.mem_range_iff.1 mem
      have here : start k ∈ (⟨start i, start j⟩ : Period) :=
        ⟨le i k (Int.le_refl i) low (Int.le_of_lt high), mono k j low high (Int.le_refl j)⟩
      rw [Function.comp_apply, decide_eq_decide]
      exact ⟨fun h => h.2, fun h => ⟨here, h⟩⟩
    rw [inside]
    refine List.map_congr_left fun k mem => ?_
    obtain ⟨low, high⟩ := Int.mem_range_iff.1 (List.mem_filter.1 mem).1
    exact congrArg (Period.mk _) (if_pos (le (k + 1) j (by omega) high (Int.le_refl j)))
  have next : ∀ k ∈ (Int.range i j).filter (fun k => start k ∉ covered),
      ∀ l ∈ (Int.range i j).filter (fun k => start k ∉ covered), start (k + 1) = start l → k + 1 = l := by
    intro k mem l mem' touch
    obtain ⟨low, high⟩ := Int.mem_range_iff.1 (List.mem_filter.1 mem).1
    obtain ⟨low', high'⟩ := Int.mem_range_iff.1 (List.mem_filter.1 mem').1
    rcases Int.lt_trichotomy (k + 1) l with lt | same | gt
    · exact absurd (touch ▸ mono (k + 1) l (by omega) lt (by omega)) (Int.lt_irrefl _)
    · exact same
    · exact absurd (touch ▸ mono l (k + 1) low' gt (by omega)) (Int.lt_irrefl _)
  obtain ⟨runs, joined, rest⟩ := joinAdjacent_map start next
  refine ⟨runs, ?_, rest⟩
  rw [← joined, ← missing]
  rfl

/-- The uncovered periods are runs of the windows at which no row starts. -/
theorem uncovered_utc (size : WindowSize) (i j : Int) (covered : List Instant) :
    ∃ runs : List (Int × Int),
      uncovered size .utc ⟨size.boundary i, size.boundary j⟩ covered = runs.map size.run ∧
        windowsOfRuns runs = (Int.range i j).filter (fun k => size.boundary k ∉ covered) ∧
        ∀ run ∈ runs, run.1 < run.2 :=
  uncovered_eq (size.windows_boundaries i j)
    (fun _ _ _ lt _ => WindowSize.boundary_lt_iff.2 lt) covered

theorem mem_windows_run {size : WindowSize} {run : Int × Int} {w : Period} :
    w ∈ size.windows .utc (size.run run).start (size.run run).stop ↔
      ∃ k, run.1 ≤ k ∧ k < run.2 ∧ size.window k = w := by
  rw [WindowSize.run, WindowSize.windows_boundaries, List.mem_map]
  simp only [Int.mem_range_iff, and_assoc]

/-- A period that is not covered is a run of windows at which no row starts. -/
theorem run_of_uncovered {size : WindowSize} {i j : Int} {covered : List Instant} {p : Period}
    (mem : p ∈ uncovered size .utc (size.run (i, j)) covered) :
    ∃ a b, p = size.run (a, b) ∧ i ≤ a ∧ a < b ∧ b ≤ j ∧
      ∀ k, a ≤ k → k < b → size.boundary k ∉ covered := by
  obtain ⟨runs, uncovered, windows, ordered⟩ := uncovered_utc size i j covered
  rw [WindowSize.run, uncovered] at mem
  obtain ⟨⟨a, b⟩, there, rfl⟩ := List.mem_map.1 mem
  have forward : a < b := ordered _ there
  have inside : ∀ k, a ≤ k → k < b → (i ≤ k ∧ k < j) ∧ size.boundary k ∉ covered := by
    intro k low high
    have among : k ∈ windowsOfRuns runs :=
      List.mem_flatMap.2 ⟨_, there, Int.mem_range_iff.2 ⟨low, high⟩⟩
    rw [windows, List.mem_filter, Int.mem_range_iff, decide_eq_true_eq] at among
    exact among
  have first := (inside a (Int.le_refl a) forward).1
  have last := (inside (b - 1) (by omega) (by omega)).1
  exact ⟨a, b, rfl, first.1, forward, by omega, fun k low high => (inside k low high).2⟩

/-- The windows of which a lookup finds something. -/
def covered {Q : Type} (size : WindowSize) (i j : Int) (found : List (Row Q)) : List Int :=
  (Int.range i j).filter fun k => size.boundary k ∈ found.map Row.start

theorem mem_covered {Q : Type} {size : WindowSize} {i j k : Int} {found : List (Row Q)} :
    k ∈ covered size i j found ↔ (i ≤ k ∧ k < j) ∧ ∃ r ∈ found, r.start = size.boundary k := by
  rw [covered, List.mem_filter, Int.mem_range_iff, decide_eq_true_eq, List.mem_map]

end Metering
