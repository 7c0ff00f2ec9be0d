import Metering.Proofs.Query.Days

/-!
Queries over parts of the range of an open query. They read along the same paths and in no other rows, so
where the open query has an answer, a query over a part of its range fails only if its windows are too many
to be listed (`error_within`).
-/
namespace Metering

section Within

variable {Q : Type} [Quantity Q] {c : Compiler} {db : Database Q} {m : Meter} {q : Query} {source : Source}
  {z : Zone} {p : Plan} {start first : Instant} {stop : Option Instant} {window : Option WindowSize}
  {cachable : Bool} {windowing : Windowing} {columns : List GroupColumn} {t : Tables Q}

/-- A query over a part of a range is planned as the query over the range, apart from its windows. -/
theorem Compiler.planFrom_over
    (planned : c.planFrom source m (q.over (some start) none none cachable) = .ok p)
    (zone : Zone.request q.zoneName = .ok z) (ordered : ∀ s, stop = some s → first ≤ s) :
    c.planFrom source m (q.over (some first) stop window false) =
      (Windowing.make c.dialect m (q.over (some first) stop window false) z).map fun windowing =>
        planOver (q.over (some first) stop window false) m windowing p.columns source := by
  have range : (q.over (some first) stop window false).validateRange = .ok () := by
    cases stop with
    | none => rfl
    | some s => exact if_neg (Int.not_lt.2 (ordered s rfl))
  obtain ⟨valid, numeric, _, columns, _, -, -, grouped, filters, -, rfl⟩ := planFrom_eq_ok.1 planned
  have answers : ¬ (source = .numbers ∧ ¬ m.aggregation.isNumeric = true) :=
    fun refused => refused.2 (numeric refused.1)
  have zone' : Zone.request (q.over (some first) stop window false).zoneName = .ok z := zone
  have grouped' : (q.over (some first) stop window false).groupColumns m = .ok columns := grouped
  have filters' : (q.over (some first) stop window false).validateFilters m c.maxDepth = .ok () := filters
  simp only [planFrom, valid, answers, zone', range, grouped', filters', if_false, bind, Except.bind,
    pure, Except.pure]
  cases Windowing.make c.dialect m (q.over (some first) stop window false) z with
  | error e => rfl
  | ok windowing => rfl

/-- Bounds are not looked up in data. -/
theorem planPaths_over : Database.planPaths
      (planOver (q.over (some first) stop window false) m windowing columns source) =
    Database.planPaths (planOver (q.over (some start) none none cachable) m .whole columns source) := by
  cases source with
  | numbers => rfl
  | events =>
    simp only [Database.planPaths, planOver, flatMap_conditionPaths]
    rfl

theorem lowerBound_over (low : start ≤ first) {b : Instant}
    (is : (q.over (some start) none none cachable).lowerBound m = some b) :
    ∃ b', (q.over (some first) stop window false).lowerBound m = some b' ∧ b ≤ b' := by
  have bound (start : Instant) (stop : Option Instant) (window : Option WindowSize) (cachable : Bool) :
      (q.over (some start) stop window cachable).lowerBound m = laterBound (some start) m.since := rfl
  rw [bound] at is ⊢
  cases since : m.since with
  | none =>
    rw [since] at is
    obtain rfl := Option.some.inj is
    exact ⟨first, rfl, low⟩
  | some s =>
    rw [since] at is
    obtain rfl := Option.some.inj is
    refine ⟨_, rfl, ?_⟩
    have later (t : Instant) : max t s = if t ≤ s then s else t := rfl
    simp only [later, Instant.le_iff] at low ⊢
    split <;> split <;> omega

omit [Quantity Q] in
/-- What is looked into for a part of a range is looked into for the range. -/
theorem candidates_over (low : start ≤ first) {r : TableRow Q}
    (mem : r ∈ (planOver (q.over (some first) stop window false) m windowing columns
      source).selection.candidates t) :
    r ∈ (planOver (q.over (some start) none none cachable) m .whole columns
      source).selection.candidates t := by
  obtain ⟨there, all⟩ := List.mem_filter.1 mem
  have holds {x : Condition} (among : x ∈ (q.over (some first) stop window false).conditions source m)
      (free : x.readsData = false) : x.holds r = true :=
    List.all_eq_true.1 all x (List.mem_filter.2 ⟨among, by simp [free]⟩)
  refine List.mem_filter.2 ⟨there, List.all_eq_true.2 fun x among => ?_⟩
  obtain ⟨among, free⟩ := List.mem_filter.1 among
  have free : x.readsData = false := by simpa using free
  have conditions : (planOver (q.over (some start) none none cachable) m .whole columns
    source).selection.conditions = _ ++ _ ++ _ ++ _ ++ _ := rfl
  rw [conditions] at among
  simp only [List.mem_append] at among
  rcases among with (((owned | lower) | upper) | subject) | dimension
  · exact holds (List.mem_append_left _ (List.mem_append_left _ (List.mem_append_left _
      (List.mem_append_left _ owned)))) free
  · obtain ⟨b, is, rfl⟩ := Option.map_eq_some_iff.1 (Option.mem_toList.1 lower)
    obtain ⟨b', is', le⟩ : ∃ b', (q.over (some first) stop window false).lowerBound m = some b' ∧
        b ≤ b' := lowerBound_over low is
    have own : Condition.notBefore b' ∈ (q.over (some first) stop window false).conditions source m := by
      refine List.mem_append_left _ (List.mem_append_left _ (List.mem_append_left _
        (List.mem_append_right _ ?_)))
      rw [is']
      exact List.mem_singleton_self _
    have begun : b'.microsecondStart ≤ r.time := of_decide_eq_true (holds own rfl)
    exact decide_eq_true (Int.le_trans (Instant.microsecondStart_mono le) begun)
  · exact absurd upper List.not_mem_nil
  · exact holds (List.mem_append_left _ (List.mem_append_right _ subject)) free
  · exact holds (List.mem_append_right _ dimension) free

/-- Windows between bounds can be told unless they are too many to be listed. -/
theorem error_of_make {d : Dialect} {q : Query} (bounded : q.window = none ∨ q.stop.isSome = true)
    (since : q.start.isSome = true) {e : Error} (failed : Windowing.make d m q z = .error e) :
    ∃ n size, q.window = some size ∧ e = .query (.tooManyWindows n size windowLimit) := by
  rw [Windowing.make] at failed
  cases window : q.window with
  | none =>
    rw [window] at failed
    cases failed
  | some size =>
    obtain ⟨stop, last⟩ := Option.isSome_iff_exists.1 (bounded.resolve_left (by simp [window]))
    obtain ⟨start, first⟩ := Option.isSome_iff_exists.1 since
    obtain ⟨lower, is⟩ : ∃ lower, q.lowerBound m = some lower := by
      rw [Query.lowerBound, first]
      cases m.since <;> exact ⟨_, rfl⟩
    simp only [window, last, is, listedWindows] at failed
    split at failed
    · cases failed
    · split at failed
      · obtain rfl := Except.error.inj failed
        exact ⟨_, size, rfl, rfl⟩
      · split at failed <;> cases failed

/-- Where an open query has an answer, one over a part of its range has too many windows or an answer. -/
theorem error_within {rows : List (Row Q)} {e : Error}
    (answered : c.answer db m (q.over (some start) none none cachable) = .ok rows) (low : start ≤ first)
    (ordered : ∀ s, stop = some s → first ≤ s) (bounded : window = none ∨ stop.isSome = true)
    (failed : c.answer db m (q.over (some first) stop window false) = .error e) :
    ∃ n size, window = some size ∧ e = .query (.tooManyWindows n size windowLimit) := by
  have direct := answerFrom_of_answer (.inl rfl) answered
  obtain ⟨p, planned, isOpen, readable, -⟩ := answerFrom_ok.1 direct
  obtain ⟨z, zone, whole, -, is⟩ := Compiler.planOver_of_planFrom planned
  rw [(Except.ok.inj whole).symm] at is
  have at_once : c.answer db m (q.over (some first) stop window false) = _ :=
    answer_of_bounded db zone (bounded.imp_right fun last => ⟨rfl, last⟩)
  rw [at_once] at failed
  have within : c.planFrom _ m (q.over (some first) stop window false) = _ :=
    Compiler.planFrom_over planned zone ordered
  cases made : Windowing.make c.dialect m (q.over (some first) stop window false) z with
  | error e' =>
    rw [made] at within
    rw [Compiler.answerFrom, within] at failed
    obtain rfl := Except.error.inj failed
    exact error_of_make bounded rfl made
  | ok windowing =>
    rw [made] at within
    have answer := answerFrom_ok.2 ⟨_, within, isOpen, ?_, rfl⟩
    · rw [answer] at failed
      cases failed
    · rw [is, Database.canRead, Bool.or_eq_true, Bool.and_eq_true] at readable
      rw [Database.canRead, Bool.or_eq_true, Bool.and_eq_true, planPaths_over]
      apply readable.imp_right
      rintro ⟨paths, rows⟩
      refine ⟨paths, List.all_eq_true.2 fun r mem => ?_⟩
      exact List.all_eq_true.1 rows r (candidates_over low mem)

end Within

end Metering
