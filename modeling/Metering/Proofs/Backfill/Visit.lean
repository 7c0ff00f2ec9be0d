import Metering.Proofs.Backfill.Budget
import Metering.Proofs.Registry.Freshness

/-!
What the run of one meter comes to, by what the registry has of the meter. However its requests are
answered, it stores no more than it may, and when it ends well it tells how much (`Visit.Alone.counts`). It
ends with a copy of its meter that has the progress of the registry, or has learned nothing of it
(`Visit.Alone.known`). So the snapshot falls behind only when a run fails after it has stored something
(`Visit.Alone.behind`).
-/
namespace Metering

namespace Backfill

open Program (Executes)
open Progress (lags lags_self)

/-- What the registry has of one meter. -/
structure Shelf where
  record : Option Meter
  /-- The progress that was stored, the latest at the end. -/
  stored : List Progress

/-- How a request about a meter may be answered. A save may be reported as failed and be done all the
same. -/
inductive Shelf.Answers (b : Shelf) : (r : BackfillRequest) → r.Answer → Shelf → Prop where
  | claimed {space id : String} {a : Bool} : Answers b (.claim space id) a b
  | released {space id : String} : Answers b (.release space id) () b
  | read {space id : String} {m : Meter} (found : ∀ n, b.record = some n → m = n) :
      Answers b (.stored space id) (.ok m) b
  | unread {space id : String} {e : StoreError} : Answers b (.stored space id) (.error e) b
  | surveyed {selection : Selection} {a : Except StoreError (Option Instant)} :
      Answers b (.earliest selection) a b
  | copied {i : ChunkImport} {a : Except StoreError Unit} : Answers b (.copy i) a b
  | saved {space id : String} {p : Progress} {n : Meter} {a : Except StoreError Unit}
      (found : b.record = some n) :
      Answers b (.save space id p) a ⟨some { n with progress := some p }, b.stored ++ [p]⟩
  | unsaved {space id : String} {p : Progress} {e : StoreError} :
      Answers b (.save space id p) (.error e) b

/-- A visit of a pass: a meter as the snapshot had it, what its run came to, and its shelf afterwards. -/
structure Visit where
  meter : Meter
  result : Meter × Except Error StepOutcome
  shelf : Shelf

namespace Visit

def key (v : Visit) : Key := keyOf v.meter

/-- The run of the meter, made alone. -/
def Alone (s : BackfillSettings) (stepsPerTick : Nat) (now : Instant) (shelves : Key → Shelf)
    (v : Visit) : Prop :=
  Executes Shelf.Answers (shelves v.key) (run s v.meter stepsPerTick now) v.shelf v.result

/-- Whether the run ended with a failure. -/
def failed (v : Visit) : Bool :=
  match v.result.2 with
  | .error _ => true
  | .ok _ => false

/-- The progress that the snapshot has for the meter afterwards. -/
def cached (v : Visit) : Option Progress :=
  if v.failed then v.meter.progress else v.result.1.progress.or v.meter.progress

end Visit

variable {s : BackfillSettings} {now : Instant} {stepsPerTick : Nat}

/-- What a run was told about its meter is so. -/
structure Truthful (k : Key) (b : Shelf) (K : Told) : Prop where
  listed : K.listed = [k]
  known : ∀ k p, K.known = some (k, p) → ∀ n, b.record = some n → n.progress = p

theorem Truthful.answer {k : Key} {b b' : Shelf} {K : Told} (h : Truthful k b K)
    {r : BackfillRequest} {a : r.Answer} (answers : b.Answers r a b') :
    Truthful k b' (K.after (.backfill r) a) := by
  cases answers with
  | claimed => exact h
  | released => exact h
  | @read _ _ m found =>
    refine ⟨h.listed, fun k p known n held => ?_⟩
    cases known
    rw [found n held]
  | unread => exact h
  | surveyed => exact h
  | copied => exact h
  | @saved _ _ p n a found =>
    cases a with
    | error e => exact ⟨h.listed, fun k p known => by cases known⟩
    | ok done =>
      refine ⟨h.listed, fun k p known n held => ?_⟩
      cases known
      cases held
      rfl
  | unsaved => exact ⟨h.listed, fun k p known => by cases known⟩

theorem persists_of_answers {b b' : Shelf} {r : BackfillRequest} {a : r.Answer}
    (answers : b.Answers r a b') : Persists b.stored.length r a b'.stored.length := by
  cases answers with
  | saved found =>
    rw [List.length_append]
    exact .saved
  | unsaved => exact .unsaved
  | _ => exact .other (by simp)

/-- A shelf on which nothing more was stored is as it was. -/
theorem executes_stored {α : Type} {b b' : Shelf} {p : Backfilling α} {a : α}
    (ran : Executes Shelf.Answers b p b' a) :
    ∃ more, b'.stored = b.stored ++ more ∧ (more = [] → b' = b) := by
  induction ran with
  | done => exact ⟨[], (List.append_nil _).symm, fun _ => rfl⟩
  | @ask b τ _ _ _ _ _ answered _ ih =>
    obtain ⟨more, stored, same⟩ := ih
    have kept (is : τ = b) : ∃ more, _ = b.stored ++ more ∧ (more = [] → _ = b) :=
      ⟨more, is ▸ stored, fun none => (same none).trans is⟩
    cases answered with
    | @saved _ _ p n _ found =>
      refine ⟨p :: more, ?_, fun none => absurd none (List.cons_ne_nil p more)⟩
      rw [stored, List.append_assoc]
      rfl
    | _ => exact kept rfl

namespace Visit

variable {v : Visit} {shelves : Key → Shelf}

theorem Alone.unchanged (h : v.Alone s stepsPerTick now shelves) (empty : (shelves v.key).stored = [])
    (none : v.shelf.stored = []) : v.shelf = shelves v.key := by
  obtain ⟨more, stored, same⟩ := executes_stored h
  rw [none, empty, List.nil_append] at stored
  exact same stored.symm

/-- A run stores as many transitions as its budget allows, and tells how many if it ends well. -/
theorem Alone.counts (h : v.Alone s stepsPerTick now shelves) (empty : (shelves v.key).stored = []) :
    v.shelf.stored.length ≤ stepsPerTick ∧
      ∀ outcome, v.result.2 = .ok outcome → outcome.consumed = v.shelf.stored.length := by
  have counts := ((run_within_budget s).2 v.meter stepsPerTick now).2
  obtain ⟨n, rfl, most, told⟩ := h.ensures (fun b n => b.stored.length = n) (by rw [empty]; rfl) counts
    fun along _ answers => ⟨_, along ▸ persists_of_answers answers, rfl⟩
  exact ⟨most, fun outcome ok => by rw [told outcome ok, Nat.zero_add]⟩

/-- A run ends with a copy of its meter: as it was, or with the progress that the registry has. -/
theorem Alone.known (h : v.Alone s stepsPerTick now shelves) :
    SameDefinition v.meter v.result.1 ∧ ∀ outcome, v.result.2 = .ok outcome →
      (v.result.1 = v.meter ∧ ∀ n, v.shelf.record = some n →
        n.progress = (shelves v.key).record.bind Meter.progress) ∨
      ∀ n, v.shelf.record = some n → n.progress = v.result.1.progress := by
  let K : Told := ⟨[v.key], some (v.key, (shelves v.key).record.bind Meter.progress)⟩
  have start : Truthful v.key (shelves v.key) K := by
    refine ⟨rfl, fun k p known n held => ?_⟩
    cases known
    rw [held]
    rfl
  have knows : KnowsStep (EndsKnown v.meter K) K (run s v.meter stepsPerTick now) :=
    runFrom_knows List.mem_cons_self 0 stepsPerTick
  obtain ⟨K', truthful, ends⟩ := h.ensures (Truthful v.key) start knows
    fun along _ answers => ⟨_, rfl, along.answer answers⟩
  refine ⟨ends.same, fun outcome ok => ?_⟩
  rcases ends.known outcome ok with ⟨same, rfl⟩ | known
  · exact .inl ⟨same, truthful.known _ _ rfl⟩
  · exact .inr (truthful.known _ _ known)

/-- The snapshot is left behind by a run that fails after it has stored something. Otherwise it is behind
only if it was before, and the run did not come to know more. -/
theorem Alone.behind (h : v.Alone s stepsPerTick now shelves) (empty : (shelves v.key).stored = [])
    {n : Meter} (held : v.shelf.record = some n) (behind : lags v.cached n.progress = true) :
    v.failed = true ∧ v.shelf.stored ≠ [] ∨ (v.failed = true ∨ v.result.1 = v.meter) ∧
      ∃ n, (shelves v.key).record = some n ∧ lags v.meter.progress n.progress = true := by
  cases fails : v.failed with
  | true =>
    by_cases none : v.shelf.stored = []
    · rw [cached, if_pos fails] at behind
      exact .inr ⟨.inl rfl, n, h.unchanged empty none ▸ held, behind⟩
    · exact .inl ⟨rfl, none⟩
  | false =>
    obtain ⟨outcome, ok⟩ : ∃ outcome, v.result.2 = .ok outcome := by
      cases result : v.result.2 with
      | error e => simp [failed, result] at fails
      | ok outcome => exact ⟨outcome, rfl⟩
    have shown : v.cached = v.result.1.progress.or v.meter.progress := by
      rw [cached, fails]
      rfl
    rcases h.known.2 outcome ok with ⟨same, kept⟩ | known
    · rw [shown, same, Option.or_self, kept n held] at behind
      refine .inr ⟨.inr same, ?_⟩
      cases before : (shelves v.key).record with
      | none =>
        rw [before] at behind
        cases v.meter.progress <;> cases behind
      | some n =>
        rw [before] at behind
        exact ⟨n, rfl, behind⟩
    · -- what was come to know is in the snapshot
      rw [shown, known n held] at behind
      cases progress : v.result.1.progress with
      | none =>
        rw [progress, Option.none_or] at behind
        cases v.meter.progress <;> cases behind
      | some p =>
        rw [progress, Option.some_or, lags_self] at behind
        cases behind

end Visit

end Backfill

end Metering
