import Metering.Proofs.Calendar.Instant
import Metering.Proofs.Query.Groups
import Metering.Proofs.Window.Grid

/-!
What queries of one meter can see when they differ in nothing but their range and their windows: the
times of data that cannot be read, and the numbers with their subjects. A range sees what its parts
see, and a window that lies in one of the parts sees nothing of the others.
-/
namespace Metering

variable {Q : Type}

/-- Times in a period, to the microsecond. -/
def Period.holds (p : Period) (t : Instant) : Bool :=
  p.start.microsecondStart ≤ t && t < p.stop.microsecondStart

theorem Period.holds_iff {p : Period} {t : Instant} :
    p.holds t = true ↔ p.start.microsecondStart ≤ t ∧ t < p.stop.microsecondStart := by
  simp [holds]

theorem Period.holds_split {a b c : Instant} (first : a ≤ b) (second : b ≤ c) (t : Instant) :
    Period.holds ⟨a, c⟩ t = (Period.holds ⟨a, b⟩ t || Period.holds ⟨b, c⟩ t) := by
  have first := Instant.microsecondStart_mono first
  have second := Instant.microsecondStart_mono second
  rw [Bool.eq_iff_iff, Bool.or_eq_true, Period.holds_iff, Period.holds_iff, Period.holds_iff]
  simp only [Instant.le_iff, Instant.lt_iff] at first second ⊢
  omega

structure View (Q : Type) where
  aggregation : Aggregation
  /-- Why there is no answer, if there is none. -/
  fault : Error
  /-- Whether there is no answer for any range. -/
  broken : Bool
  /-- The times of data that cannot be read. -/
  unreadable : List Instant
  /-- The numbers with their subjects, if those are asked for. -/
  points : List (Option String × Reading Q)

/-- An instant as a row shows it. -/
def Instant.shown (t : Instant) : Instant := .ofMicros t.micros

/-- Items put together by a key that is one of some keys. -/
theorem flatMap_filter_perm {α κ : Type} [BEq κ] [LawfulBEq κ] (f : α → κ) {keys : List κ}
    (nodup : keys.Nodup) {items : List α} (known : ∀ i ∈ items, f i ∈ keys) :
    (keys.flatMap fun key => items.filter fun i => f i == key).Perm items := by
  induction keys generalizing items with
  | nil =>
    cases items with
    | nil => exact .refl _
    | cons i items => exact absurd (known i List.mem_cons_self) List.not_mem_nil
  | cons key keys ih =>
    obtain ⟨fresh, nodup⟩ := List.nodup_cons.1 nodup
    have others : (keys.flatMap fun key' => items.filter fun i => f i == key') =
        keys.flatMap fun key' => (items.filter fun i => !(f i == key)).filter fun i => f i == key' := by
      refine List.flatMap_congr fun key' mem => ?_
      rw [List.filter_filter]
      refine List.filter_congr fun i _ => ?_
      cases here : f i == key' with
      | false => rfl
      | true =>
        have ne : key' ≠ key := fun same => fresh (same ▸ mem)
        rw [beq_iff_eq.1 here]
        simp [ne]
    rw [List.flatMap_cons, others]
    refine ((ih nodup fun i mem => ?_).append_left _).trans (List.filter_append_perm _ _)
    obtain ⟨mem, other⟩ := List.mem_filter.1 mem
    rcases List.mem_cons.1 (known i mem) with same | mem
    · simp [same] at other
    · exact mem

namespace View

/-- Whether a range has an answer. -/
def Ready (v : View Q) (range : Period) : Prop :=
  v.broken = false ∧ ∀ t ∈ v.unreadable, range.holds t = false

instance (v : View Q) (range : Period) : Decidable (v.Ready range) :=
  inferInstanceAs (Decidable (_ ∧ _))

def inside (v : View Q) (range : Period) : List (Option String × Reading Q) :=
  v.points.filter fun p => range.holds p.2.1

/-- The points of a list that lie in a window. -/
def during (size : WindowSize) (k : Int) (points : List (Option String × Reading Q)) :
    List (Option String × Reading Q) :=
  points.filter fun p => size.number p.2.1 == k

variable {v : View Q} {size : WindowSize} {a b c : Instant} {i j k : Int}

theorem ready_split (first : a ≤ b) (second : b ≤ c) :
    v.Ready ⟨a, c⟩ ↔ v.Ready ⟨a, b⟩ ∧ v.Ready ⟨b, c⟩ := by
  simp only [Ready, Period.holds_split first second, Bool.or_eq_false_iff]
  constructor
  · rintro ⟨whole, outside⟩
    exact ⟨⟨whole, fun t mem => (outside t mem).1⟩, whole, fun t mem => (outside t mem).2⟩
  · rintro ⟨⟨whole, left⟩, -, right⟩
    exact ⟨whole, fun t mem => ⟨left t mem, right t mem⟩⟩

theorem ready_boundaries (h : i ≤ j) (whole : v.broken = false) :
    v.Ready ⟨size.boundary i, size.boundary j⟩ ↔ ∀ k ∈ Int.range i j, v.Ready (size.window k) := by
  obtain ⟨n, rfl⟩ := Int.le.dest h
  induction n generalizing i with
  | zero =>
    have none : Int.range i (i + ((0 : Nat) : Int)) = [] := range_eq_nil (by omega)
    have same : i + ((0 : Nat) : Int) = i := by omega
    rw [none, same]
    constructor
    · exact fun _ _ mem => absurd mem List.not_mem_nil
    · refine fun _ => ⟨whole, fun t _ => ?_⟩
      rw [← Bool.not_eq_true, Period.holds_iff]
      simp only [Instant.le_iff, Instant.lt_iff]
      omega
  | succ n ih =>
    have step : i + ↑(n + 1) = i + 1 + (n : Int) := by omega
    rw [step, range_eq_cons (by omega : i < i + 1 + (n : Int)), List.forall_mem_cons,
      ← ih (by omega)]
    exact ready_split (size.boundary_mono (by omega)) (size.boundary_mono (by omega))

/-- Some windows have an answer together if each of them has one. -/
theorem ready_run (h : i < j) : v.Ready ⟨size.boundary i, size.boundary j⟩ ↔
    ∀ k ∈ Int.range i j, v.Ready (size.window k) := by
  constructor
  · exact fun ready => (ready_boundaries (by omega) ready.1).1 ready
  · intro all
    have first := all i (Int.mem_range_iff.2 ⟨Int.le_refl i, h⟩)
    exact (ready_boundaries (by omega) first.1).2 all

end View

end Metering
