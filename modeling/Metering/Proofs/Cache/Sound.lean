import Metering.Proofs.Cache.Merge
import Metering.Proofs.Cache.Table

/-!
What stored rows mean. A stored row is a row of its window or says that its group has none there, and a
window of which any row is stored has all of its rows stored (`Sound`). Writing rows of whole windows
keeps it so (`Sound.store`), and therefore a lookup finds all rows of the windows it finds anything of
(`Sound.lookup_perm`).
-/
namespace Metering

variable {Q : Type}

variable [Quantity Q]

namespace View

def Finite (v : View Q) : Prop := ∀ p ∈ v.points, Quantity.isFinite p.2.2 = true

variable {v : View Q} {size : WindowSize} {k : Int} {r s : Row Q}

theorem start_of_mem_rowsAt (mem : r ∈ v.rowsAt size k) :
    r.start = size.boundary k ∧ r.stop = size.boundary (k + 1) ∧ r.Plain := by
  obtain ⟨value, -, is⟩ := mem_groupRows.1 mem
  rw [is]
  exact ⟨rfl, rfl, rfl, rfl⟩

/-- A window has one row for each group. -/
theorem eq_of_groupKey (hr : r ∈ v.rowsAt size k) (hs : s ∈ v.rowsAt size k)
    (same : r.groupKey = s.groupKey) : r = s := by
  have subject := (start_of_mem_rowsAt hr).2.2.subject_eq (start_of_mem_rowsAt hs).2.2 same
  obtain ⟨value, result, is⟩ := mem_groupRows.1 hr
  obtain ⟨value', result', is'⟩ := mem_groupRows.1 hs
  rw [← subject, result] at result'
  rw [is, is', ← subject, Option.some.inj result']

theorem nodup_rowsAt (v : View Q) (size : WindowSize) (k : Int) : (v.rowsAt size k).Nodup :=
  nodup_groupRows

/-- The rows of different windows start at different times. -/
theorem nodup_flatMap_rowsAt (v : View Q) (size : WindowSize) {numbers : List Int}
    (nodup : numbers.Nodup) : (numbers.flatMap (v.rowsAt size)).Nodup := by
  refine List.nodup_flatMap.2 ⟨fun k _ => v.nodup_rowsAt size k, nodup.imp fun ne r mem mem' => ?_⟩
  have start := (start_of_mem_rowsAt mem).1
  rw [(start_of_mem_rowsAt mem').1] at start
  exact ne (WindowSize.boundary_injective start).symm

variable [ExactQuantity Q]

theorem real_of_mem_groupRows {points : List (Option String × Reading Q)} {start stop : Instant}
    {a : Aggregation} (combinable : a.isCombinable = true)
    (finite : ∀ p ∈ points, Quantity.isFinite p.2.2 = true)
    (mem : r ∈ groupRows a start stop points) : r.isPlaceholder = false := by
  obtain ⟨value, result, is⟩ := mem_groupRows.1 mem
  rw [is]
  refine ExactQuantity.defined (Aggregation.finite_resultOf? combinable (fun reading there => ?_) result)
  exact finite _ (mem_valuesAt.1 there)

/-- Rows with numbers are no placeholders. -/
theorem real_of_mem_rowsAt (combinable : v.aggregation.isCombinable = true) (finite : v.Finite)
    (mem : r ∈ v.rowsAt size k) : r.isPlaceholder = false :=
  real_of_mem_groupRows combinable (fun p there => finite p (List.mem_filter.1 there).1) mem

end View

/-- A stored row of a window: a row of the window, or a sign that its group has none there. -/
structure Valid (v : View Q) (size : WindowSize) (k : Int) (r : Row Q) : Prop where
  start : r.start = size.boundary k
  stop : r.stop = size.boundary (k + 1)
  ready : v.Ready (size.window k)
  real : r.isPlaceholder = false → r ∈ v.rowsAt size k
  empty : r.isPlaceholder = true → ∀ s ∈ v.rowsAt size k, s.groupKey ≠ r.groupKey

/-- A name for the rows in windows of each of some sizes. -/
structure Naming where
  sizes : List WindowSize
  name : WindowSize → String
  apart : ∀ size ∈ sizes, ∀ size' ∈ sizes, name size = name size' → size = size'

/-- The rows stored for a meter and a query, under one name for each window size. -/
structure Sound (v : View Q) (space : String) (n : Naming) (t : CacheTable Q) : Prop where
  unique : t.Unique
  valid : ∀ size ∈ n.sizes, ∀ r, ⟨space, n.name size, r⟩ ∈ t → ∃ k, Valid v size k r
  /-- All rows of a window are stored if one is. -/
  whole : ∀ size ∈ n.sizes, ∀ r, ⟨space, n.name size, r⟩ ∈ t → ∀ k, r.start = size.boundary k →
    ∀ s ∈ v.rowsAt size k, ⟨space, n.name size, s⟩ ∈ t

namespace Sound

variable {v : View Q} {space : String} {n : Naming} {t : CacheTable Q} {size : WindowSize}
  {rows : List (Row Q)}

theorem empty (v : View Q) (space : String) (n : Naming) : Sound v space n [] where
  unique := .nil
  valid _ _ _ mem := absurd mem List.not_mem_nil
  whole _ _ _ mem := absurd mem List.not_mem_nil

/-- Whole windows may be written, whether some of them are there already or not. -/
theorem store (sound : Sound v space n t) (used : size ∈ n.sizes)
    (valid : ∀ r ∈ rows, ∃ k, Valid v size k r)
    (whole : ∀ r ∈ rows, ∀ k, r.start = size.boundary k → ∀ s ∈ v.rowsAt size k, s ∈ rows) :
    Sound v space n (t.store space (n.name size) rows) := by
  have validity : ∀ size' ∈ n.sizes, ∀ r,
      ⟨space, n.name size', r⟩ ∈ t.store space (n.name size) rows → ∃ k, Valid v size' k r := by
    intro size' used' r mem
    rcases CacheTable.mem_store mem with old | ⟨s, fresh, is⟩
    · exact sound.valid size' used' r old
    · obtain ⟨-, named, rfl⟩ := CachedRow.mk.inj is
      obtain rfl := n.apart _ used' _ used named
      exact valid r fresh
  -- A row that was not written has met a row of its own window and group, and that row is itself.
  have written : ∀ r ∈ rows, ∀ k, r.start = size.boundary k → ∀ s ∈ v.rowsAt size k,
      ⟨space, n.name size, s⟩ ∈ t.store space (n.name size) rows := by
    intro r mem k start s hs
    obtain ⟨⟨space', name', d⟩, there, first, -, named, own, key⟩ :=
      CacheTable.exists_sameKey_store t space (n.name size) (whole r mem k start s hs)
    obtain rfl : name' = n.name size := named
    obtain rfl : space' = space := own
    obtain ⟨l, hd⟩ := validity size used d there
    have number : l = k := WindowSize.boundary_injective
      (hd.start.symm.trans (first.trans (View.start_of_mem_rowsAt hs).1))
    subst number
    cases placeholder : d.isPlaceholder with
    | true => exact absurd key.symm (hd.empty placeholder s hs)
    | false =>
      rw [← View.eq_of_groupKey (hd.real placeholder) hs key]
      exact there
  refine ⟨CacheTable.unique_store sound.unique, validity, ?_⟩
  intro size' used' r mem k start s hs
  rcases CacheTable.mem_store mem with old | ⟨r', fresh, is⟩
  · exact CacheTable.mem_store_of_mem (sound.whole size' used' r old k start s hs)
  · obtain ⟨-, named, rfl⟩ := CachedRow.mk.inj is
    obtain rfl := n.apart _ used' _ used named
    exact written r fresh k start s hs

variable [ExactQuantity Q]

/-- A lookup finds all rows of the windows that it finds anything of. -/
theorem lookup_perm (sound : Sound v space n t) (used : size ∈ n.sizes)
    (combinable : v.aggregation.isCombinable = true)
    (finite : v.Finite) (i j : Int) :
    (Row.real (t.lookup space (n.name size) ⟨size.boundary i, size.boundary j⟩)).Perm
      ((covered size i j (t.lookup space (n.name size) ⟨size.boundary i, size.boundary j⟩)).flatMap
        (v.rowsAt size)) := by
  have nodup := (CacheTable.nodup_lookup sound.unique space (n.name size)
    ⟨size.boundary i, size.boundary j⟩).filter fun r => !r.isPlaceholder
  refine (List.perm_ext_iff_of_nodup nodup
    (v.nodup_flatMap_rowsAt size ((nodup_range i j).filter _))).2 fun r => ?_
  rw [List.mem_filter, List.mem_flatMap]
  constructor
  · rintro ⟨found, real⟩
    obtain ⟨mem, first, last⟩ := CacheTable.mem_lookup.1 found
    obtain ⟨k, hr⟩ := sound.valid size used r mem
    refine ⟨k, mem_covered.2 ⟨?_, r, found, hr.start⟩, hr.real (by simpa using real)⟩
    rw [hr.start] at first
    rw [hr.stop] at last
    have low := WindowSize.boundary_le_iff.1 first
    have high := WindowSize.boundary_le_iff.1 last
    omega
  · rintro ⟨k, mem, hr⟩
    obtain ⟨⟨low, high⟩, s, found, start⟩ := mem_covered.1 mem
    have stored := sound.whole size used s (CacheTable.mem_lookup.1 found).1 k start r hr
    obtain ⟨first, last, -⟩ := View.start_of_mem_rowsAt hr
    refine ⟨CacheTable.mem_lookup.2 ⟨stored, ?_, ?_⟩, ?_⟩
    · rw [first]
      exact size.boundary_mono low
    · rw [last]
      exact size.boundary_mono high
    · rw [View.real_of_mem_rowsAt combinable finite hr]
      rfl

end Sound

end Metering
