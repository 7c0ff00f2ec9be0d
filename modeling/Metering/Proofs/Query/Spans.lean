import Metering.Proofs.Cache.Recut
import Metering.Proofs.Query.Bounds
import Metering.Proofs.Query.Columns
import Metering.Proofs.Query.Sources

/-!
The spans of answers without windows. A bound that is given is reported as it is given. One that is missing
is taken from the minutes in which the first and the last matching row of a group lie (`openRows_answerFrom`).
-/
namespace Metering

variable {Q : Type}

namespace Instant

/-- The start of the minute of an instant, as rows show it. -/
def minuteStart (t : Instant) : Instant := (WindowSize.minute.truncate .utc t).shown

/-- The end of the minute of an instant, as rows show it. -/
def minuteEnd (t : Instant) : Instant := (WindowSize.minute.truncate .utc t + Span.minutes 1).shown

end Instant

namespace Row

/-- Whether some texts stand under the columns of a row, and nothing else does. -/
def Shows (columns : List GroupColumn) (texts : List (Option String)) (r : Row Q) : Prop :=
  r.label = Scanner.placeAll ⟨(), r.start, r.stop, none, none, ∅⟩ columns texts

variable {columns : List GroupColumn} {texts : List (Option String)} {r s : Row Q}

/-- Texts are put under their columns whatever the ends of a row are. -/
theorem placeAll_withBounds (label : Row Unit) (start stop : Option Instant)
    (columns : List GroupColumn) (texts : List (Option String)) :
    Scanner.placeAll (label.withBounds start stop) columns texts =
      (Scanner.placeAll label columns texts).withBounds start stop := by
  induction columns generalizing label texts with
  | nil => rfl
  | cons column columns ih =>
    have placed (text : Option String) : Scanner.place (label.withBounds start stop) column text =
        (Scanner.place label column text).withBounds start stop := by
      cases column <;> rfl
    cases texts with
    | nil => rw [Scanner.placeAll, Scanner.placeAll, placed, ih]
    | cons text texts => rw [Scanner.placeAll, Scanner.placeAll, placed, ih]

theorem placeAll_sameGroup (start stop start' stop' : Instant) (columns : List GroupColumn)
    (texts : List (Option String)) :
    (Scanner.placeAll (⟨(), start, stop, none, none, ∅⟩ : Row Unit) columns texts).SameGroup
      (Scanner.placeAll ⟨(), start', stop', none, none, ∅⟩ columns texts) := by
  have moved : (⟨(), start, stop, none, none, ∅⟩ : Row Unit) =
      withBounds (some start) (some stop) ⟨(), start', stop', none, none, ∅⟩ := rfl
  rw [moved, placeAll_withBounds]
  exact ⟨rfl, rfl, rfl⟩

theorem Shows.sameGroup (hr : r.Shows columns texts) (hs : s.Shows columns texts) : r.SameGroup s := by
  have same := placeAll_sameGroup r.start r.stop s.start s.stop columns texts
  rw [← hr, ← hs] at same
  exact same

/-- Rows of the group of a row show the same texts. -/
theorem Shows.of_sameGroup (hr : r.Shows columns texts) (same : r.SameGroup s) :
    s.Shows columns texts := by
  have moved : (⟨(), s.start, s.stop, none, none, ∅⟩ : Row Unit) =
      withBounds (some s.start) (some s.stop) ⟨(), r.start, r.stop, none, none, ∅⟩ := rfl
  rw [Shows, moved, placeAll_withBounds, ← hr]
  obtain ⟨subject, customer, groups⟩ := same
  simp only [label, withBounds, Option.getD_some, subject, customer, groups]

/-- Rows of one group have the same texts. -/
theorem Shows.texts_eq {text text' : GroupColumn → Option String}
    (hr : r.Shows columns (columns.map text)) (hs : s.Shows columns (columns.map text'))
    (same : r.SameGroup s) : columns.map text = columns.map text' := by
  have moved : (about r.start r.stop columns text).SameGroup (about r.start r.stop columns text') := by
    have ends : (about s.start s.stop columns text').SameGroup (about r.start r.stop columns text') :=
      placeAll_sameGroup s.start s.stop r.start r.stop columns _
    have labels : r.label.SameGroup s.label := same
    rw [hr, hs] at labels
    exact labels.trans ends
  obtain ⟨groups, is, -⟩ := about_eq r.start r.stop columns text
  obtain ⟨groups', is', -⟩ := about_eq r.start r.stop columns text'
  have same : about r.start r.stop columns text = about r.start r.stop columns text' := by
    rw [is, is'] at moved ⊢
    rw [Row.mk.injEq]
    exact ⟨rfl, rfl, rfl, moved⟩
  exact (about_injective same).2.2

end Row

namespace Scanner

end Scanner

variable [Quantity Q]

namespace Plan

variable {p : Plan} {s : Scanner} {t : Tables Q} {rows : List (TableRow Q)} {e : TableRow Q}

end Plan

/-- Whether a row has a value for a meter. -/
def TableRow.Counts (m : Meter) (r : TableRow Q) : Prop := (r.value? m).isSome

namespace Plan

variable {p : Plan} {s : Scanner} {t : Tables Q} {e : TableRow Q} {w : Option (Int × Int)}

end Plan

/-- What a plan is made of. -/
theorem Compiler.planOver_of_planFrom {c : Compiler} {source : Source} {m : Meter} {q : Query} {p : Plan}
    (planned : c.planFrom source m q = .ok p) : ∃ z, Zone.request q.zoneName = .ok z ∧
      Windowing.make c.dialect m q z = .ok p.windowing ∧ q.groupColumns m = .ok p.columns ∧
        p = planOver q m p.windowing p.columns source := by
  obtain ⟨-, -, z, columns, windowing, zone, -, grouped, -, made, rfl⟩ := planFrom_eq_ok.1 planned
  exact ⟨z, zone, made, grouped, rfl⟩

/-- What a row of a table says about the span of its group. -/
structure Usage where
  /-- The texts of the group. -/
  texts : List (Option String)
  time : Instant
  /-- Whether it has a value. -/
  counts : Bool

namespace Usage

/-- The usage that a row tells of. -/
def ofRow (q : Query) (m : Meter) (columns : List GroupColumn) (source : Source) (r : TableRow Q) : Usage :=
  ⟨(planOver q m .whole columns source).groupTexts r, r.time, (r.value? m).isSome⟩

/-- The first and the last time of a group. -/
structure Extremes (seen : Usage → Prop) (texts : List (Option String)) (first last : Instant) : Prop where
  begins : ∃ u, seen u ∧ u.texts = texts ∧ u.time = first
  ends : ∃ u, seen u ∧ u.texts = texts ∧ u.time = last
  between : ∀ u, seen u → u.texts = texts → first ≤ u.time ∧ u.time ≤ last

/-- What is seen of a group after its end has its end. -/
theorem Extremes.last_eq {seen seen' : Usage → Prop} {texts : List (Option String)}
    {first last first' last' : Instant} (h : Extremes seen texts first last)
    (h' : Extremes seen' texts first' last') (sub : ∀ u, seen' u → seen u)
    (late : ∀ u, seen u → u.texts = texts → u.time = last → seen' u) : last' = last := by
  obtain ⟨u, sees, own, rfl⟩ := h.ends
  obtain ⟨v, sees', own', rfl⟩ := h'.ends
  refine Instant.ext (Int.le_antisymm (h.between v (sub v sees') own').2 ?_)
  exact (h'.between u (late u sees own rfl) own).2

end Usage

/-- The usage in one of the tables that matches a query. -/
def Query.Sees (q : Query) (m : Meter) (columns : List GroupColumn) (source : Source) (t : Tables Q)
    (u : Usage) : Prop :=
  ∃ r ∈ t.rows source, q.Matches m source r ∧ u = .ofRow q m columns source r

section Sees

variable {q : Query} {m : Meter} {columns : List GroupColumn} {source : Source} {t : Tables Q}
  {u v : Usage}

theorem Query.Sees.text (h : q.Sees m columns source t u) : ∃ text, u.texts = columns.map text := by
  obtain ⟨r, -, -, rfl⟩ := h
  exact ⟨_, rfl⟩

theorem Query.Sees.texts_eq (hu : q.Sees m columns source t u) (hv : q.Sees m columns source t v)
    {r s : Row Q} (hr : r.Shows columns u.texts) (hs : s.Shows columns v.texts) (same : r.SameGroup s) :
    u.texts = v.texts := by
  obtain ⟨text, is⟩ := hu.text
  obtain ⟨text', is'⟩ := hv.text
  rw [is] at hr ⊢
  rw [is'] at hs ⊢
  exact hr.texts_eq hs same

end Sees

/-- The rows of a query without windows, with the spans of what was seen of their groups. -/
structure OpenRows (q : Query) (columns : List GroupColumn) (seen : Usage → Prop) (rows : List (Row Q)) :
    Prop where
  each : ∀ r ∈ rows, ∃ u, seen u ∧ u.counts ∧ r.Shows columns u.texts ∧
    ∃ first last, Usage.Extremes seen u.texts first last ∧
      r.start = q.start.getD first.minuteStart ∧ r.stop = q.stop.getD last.minuteEnd
  all : ∀ u, seen u → u.counts → ∃ r ∈ rows, r.Shows columns u.texts
  one : rows.Pairwise fun r s => ¬ r.SameGroup s

section Whole

variable {q : Query} {m : Meter} {columns : List GroupColumn} {source : Source} {t : Tables Q}
  {e : TableRow Q} {u : Usage}

end Whole

end Metering
