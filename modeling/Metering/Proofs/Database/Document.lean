import Mathlib.Data.Option.Basic
import Metering.Database.Tables
import Metering.Meter.Extract
import Metering.Proofs.Database.Number
import Metering.Proofs.Database.Path

/-!
What live ingestion and the database find at a path of the same data. The steps lead to the same place
unless a key stands twice in an object on the way: live ingestion takes the last of its values, the
database the first. A scalar has the same text for both; the text that the database has of an array or
an object spells no number, and live ingestion has none.
-/
namespace Metering

open Json

namespace Document

/-- The value that live ingestion reads of a part of the data. -/
abbrev Reads (t : Tree) (v : Value) : Prop := t.value? = some v

theorem forall₂_values {items : List Tree} {values : List Value}
    (h : Tree.values? items = some values) : List.Forall₂ Reads items values := by
  induction items generalizing values with
  | nil =>
    cases h
    exact .nil
  | cons t items ih =>
    simp only [Tree.values?, Option.bind_eq_bind, Option.bind_eq_some_iff, Option.pure_def,
      Option.some.injEq] at h
    obtain ⟨v, first, vs, rest, rfl⟩ := h
    exact .cons first (ih rest)

/-- A field is read with its key, which must be whole. -/
def ReadsField (f : Option String × Tree) (g : String × Value) : Prop :=
  f.1 = some g.1 ∧ Reads f.2 g.2

theorem forall₂_fieldValues {fields : List (Option String × Tree)} {values : List (String × Value)}
    (h : Tree.fieldValues? fields = some values) : List.Forall₂ ReadsField fields values := by
  induction fields generalizing values with
  | nil =>
    cases h
    exact .nil
  | cons f fields ih =>
    obtain ⟨key, t⟩ := f
    simp only [Tree.fieldValues?, Option.bind_eq_bind, Option.bind_eq_some_iff, Option.pure_def,
      Option.some.injEq] at h
    obtain ⟨k, whole, v, first, vs, rest, rfl⟩ := h
    exact .cons ⟨whole, first⟩ (ih rest)

end Document

namespace Json.Value

/-- Arrays and objects. -/
def isContainer : Value → Bool
  | .array _ | .object _ => true
  | _ => false

variable {name key : String} {v : Value}

theorem lookup_field (w : Value) (fields : List (String × Value)) :
    ((key, w) :: fields).lookup name = if name = key then some w else fields.lookup name := by
  rw [List.lookup_cons]
  by_cases same : name = key
  · rw [if_pos same, beq_iff_eq.2 same]
  · rw [if_neg same, beq_eq_false_iff_ne.2 same]

theorem lookup_setField (fields : List (String × Value)) :
    (setField key v fields).lookup name = if name = key then some v else fields.lookup name := by
  induction fields with
  | nil => exact lookup_field v []
  | cons f fields ih =>
    obtain ⟨k, w⟩ := f
    rw [setField]
    by_cases found : k = key
    · subst found
      rw [if_pos rfl, lookup_field, lookup_field]
      split <;> rfl
    · rw [if_neg found, lookup_field, lookup_field, ih]
      by_cases same : name = k
      · rw [if_pos same, if_neg fun is => found (same.symm.trans is), if_pos same]
      · rw [if_neg same, if_neg same]

/-- Of the values of a key that stands once, the first is the last. -/
theorem lookup_foldl_setField {fields : List (String × Value)}
    (once : (fields.countP fun f => f.1 == name) ≤ 1) (acc : List (String × Value)) :
    (fields.foldl (fun acc f => setField f.1 f.2 acc) acc).lookup name =
      (fields.lookup name).or (acc.lookup name) := by
  induction fields generalizing acc with
  | nil => rfl
  | cons f fields ih =>
    obtain ⟨k, w⟩ := f
    rw [List.countP_cons] at once
    rw [List.foldl_cons, ih (by omega), lookup_setField, lookup_field]
    by_cases same : name = k
    · have absent : fields.lookup name = none := by
        rw [List.lookup_eq_none_iff]
        intro f mem
        rw [same, if_pos (beq_self_eq_true k)] at once
        have other := List.countP_eq_zero.1 (by omega : fields.countP (fun f => f.1 == k) = 0) f mem
        rw [bne_iff_ne]
        exact fun is => other (beq_iff_eq.2 (is.symm.trans same))
      rw [if_pos same, if_pos same, absent]
      rfl
    · rw [if_neg same, if_neg same]

end Json.Value

namespace Document

/-- How many fields of an object have a name. -/
def fieldsNamed (name : String) : Tree → Nat
  | .object fields => fields.countP fun f => f.1 == some name
  | _ => 0

/-- Whether no object on the way has the key of the next step twice. -/
def isClear (t : Tree) : Path → Bool
  | [] => true
  | s :: path =>
    (match s with
      | .key name => decide (fieldsNamed name t ≤ 1)
      | .index _ => true) &&
    (select? t (.ofStep s)).all fun u => isClear u path

/-- Fields and their values under a name, of which there are as many. -/
theorem find?_lookup (name : String) {fields : List (Option String × Tree)}
    {values : List (String × Value)} (h : List.Forall₂ ReadsField fields values) :
    (fields.countP fun f => f.1 == some name) = (values.countP fun g => g.1 == name) ∧
      Option.Rel Reads ((fields.find? fun f => f.1 == some name).map (·.2)) (values.lookup name) := by
  induction h with
  | nil => exact ⟨rfl, .none⟩
  | @cons f g fields values first rest ih =>
    obtain ⟨key, t⟩ := f
    obtain ⟨k, v⟩ := g
    obtain ⟨rfl, reads⟩ := first
    rw [List.countP_cons, List.countP_cons, List.find?_cons, Value.lookup_field, ih.1]
    by_cases same : k = name
    · subst same
      simpa using Option.Rel.some reads
    · have other : name ≠ k := fun is => same is.symm
      simpa [beq_eq_false_iff_ne.2 same, same, other] using ih.2

theorem getElem?_reads {items : List Tree} {values : List Value}
    (h : List.Forall₂ Reads items values) (n : Nat) : Option.Rel Reads items[n]? values[n]? := by
  induction h generalizing n with
  | nil => exact .none
  | cons first rest ih =>
    cases n with
    | zero => exact .some first
    | succ n => exact ih n

/-- A step leads both readers to the same part of an array or an object, or neither anywhere. -/
theorem select?_reads {t : Tree} {v : Value} (reads : Reads t v) {s : PathStep}
    (once : ∀ name, s = .key name → fieldsNamed name t ≤ 1) :
    Option.Rel Reads (select? t (.ofStep s)) (v.step? s) := by
  cases t with
  | null | bool =>
    cases reads
    cases s <;> exact .none
  | number | string =>
    obtain ⟨x, -, rfl⟩ := Option.map_eq_some_iff.1 reads
    cases s <;> exact .none
  | tooDeep => exact absurd reads (by simp [Reads, Tree.value?])
  | array items =>
    obtain ⟨values, each, rfl⟩ := Option.map_eq_some_iff.1 reads
    cases s with
    | key name => exact .none
    | index n => exact getElem?_reads (forall₂_values each) n
  | object fields =>
    obtain ⟨values, each, rfl⟩ := Option.map_eq_some_iff.1 reads
    cases s with
    | index n => exact .none
    | key name =>
      obtain ⟨named, first⟩ := find?_lookup name (forall₂_fieldValues each)
      have once : (values.countP fun g => g.1 == name) ≤ 1 := named ▸ once name rfl
      have found : (Value.object (values.foldl (fun acc f => Value.setField f.1 f.2 acc) [])).step?
          (.key name) = values.lookup name := by
        show List.lookup name _ = _
        rw [Value.lookup_foldl_setField once, List.lookup_nil, Option.or_none]
      rw [found]
      exact first

/-- The steps lead both readers to the same part of the data, or neither anywhere. -/
theorem follow?_reads {t : Tree} {v : Value} (reads : Reads t v) {path : Path}
    (clear : isClear t path = true) :
    Option.Rel Reads (follow? t (path.map .ofStep)) (v.follow? path) := by
  induction path generalizing t v with
  | nil => exact .some reads
  | cons s path ih =>
    simp only [isClear, Bool.and_eq_true] at clear
    have once : ∀ name, s = .key name → fieldsNamed name t ≤ 1 := by
      rintro name rfl
      exact of_decide_eq_true clear.1
    have further := clear.2
    have step := select?_reads reads once
    rw [List.map_cons, follow?, Value.follow?]
    generalize select? t (.ofStep s) = here, v.step? s = there at step further ⊢
    cases step with
    | none => exact .none
    | some here => exact ih here (by simpa using further)

/-- What holds of all numbers of the data holds of the numbers that steps lead to. -/
theorem numbers_select? {P : Literal → Prop} {t u : Tree} {s : PathStep} (all : t.Numbers P)
    (here : select? t (.ofStep s) = some u) : u.Numbers P := by
  cases t with
  | array items =>
    cases s with
    | key name => exact absurd here (by simp [select?, Selector.ofStep])
    | index n =>
      rw [Tree.Numbers, Tree.itemNumbers_iff] at all
      exact all u (List.mem_of_getElem? here)
  | object fields =>
    cases s with
    | index n => exact absurd here (by simp [select?, Selector.ofStep])
    | key name =>
      rw [Tree.Numbers, Tree.fieldNumbers_iff] at all
      obtain ⟨f, found, rfl⟩ := Option.map_eq_some_iff.1 here
      exact all f (List.mem_of_find?_eq_some found)
  | null | bool | number | string | tooDeep => cases s <;> exact absurd here (by simp [select?])

theorem numbers_follow? {P : Literal → Prop} {t u : Tree} {path : Path} (all : t.Numbers P)
    (there : follow? t (path.map .ofStep) = some u) : u.Numbers P := by
  induction path generalizing t with
  | nil =>
    cases there
    exact all
  | cons s path ih =>
    rw [List.map_cons, follow?, Option.bind_eq_some_iff] at there
    obtain ⟨w, here, further⟩ := there
    exact ih (numbers_select? all here) further

/-- The float that the database reads from a text. -/
def textNumber? (s : String) : Option Float := Quantity.read? (Text.trimBlanks s.toList)

end Document

namespace Text

theorem dropBlanks_append {c : Char} (plain : isBlank c = false) (cs : List Char) :
    ∃ rest, dropBlanks (cs ++ [c]) = rest ++ [c] := by
  induction cs with
  | nil => exact ⟨[], by simp [dropBlanks, plain]⟩
  | cons d cs ih =>
    by_cases blank : isBlank d = true
    · obtain ⟨rest, is⟩ := ih
      exact ⟨rest, by rw [← is]; simp [dropBlanks, blank]⟩
    · exact ⟨d :: cs, by simp [dropBlanks, blank]⟩

/-- A text that begins with no blank keeps its first character. -/
theorem trimBlanks_cons {c : Char} (plain : isBlank c = false) (cs : List Char) :
    ∃ rest, trimBlanks (c :: cs) = c :: rest := by
  have first : dropBlanks (c :: cs) = c :: cs := by simp [dropBlanks, plain]
  obtain ⟨rest, is⟩ := dropBlanks_append plain cs.reverse
  exact ⟨rest.reverse, by rw [trimBlanks, first, List.reverse_cons, is]; simp⟩

end Text

namespace Document

/-- No numeral begins as an array or an object does. -/
theorem textNumber?_bracket {c : Char} (bracket : c = '[' ∨ c = '{') (cs : List Char) :
    textNumber? (String.ofList (c :: cs)) = none := by
  have plain : Text.isBlank c = false := by
    rcases bracket with rfl | rfl <;> decide
  obtain ⟨rest, is⟩ := Text.trimBlanks_cons plain cs
  have unread : Decimal.readFloat? (c :: rest) = none := by
    rcases bracket with rfl | rfl <;> rfl
  rw [textNumber?, String.toList_ofList, is]
  show (Decimal.readFloat? _).filter _ = none
  rw [unread, Option.filter_none]

theorem textNumber?_container {v : Value} (container : v.isContainer = true) :
    textNumber? v.text = none := by
  cases v with
  | array values => cases values <;> exact textNumber?_bracket (.inl rfl) _
  | object fields => cases fields <;> exact textNumber?_bracket (.inr rfl) _
  | null | bool | number | string => exact absurd container (by simp [Value.isContainer])

variable {t : Tree} {v : Value}

/-- The text of an array or an object is that of its value. -/
theorem text?_container (reads : Reads t v) (container : v.isContainer = true) :
    text? t = some v.text := by
  cases t with
  | null | bool =>
    cases reads
    exact absurd container (by simp [Value.isContainer])
  | number | string =>
    obtain ⟨x, -, rfl⟩ := Option.map_eq_some_iff.1 reads
    exact absurd container (by simp [Value.isContainer])
  | tooDeep => exact absurd reads (by simp [Reads, Tree.value?])
  | array | object =>
    rw [text?, show Tree.value? _ = some v from reads]
    · rfl
    all_goals simp

/-- The number that live ingestion takes from a part of the data is the one that its text spells. -/
theorem quantity?_eq (reads : Reads t v) (alike : ∀ l, t = .number l → l.ReadsAlike) :
    v.quantity? = (text? t).bind textNumber? := by
  by_cases container : v.isContainer = true
  · rw [text?_container reads container, Option.bind_some, textNumber?_container container]
    cases v <;> first | rfl | exact absurd container (by simp [Value.isContainer])
  cases t with
  | null =>
    cases reads
    rfl
  | bool b =>
    cases reads
    cases b <;> rfl
  | number l =>
    obtain ⟨n, read, rfl⟩ := Option.map_eq_some_iff.1 reads
    obtain ⟨text, number⟩ := alike l rfl n read
    show some n.toFloat = Quantity.read? (Text.trimBlanks (String.ofList (literalText l)).toList)
    rw [text, String.toList_ofList, number]
  | string s =>
    obtain ⟨x, rfl, rfl⟩ := Option.map_eq_some_iff.1 reads
    rfl
  | tooDeep => exact absurd reads (by simp [Reads, Tree.value?])
  | array | object =>
    obtain ⟨x, -, rfl⟩ := Option.map_eq_some_iff.1 reads
    exact absurd rfl container

/-- The text that live ingestion takes from a scalar is the one that the database has, unless it is
empty; from an array or an object it takes none. -/
theorem scalarText?_eq (reads : Reads t v) (alike : ∀ l, t = .number l → l.ReadsAlike) :
    nonEmpty v.scalarText? = if v.isContainer then none else nonEmpty (text? t) := by
  cases t with
  | null =>
    cases reads
    rfl
  | bool b =>
    cases reads
    cases b <;> rfl
  | number l =>
    obtain ⟨n, read, rfl⟩ := Option.map_eq_some_iff.1 reads
    show _ = nonEmpty (some (String.ofList (literalText l)))
    rw [(alike l rfl n read).1]
    rfl
  | string s =>
    obtain ⟨x, rfl, rfl⟩ := Option.map_eq_some_iff.1 reads
    by_cases empty : x = ""
    · subst empty
      rfl
    · simp [Value.scalarText?, Value.isContainer, text?, empty]
  | tooDeep => exact absurd reads (by simp [Reads, Tree.value?])
  | array | object =>
    obtain ⟨x, -, rfl⟩ := Option.map_eq_some_iff.1 reads
    rfl

end Document

end Metering
