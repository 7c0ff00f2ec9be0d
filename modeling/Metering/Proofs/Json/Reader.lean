import Metering.Json.Reader

/-!
What holds of every tree that is read. A property that holds of values without items, and of an array
or object whose items have it, holds of whatever the reader gives (`Reader.Closed.of_read`). The number
of arrays and objects around a value is part of the property, so the nesting limit is one of them
(`Tree.fits_of_read`).
-/
namespace Metering.Json

namespace Reader

/-- A property of the trees read inside so many arrays and objects, which passes from items to what
holds them. -/
structure Closed (P : Nat → Tree → Prop) : Prop where
  null (depth : Nat) : P depth .null
  bool (depth : Nat) (b : Bool) : P depth (.bool b)
  number {depth : Nat} {cs rest : List Char} {l : Literal} :
    number cs = some (l, rest) → P depth (.number l)
  string (depth : Nat) (content : Option String) : P depth (.string content)
  array {depth : Nat} {items : List Tree} : depth < nestingLimit → (∀ t ∈ items, P (depth + 1) t) →
    P depth (.array items)
  object {depth : Nat} {fields : List (Option String × Tree)} : depth < nestingLimit →
    (∀ f ∈ fields, P (depth + 1) f.2) → P depth (.object fields)
  tooDeep (depth : Nat) : P depth .tooDeep

/-- What is read with some fuel has the property. -/
structure Gives (P : Nat → Tree → Prop) (fuel : Nat) : Prop where
  ofValue {depth : Nat} {cs rest : List Char} {t : Tree} :
    value fuel depth cs = some (t, rest) → P depth t
  ofItems {depth : Nat} {cs rest : List Char} {ts : List Tree} :
    items fuel depth cs = some (ts, rest) → ∀ t ∈ ts, P depth t
  ofFields {depth : Nat} {cs rest : List Char} {fs : List (Option String × Tree)} :
    fields fuel depth cs = some (fs, rest) → ∀ f ∈ fs, P depth f.2

variable {P : Nat → Tree → Prop} {fuel depth : Nat} {cs rest : List Char}

theorem Closed.atDepth (closed : Closed P) {t : Tree} (h : depth < nestingLimit → P depth t) :
    P depth (atDepth (depth + 1) t) := by
  unfold Reader.atDepth
  split
  · exact closed.tooDeep depth
  · exact h (by omega)

/-- A value is read without items, or holds the items or fields that are read after its bracket. -/
theorem Gives.value_succ (closed : Closed P) (ih : Gives P fuel) {t : Tree}
    (h : value (fuel + 1) depth cs = some (t, rest)) : P depth t := by
  unfold value at h
  split at h
  · exact absurd h (by simp)
  · split at h
    · cases h
      exact closed.atDepth fun room => closed.object room fun f mem => absurd mem List.not_mem_nil
    · simp only [Option.bind_eq_bind, Option.bind_eq_some_iff, Option.pure_def,
        Option.some.injEq] at h
      obtain ⟨⟨fs, cs'⟩, read, is⟩ := h
      cases is
      exact closed.atDepth fun room => closed.object room (ih.ofFields read)
  · split at h
    · cases h
      exact closed.atDepth fun room => closed.array room fun t mem => absurd mem List.not_mem_nil
    · simp only [Option.bind_eq_bind, Option.bind_eq_some_iff, Option.pure_def,
        Option.some.injEq] at h
      obtain ⟨⟨ts, cs'⟩, read, is⟩ := h
      cases is
      exact closed.atDepth fun room => closed.array room (ih.ofItems read)
  all_goals
    simp only [Option.bind_eq_bind, Option.bind_eq_some_iff, Option.pure_def,
      Option.some.injEq] at h
  · obtain ⟨⟨s, cs'⟩, read, is⟩ := h
    cases is
    exact closed.string depth _
  · obtain ⟨cs', read, is⟩ := h
    cases is
    exact closed.bool depth _
  · obtain ⟨cs', read, is⟩ := h
    cases is
    exact closed.bool depth _
  · obtain ⟨cs', read, is⟩ := h
    cases is
    exact closed.null depth
  · obtain ⟨⟨l, cs'⟩, read, is⟩ := h
    cases is
    exact closed.number read

theorem Gives.items_succ (ih : Gives P fuel) {ts : List Tree}
    (h : items (fuel + 1) depth cs = some (ts, rest)) : ∀ t ∈ ts, P depth t := by
  unfold items at h
  simp only [Option.bind_eq_bind, Option.bind_eq_some_iff] at h
  obtain ⟨⟨t, cs'⟩, first, h⟩ := h
  have first := ih.ofValue first
  split at h
  · cases h
    exact List.forall_mem_singleton.2 first
  · simp only [Option.bind_eq_some_iff, Option.pure_def, Option.some.injEq] at h
    obtain ⟨⟨others, cs''⟩, further, is⟩ := h
    cases is
    exact List.forall_mem_cons.2 ⟨first, ih.ofItems further⟩
  · exact absurd h (by simp)

theorem Gives.fields_succ (ih : Gives P fuel) {fs : List (Option String × Tree)}
    (h : fields (fuel + 1) depth cs = some (fs, rest)) : ∀ f ∈ fs, P depth f.2 := by
  unfold fields at h
  split at h
  · simp only [Option.bind_eq_bind, Option.bind_eq_some_iff] at h
    obtain ⟨⟨key, afterKey⟩, -, afterColon, -, ⟨t, cs'⟩, first, h⟩ := h
    have first := ih.ofValue first
    split at h
    · cases h
      exact List.forall_mem_singleton.2 first
    · simp only [Option.bind_eq_some_iff, Option.pure_def, Option.some.injEq] at h
      obtain ⟨⟨others, cs''⟩, further, is⟩ := h
      cases is
      exact List.forall_mem_cons.2 ⟨first, ih.ofFields further⟩
    · exact absurd h (by simp)
  · exact absurd h (by simp)

/-- By induction on the fuel that a reader hands to the readers it calls. -/
theorem Closed.gives (closed : Closed P) (fuel : Nat) : Gives P fuel := by
  induction fuel with
  | zero =>
    constructor
    · intro depth cs rest t h
      exact absurd h (by simp [value])
    · intro depth cs rest ts h
      exact absurd h (by simp [items])
    · intro depth cs rest fs h
      exact absurd h (by simp [fields])
  | succ fuel ih =>
    constructor
    · exact ih.value_succ closed
    · exact ih.items_succ
    · exact ih.fields_succ

theorem Closed.of_read (closed : Closed P) {s : String} {t : Tree} (h : Tree.read? s = some t) :
    P 0 t := by
  simp only [Tree.read?] at h
  split at h
  · rename_i t' rest read
    split at h
    · cases h
      exact (closed.gives _).ofValue read
    · exact absurd h (by simp)
  · exact absurd h (by simp)

end Reader

/-- A tree with at most so many arrays and objects inside each other. -/
inductive Tree.Fits : Nat → Tree → Prop where
  | null (room : Nat) : Fits room .null
  | bool (room : Nat) (b : Bool) : Fits room (.bool b)
  | number (room : Nat) (l : Literal) : Fits room (.number l)
  | string (room : Nat) (content : Option String) : Fits room (.string content)
  | array {room : Nat} {items : List Tree} :
    (∀ t ∈ items, Fits room t) → Fits (room + 1) (.array items)
  | object {room : Nat} {fields : List (Option String × Tree)} :
    (∀ f ∈ fields, Fits room f.2) → Fits (room + 1) (.object fields)
  | tooDeep (room : Nat) : Fits room .tooDeep

theorem Reader.closed_fits : Reader.Closed fun depth t => t.Fits (nestingLimit - depth) where
  null _ := .null _
  bool _ b := .bool _ b
  number _ := .number _ _
  string _ content := .string _ content
  tooDeep _ := .tooDeep _
  array {depth items} room inside := by
    have one : nestingLimit - depth = nestingLimit - (depth + 1) + 1 := by omega
    rw [one]
    exact .array inside
  object {depth fields} room inside := by
    have one : nestingLimit - depth = nestingLimit - (depth + 1) + 1 := by omega
    rw [one]
    exact .object inside

/-- Nothing nests past the limit in a tree that is read. -/
theorem Tree.fits_of_read {s : String} {t : Tree} (h : Tree.read? s = some t) :
    t.Fits nestingLimit :=
  Reader.closed_fits.of_read h

end Metering.Json
