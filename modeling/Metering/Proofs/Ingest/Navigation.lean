import Metering.Proofs.Ingest.Paths

/-!
Paths as instructions for going through a value. A step is written with a point, with a place or with a
quoted key, and may stand in front of any other one. Looking up what is written is selecting the steps
one after another, so what comes after a path is looked up in what the path leads to
(`Json.Value.at?_navigates`).
-/
namespace Metering.Json

open Text

/-- A step as it may be written. -/
inductive WrittenStep where
  /-- A key after a point. -/
  | dotted (name : String)
  /-- A place in brackets, with zeros before its number. -/
  | place (zeros n : Nat)
  /-- A key in brackets and quotes. -/
  | quoted (name : String)

namespace WrittenStep

def text : WrittenStep → List Char
  | dotted name => '.' :: name.toList
  | place zeros n => '[' :: (List.replicate zeros '0' ++ natText n ++ [']'])
  | quoted name => '[' :: '"' :: (name.toList ++ ['"', ']'])

/-- A key ends where the next step or its quotes begin, and places are counted with 64 bits. -/
def IsWritable : WrittenStep → Prop
  | dotted name => name ≠ "" ∧ '.' ∉ name.toList ∧ '[' ∉ name.toList
  | place _ n => n ≤ Number.maxUnsigned
  | quoted name => ']' ∉ name.toList ∧ '"' ∉ name.toList

instance : (s : WrittenStep) → Decidable s.IsWritable
  | dotted _ => inferInstanceAs (Decidable (_ ∧ _))
  | place _ _ => inferInstanceAs (Decidable (_ ≤ _))
  | quoted _ => inferInstanceAs (Decidable (_ ∧ _))

/-- The member of an object by its key, or the item of an array by its place. -/
def select? : WrittenStep → Value → Option Value
  | dotted name, .object fields => fields.lookup name
  | quoted name, .object fields => fields.lookup name
  | place _ n, .array items => items[n]?
  | _, _ => none

/-- What the step is, however it is written. -/
def step : WrittenStep → PathStep
  | dotted name => .key name
  | place _ n => .index n
  | quoted name => .key name

theorem step?_step (s : WrittenStep) (v : Value) : v.step? s.step = s.select? v := by
  cases s <;> cases v <;> rfl

end WrittenStep

namespace Path

/-- A path with its dollar sign. -/
def ofWritten (steps : List WrittenStep) : String :=
  String.ofList ('$' :: steps.flatMap WrittenStep.text)

/-- Between its quotes a key is kept as it is, the empty key too. -/
theorem trimQuotes_quoted {name : List Char} (plain : '"' ∉ name) :
    trimQuotes ('"' :: (name ++ ['"'])) = name := by
  have opened : trimQuotes ('"' :: (name ++ ['"'])) = trimQuotes (name ++ ['"']) := rfl
  rw [opened]
  by_cases empty : name = []
  · subst empty
    rfl
  · apply trimQuotes_append _ _ empty 1
    · intro first
      exact plain (List.mem_of_head? first)
    · intro last
      exact plain (List.mem_of_getLast? last)

theorem readDigits_zeros (zeros : Nat) (digits : List Char) :
    readDigits (List.replicate zeros '0' ++ digits) = readDigits digits := by
  induction zeros with
  | zero => rfl
  | succ zeros ih =>
    have next : readDigits ('0' :: (List.replicate zeros '0' ++ digits)) =
        readDigits (List.replicate zeros '0' ++ digits) := rfl
    rw [List.replicate_succ, List.cons_append, next]
    exact ih

/-- A step in front of a text that is taken apart is its first step. -/
theorem Taken.cons {s : WrittenStep} (writable : s.IsWritable) {rest : List Char} {path : Path}
    (more : Taken rest path) : Taken (s.text ++ rest) (s.step :: path) := by
  cases s with
  | dotted name =>
    obtain ⟨ne, point, bracket⟩ := writable
    have some : name.toList ≠ [] := by simpa using ne
    have plain : ∀ c ∈ name.toList, c ≠ '.' ∧ c ≠ '[' := by
      intro c mem
      constructor
      · intro is
        exact point (is ▸ mem)
      · intro is
        exact bracket (is ▸ mem)
    have taken := Taken.key some plain more
    rw [String.ofList_toList] at taken
    exact taken
  | place zeros n =>
    have digit : ∀ c ∈ List.replicate zeros '0' ++ natText n, c.isDigit = true := by
      intro c mem
      rcases List.mem_append.1 mem with zero | number
      · rw [List.eq_of_mem_replicate zero]
        rfl
      · exact isDigit_of_mem_natText number
    have some : List.replicate zeros '0' ++ natText n ≠ [] := by
      intro none
      exact natText_ne_nil n (List.append_eq_nil_iff.1 none).2
    have is := Bracketed.place 0 0 (Nat.zero_le 1) some digit
    simp only [List.replicate_zero, List.nil_append, List.append_nil] at is
    rw [readDigits_zeros, readDigits_natText] at is
    have closed : ']' ∉ List.replicate zeros '0' ++ natText n := by
      intro mem
      exact absurd (digit _ mem) (by decide)
    have taken := Taken.brackets closed is more
    simpa [WrittenStep.text, WrittenStep.step] using taken
  | quoted name =>
    obtain ⟨bracket, quote⟩ := writable
    have closed : ']' ∉ '"' :: (name.toList ++ ['"']) := by
      simpa using bracket
    have is := Bracketed.key (name.toList ++ ['"'])
    rw [trimQuotes_quoted quote, String.ofList_toList] at is
    have taken := Taken.brackets closed is more
    simpa [WrittenStep.text, WrittenStep.step] using taken

theorem read?_ofWritten {steps : List WrittenStep} (writable : ∀ s ∈ steps, s.IsWritable) :
    read? (ofWritten steps) = some (steps.map WrittenStep.step) := by
  have taken : Taken (steps.flatMap WrittenStep.text) (steps.map WrittenStep.step) := by
    induction steps with
    | nil => exact .done
    | cons s steps ih =>
      obtain ⟨first, others⟩ := List.forall_mem_cons.1 writable
      exact (ih others).cons first
  apply read?_eq_some_iff.2
  exact ⟨_, String.toList_ofList, taken⟩

end Path

namespace Value

/-- Following steps is selecting them one after another. -/
theorem follow?_map_step (steps : List WrittenStep) (v : Value) :
    v.follow? (steps.map WrittenStep.step) = steps.foldlM (fun w s => s.select? w) v := by
  induction steps generalizing v with
  | nil => rfl
  | cons s steps ih =>
    rw [List.map_cons, follow?, s.step?_step, List.foldlM_cons]
    cases s.select? v with
    | none => rfl
    | some w => exact ih w

theorem at?_ofWritten {steps : List WrittenStep} (writable : ∀ s ∈ steps, s.IsWritable) (v : Value) :
    v.at? (Path.ofWritten steps) = steps.foldlM (fun w s => s.select? w) v := by
  rw [at?, Path.read?_ofWritten writable]
  exact follow?_map_step steps v

/--
Looking up steps that are written one after another is selecting them one after another. So it ends at
the first step that selects nothing, and what comes after a path is looked up in what the path leads to.
-/
theorem at?_navigates {p q : List WrittenStep} (hp : ∀ s ∈ p, s.IsWritable)
    (hq : ∀ s ∈ q, s.IsWritable) (v : Value) :
    v.at? (Path.ofWritten p) = p.foldlM (fun w s => s.select? w) v ∧
      (∀ before s after, p = before ++ s :: after →
        (∀ w, v.at? (Path.ofWritten before) = some w → s.select? w = none) →
          v.at? (Path.ofWritten p) = none) ∧
        v.at? (Path.ofWritten (p ++ q)) =
          (v.at? (Path.ofWritten p)).bind fun w => w.at? (Path.ofWritten q) := by
  have whole := at?_ofWritten hp v
  refine ⟨whole, ?_, ?_⟩
  · intro before s after is stuck
    subst is
    have first : ∀ t ∈ before, t.IsWritable := fun t mem => hp t (List.mem_append_left _ mem)
    rw [at?_ofWritten first] at stuck
    rw [whole, List.foldlM_append]
    cases reached : before.foldlM (fun w s => s.select? w) v with
    | none => rfl
    | some w =>
      show (List.foldlM (fun w s => s.select? w) w (s :: after)) = none
      rw [List.foldlM_cons, stuck w reached]
      rfl
  · have both : ∀ s ∈ p ++ q, s.IsWritable := by
      intro s mem
      rcases List.mem_append.1 mem with mem | mem
      · exact hp s mem
      · exact hq s mem
    rw [at?_ofWritten both, whole, List.foldlM_append]
    cases p.foldlM (fun w s => s.select? w) v with
    | none => rfl
    | some w => exact (at?_ofWritten hq w).symm

/-- Keys with characters that end other steps, an empty key, and a place with a zero before it. -/
theorem at?_navigates_odd :
    let p : List WrittenStep := [.dotted "a]\"", .place 1 0]
    let q : List WrittenStep := [.quoted "", .quoted ".[é"]
    let inner : Value := .object [("", .object [(".[é", .bool true)])]
    let v : Value := .object [("a]\"", .array [inner])]
    (∀ s ∈ p, s.IsWritable) ∧ (∀ s ∈ q, s.IsWritable) ∧
      Path.ofWritten (p ++ q) = "$.a]\"[00][\"\"][\".[é\"]" ∧
      v.at? (Path.ofWritten p) = some inner ∧
      v.at? (Path.ofWritten (p ++ q)) = inner.at? (Path.ofWritten q) ∧
      inner.at? (Path.ofWritten q) = some (.bool true) := by
  intro p q inner v
  have hp : ∀ s ∈ p, s.IsWritable := by decide
  have hq : ∀ s ∈ q, s.IsWritable := by decide
  obtain ⟨first, -, both⟩ := at?_navigates hp hq v
  have led : v.at? (Path.ofWritten p) = some inner := first
  rw [led] at both
  exact ⟨hp, hq, by decide, led, both, (at?_navigates hq hp inner).1⟩

end Value

end Metering.Json
