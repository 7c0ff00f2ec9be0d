import Metering.Proofs.Ingest.Agreement
import Metering.Proofs.Json.Nesting

/-!
Which paths live ingestion can follow. A text that is taken apart into steps leads somewhere in some
data, any other one nowhere in any data, and data that was read has no place for more steps than may
nest (`Meter.paths_resolve`). A valid definition only has to begin its paths with a dollar sign, so
there are valid meters that no event counts for (`Meter.paths_deadEnd`).
-/
namespace Metering

open Text

namespace Json.Path

/-- What may stand in brackets: a key that begins with a quote, or a place. A plus sign may come before
the digits of a place, and quotes after them. -/
inductive Bracketed : List Char → PathStep → Prop
  | key (text : List Char) : Bracketed ('"' :: text) (.key (String.ofList (trimQuotes ('"' :: text))))
  | place {digits : List Char} (plus quotes : Nat) (atMostOne : plus ≤ 1) (ne : digits ≠ [])
    (plain : ∀ c ∈ digits, c.isDigit = true) :
    Bracketed (List.replicate plus '+' ++ digits ++ List.replicate quotes '"')
      (.index (readDigits digits))

/-- How live ingestion takes a text apart. A key ends at a point or at a bracket. The last brackets may
be left open. -/
inductive Taken : List Char → Path → Prop
  | done : Taken [] []
  | key {name rest : List Char} {path : Path} (ne : name ≠ [])
    (plain : ∀ c ∈ name, c ≠ '.' ∧ c ≠ '[') (more : Taken rest path) :
    Taken ('.' :: (name ++ rest)) (.key (String.ofList name) :: path)
  | brackets {inside rest : List Char} {step : PathStep} {path : Path} (closed : ']' ∉ inside)
    (is : Bracketed inside step) (more : Taken rest path) :
    Taken ('[' :: (inside ++ ']' :: rest)) (step :: path)
  | unclosed {inside : List Char} {step : PathStep} (opened : ']' ∉ inside)
    (is : Bracketed inside step) : Taken ('[' :: inside) [step]

/-- A path as it may be written, with its dollar sign. -/
def IsWritten (text : String) (path : Path) : Prop :=
  ∃ cs, text.toList = '$' :: cs ∧ Taken cs path

/-- Places are counted with 64 bits. -/
def IsCountable (path : Path) : Prop := ∀ n, .index n ∈ path → n ≤ Number.maxUnsigned

variable {cs rest : List Char} {path : Path}

theorem Taken.head (h : Taken cs path) : ∀ c ∈ cs.head?, c = '.' ∨ c = '[' := by
  intro c first
  cases h with
  | done => exact absurd first (by simp)
  | key => exact .inl (Option.some.inj first).symm
  | brackets => exact .inr (Option.some.inj first).symm
  | unclosed => exact .inr (Option.some.inj first).symm

/-- Only quotes at the end are trimmed from a text that does not begin with one. -/
theorem eq_trimQuotes_append (first : cs.head? ≠ some '"') :
    ∃ n, cs = trimQuotes cs ++ List.replicate n '"' := by
  have front : dropQuotes cs = cs := by
    cases cs with
    | nil => rfl
    | cons c cs =>
      have other : c ≠ '"' := fun is => first (congrArg some is)
      simp [dropQuotes, other]
  have quotes : ∀ c ∈ cs.reverse.takeWhile (· == '"'), c = '"' := by
    intro c mem
    simpa using List.all_eq_true.1 List.all_takeWhile c mem
  refine ⟨(cs.reverse.takeWhile (· == '"')).length, ?_⟩
  have split := List.takeWhile_append_dropWhile (p := (· == '"')) (l := cs.reverse)
  rw [List.eq_replicate_of_mem quotes] at split
  have back := congrArg List.reverse split
  rw [List.reverse_append, List.reverse_replicate, List.reverse_reverse] at back
  rw [trimQuotes, front]
  exact back.symm

theorem place?_eq_some_iff {n : Nat} : place? cs = some n ↔ ∃ plus digits, plus ≤ 1 ∧ digits ≠ [] ∧
    (∀ c ∈ digits, c.isDigit = true) ∧ cs = List.replicate plus '+' ++ digits ∧
      n = readDigits digits := by
  constructor
  · intro h
    by_cases signed : cs.head? = some '+'
    · cases cs with
      | nil => exact absurd signed (by simp)
      | cons c digits =>
        obtain rfl := Option.some.inj signed
        change (if digits ≠ [] ∧ digits.all Char.isDigit = true then some (readDigits digits)
          else none) = some n at h
        split at h
        · rename_i number
          exact ⟨1, digits, Nat.le_refl 1, number.1, List.all_eq_true.1 number.2, rfl,
            (Option.some.inj h).symm⟩
        · exact absurd h (by simp)
    · rw [place?_unsigned signed] at h
      split at h
      · rename_i number
        exact ⟨0, cs, Nat.zero_le 1, number.1, List.all_eq_true.1 number.2, rfl,
          (Option.some.inj h).symm⟩
      · exact absurd h (by simp)
  · rintro ⟨plus, digits, atMostOne, ne, plain, rfl, rfl⟩
    by_cases signed : plus = 1
    · subst signed
      have number : digits ≠ [] ∧ digits.all Char.isDigit = true := ⟨ne, List.all_eq_true.2 plain⟩
      simp [place?, number]
    · have unsigned : plus = 0 := by omega
      subst unsigned
      exact place?_digits ne plain

theorem bracketStep?_eq_some_iff {step : PathStep} :
    bracketStep? cs = some step ↔ Bracketed cs step := by
  constructor
  · intro h
    unfold bracketStep? at h
    split at h
    · rename_i quoted
      cases cs with
      | nil => exact absurd quoted (by simp)
      | cons c cs =>
        obtain rfl := Option.some.inj quoted
        obtain rfl := Option.some.inj h
        exact .key cs
    · rename_i unquoted
      obtain ⟨n, place, rfl⟩ := Option.map_eq_some_iff.1 h
      obtain ⟨plus, digits, atMostOne, ne, plain, trimmed, rfl⟩ := place?_eq_some_iff.1 place
      obtain ⟨quotes, split⟩ := eq_trimQuotes_append unquoted
      rw [split, trimmed]
      exact .place plus quotes atMostOne ne plain
  · intro h
    cases h with
    | key text => rfl
    | @place digits plus quotes atMostOne ne plain =>
      have inside : ∀ c ∈ List.replicate plus '+' ++ digits, c ≠ '"' := by
        intro c mem is
        subst is
        rcases List.mem_append.1 mem with sign | digit
        · exact absurd (List.eq_of_mem_replicate sign) (by decide)
        · exact absurd (plain _ digit) (by decide)
      have some : List.replicate plus '+' ++ digits ≠ [] :=
        fun none => ne (List.append_eq_nil_iff.1 none).2
      have first : (List.replicate plus '+' ++ digits).head? ≠ Option.some '"' :=
        fun is => inside _ (List.mem_of_mem_head? is) rfl
      have last : (List.replicate plus '+' ++ digits).getLast? ≠ Option.some '"' :=
        fun is => inside _ (List.mem_of_getLast? is) rfl
      have unquoted : (List.replicate plus '+' ++ digits ++ List.replicate quotes '"').head? ≠
          Option.some '"' := by
        rw [List.head?_append_of_ne_nil _ some]
        exact first
      have place := place?_eq_some_iff.2 ⟨plus, digits, atMostOne, ne, plain, rfl, rfl⟩
      rw [bracketStep?, if_neg unquoted, trimQuotes_append first last some, place]
      rfl

/-- Brackets without an end hold all that is left. -/
theorem steps?_inBrackets_open (opened : ']' ∉ cs) (read : List Char) :
    steps? (.inBrackets read) cs = (bracketStep? (read.reverse ++ cs)).map fun step => [step] := by
  induction cs generalizing read with
  | nil => rw [steps?, List.append_nil]
  | cons c cs ih =>
    have other : c ≠ ']' := fun is => opened (is ▸ List.mem_cons_self)
    rw [steps?, if_neg other, ih (fun mem => opened (List.mem_cons_of_mem _ mem)),
      List.reverse_cons, List.append_assoc, List.singleton_append]

theorem steps?_of_taken (h : Taken cs path) : steps? .betweenSteps cs = some path := by
  induction h with
  | done => rfl
  | key ne plain more ih =>
    rw [steps?, if_pos rfl]
    exact steps?_inKey more.head ih plain [] ne
  | brackets closed is more ih =>
    have inside : ∀ c ∈ _, c ≠ ']' := fun c mem is => closed (is ▸ mem)
    rw [steps?, if_neg (by decide), if_pos rfl, steps?_inBrackets inside [], ih,
      List.reverse_nil, List.nil_append, bracketStep?_eq_some_iff.2 is]
    rfl
  | unclosed opened is =>
    rw [steps?, if_neg (by decide), if_pos rfl, steps?_inBrackets_open opened [],
      List.reverse_nil, List.nil_append, bracketStep?_eq_some_iff.2 is]
    rfl

/-- What is left of a text, seen from the place where its reading stands. -/
def Position.Taken : Position → List Char → Path → Prop
  | .betweenSteps, cs, path => Path.Taken cs path
  | .inKey read, cs, path => ∃ name rest steps, cs = name ++ rest ∧
      (∀ c ∈ name, c ≠ '.' ∧ c ≠ '[') ∧ read.reverse ++ name ≠ [] ∧ Path.Taken rest steps ∧
        path = .key (String.ofList (read.reverse ++ name)) :: steps
  | .inBrackets read, cs, path =>
    (∃ inside rest step steps, cs = inside ++ ']' :: rest ∧ ']' ∉ inside ∧
      Bracketed (read.reverse ++ inside) step ∧ Path.Taken rest steps ∧ path = step :: steps) ∨
    ∃ step, ']' ∉ cs ∧ Bracketed (read.reverse ++ cs) step ∧ path = [step]

theorem Position.Taken.key (h : (Position.inKey []).Taken cs path) : Path.Taken ('.' :: cs) path := by
  obtain ⟨name, rest, steps, rfl, plain, ne, more, rfl⟩ := h
  exact .key ne plain more

theorem Position.Taken.brackets (h : (Position.inBrackets []).Taken cs path) :
    Path.Taken ('[' :: cs) path := by
  rcases h with ⟨inside, rest, step, steps, rfl, closed, is, more, rfl⟩ | ⟨step, opened, is, rfl⟩
  · exact .brackets closed is more
  · exact .unclosed opened is

theorem keyStep?_eq_some {step : PathStep} (h : keyStep? cs = some step) :
    cs ≠ [] ∧ step = .key (String.ofList cs) := by
  unfold keyStep? at h
  split at h
  · exact absurd h (by simp)
  · rename_i ne
    exact ⟨by simpa using ne, (Option.some.inj h).symm⟩

/-- A key that ends before the next step. -/
theorem Position.taken_inKey {read : List Char} {step : PathStep}
    (here : keyStep? read.reverse = some step) (more : Path.Taken rest path) :
    (Position.inKey read).Taken rest (step :: path) := by
  obtain ⟨ne, rfl⟩ := keyStep?_eq_some here
  refine ⟨[], rest, path, rfl, fun c mem => absurd mem List.not_mem_nil, ?_, more, ?_⟩
  · rw [List.append_nil]
    exact ne
  · rw [List.append_nil]

theorem Position.Taken.cons_inKey {c : Char} {read : List Char} (plain : c ≠ '.' ∧ c ≠ '[')
    (h : (Position.inKey (c :: read)).Taken cs path) : (Position.inKey read).Taken (c :: cs) path := by
  obtain ⟨name, rest, steps, rfl, others, ne, more, rfl⟩ := h
  exact ⟨c :: name, rest, steps, rfl, List.forall_mem_cons.2 ⟨plain, others⟩, by simp, more, by simp⟩

theorem Position.Taken.cons_inBrackets {c : Char} {read : List Char} (inside : c ≠ ']')
    (h : (Position.inBrackets (c :: read)).Taken cs path) :
    (Position.inBrackets read).Taken (c :: cs) path := by
  have open_cons {text : List Char} (opened : ']' ∉ text) : ']' ∉ c :: text :=
    List.not_mem_cons_of_ne_of_not_mem inside.symm opened
  rcases h with ⟨before, rest, step, steps, rfl, closed, is, more, rfl⟩ | ⟨step, opened, is, rfl⟩
  · exact .inl ⟨c :: before, rest, step, steps, rfl, open_cons closed, by simpa using is, more, rfl⟩
  · exact .inr ⟨step, open_cons opened, by simpa using is, rfl⟩

/-- Brackets that end here. -/
theorem Position.taken_inBrackets {read : List Char} {step : PathStep}
    (here : bracketStep? read.reverse = some step) (more : Path.Taken rest path) :
    (Position.inBrackets read).Taken (']' :: rest) (step :: path) := by
  refine .inl ⟨[], rest, step, path, rfl, List.not_mem_nil, ?_, more, rfl⟩
  rw [List.append_nil]
  exact bracketStep?_eq_some_iff.1 here

/-- Whatever is read has been written so. The induction is on the text, for all positions at once. -/
theorem taken_of_steps? {pos : Position} (h : steps? pos cs = some path) : pos.Taken cs path := by
  induction cs generalizing pos path with
  | nil =>
    cases pos with
    | betweenSteps =>
      obtain rfl := Option.some.inj h
      exact .done
    | inKey read =>
      obtain ⟨step, here, rfl⟩ := Option.map_eq_some_iff.1 h
      exact Position.taken_inKey here .done
    | inBrackets read =>
      obtain ⟨step, here, rfl⟩ := Option.map_eq_some_iff.1 h
      refine .inr ⟨step, List.not_mem_nil, ?_, rfl⟩
      rw [List.append_nil]
      exact bracketStep?_eq_some_iff.1 here
  | cons c cs ih =>
    cases pos with
    | betweenSteps =>
      rw [steps?] at h
      split at h
      · rename_i point
        subst point
        exact (ih h).key
      · split at h
        · rename_i bracket
          subst bracket
          exact (ih h).brackets
        · exact absurd h (by simp)
    | inKey read =>
      rw [steps?] at h
      split at h
      · rename_i point
        subst point
        obtain ⟨step, here, h⟩ := Option.bind_eq_some_iff.1 h
        obtain ⟨steps, further, h⟩ := Option.bind_eq_some_iff.1 h
        obtain rfl := Option.some.inj h
        exact Position.taken_inKey here (ih further).key
      · rename_i notPoint
        split at h
        · rename_i bracket
          subst bracket
          obtain ⟨step, here, h⟩ := Option.bind_eq_some_iff.1 h
          obtain ⟨steps, further, h⟩ := Option.bind_eq_some_iff.1 h
          obtain rfl := Option.some.inj h
          exact Position.taken_inKey here (ih further).brackets
        · rename_i notBracket
          exact (ih h).cons_inKey ⟨notPoint, notBracket⟩
    | inBrackets read =>
      rw [steps?] at h
      split at h
      · rename_i closing
        subst closing
        obtain ⟨step, here, h⟩ := Option.bind_eq_some_iff.1 h
        obtain ⟨steps, further, h⟩ := Option.bind_eq_some_iff.1 h
        obtain rfl := Option.some.inj h
        exact Position.taken_inBrackets here (ih further)
      · rename_i inside
        exact (ih h).cons_inBrackets inside

/-- The steps of a text are the ones in which it is written. -/
theorem read?_eq_some_iff {text : String} : read? text = some path ↔ IsWritten text path := by
  constructor
  · intro h
    unfold read? at h
    split at h
    · rename_i cs is
      exact ⟨cs, is, taken_of_steps? h⟩
    · exact absurd h (by simp)
  · rintro ⟨cs, is, taken⟩
    rw [read?, is]
    exact steps?_of_taken taken

end Json.Path

namespace Meter

open Json

variable {m : Meter}

theorem isSome_at?_iff {data : Value} {text : String} : (data.at? text).isSome = true ↔
    ∃ path v, Path.IsWritten text path ∧ data.follow? path = some v := by
  rw [Value.at?, Option.isSome_iff_exists]
  constructor
  · rintro ⟨v, found⟩
    obtain ⟨path, read, follows⟩ := Option.bind_eq_some_iff.1 found
    exact ⟨path, v, Path.read?_eq_some_iff.1 read, follows⟩
  · rintro ⟨path, v, written, follows⟩
    exact ⟨v, Option.bind_eq_some_iff.2 ⟨path, Path.read?_eq_some_iff.2 written, follows⟩⟩

theorem isSome_measure?_iff {e : Event} : (m.measure? e).isSome = true ↔
    m.covers e.space e.type = true ∧ m.aggregation.isNumeric = true ∧
      (m.contribution? ((Value.read? e.data).getD .null)).isSome = true := by
  unfold measure?
  split
  · rename_i counts
    rw [Bool.and_eq_true] at counts
    simp [counts]
  · rename_i other
    rw [Bool.and_eq_true] at other
    simp only [Option.isSome_none, Bool.false_eq_true, false_iff]
    exact fun h => other ⟨h.1, h.2.1⟩

/-- An event of the meter with some data. -/
def eventWith (m : Meter) (data : String) : Event :=
  ⟨m.space, "", m.eventType, "", "", .epoch, data, .epoch, .epoch⟩

theorem covers_eventWith (data : String) :
    m.covers (m.eventWith data).space (m.eventWith data).type = true := by
  simp [covers, eventWith]

/-- An event whose data is the number one at the path of the value. -/
theorem exists_measure? (valid : m.validate = .ok ()) (numeric : m.aggregation.isNumeric = true)
    (written : ∀ text ∈ m.valuePath, ∃ path, Path.IsWritten text path ∧ path.length ≤ nestingLimit) :
    ∃ e, (m.measure? e).isSome = true := by
  cases present : m.valuePath with
  | none =>
    refine ⟨m.eventWith "", isSome_measure?_iff.2 ⟨covers_eventWith _, numeric, ?_⟩⟩
    rw [contribution?, count_of_valuePath valid present]
    rfl
  | some text =>
    have needed := needsValue_of_valuePath valid present
    obtain ⟨path, written, short⟩ := written text present
    have read := Value.read?_placed (v := .ofInt 1) (.integer 0 1) rfl short
    refine ⟨m.eventWith ((Value.ofInt 1).placed path).text,
      isSome_measure?_iff.2 ⟨covers_eventWith _, numeric, ?_⟩⟩
    have found : ((Value.ofInt 1).placed path).at? text = some (Value.ofInt 1) := by
      rw [Value.at?, Path.read?_eq_some_iff.2 written, Option.bind_some, Value.follow?_placed]
    rw [eventWith, read, Option.getD_some, contribution?_of_needsValue present needed, found]
    rfl

/-- What live ingestion takes from an event comes from the end of steps that the data has room for. -/
theorem exists_written (valid : m.validate = .ok ()) {e : Event}
    (counts : (m.measure? e).isSome = true) {text : String} (present : m.valuePath = some text) :
    ∃ path, Path.IsWritten text path ∧ path.length ≤ nestingLimit := by
  have needed := needsValue_of_valuePath valid present
  obtain ⟨-, -, taken⟩ := isSome_measure?_iff.1 counts
  rw [contribution?_of_needsValue present needed] at taken
  have found := Option.isSome_of_isSome_bind taken
  obtain ⟨path, v, written, follows⟩ := isSome_at?_iff.1 found
  refine ⟨path, written, ?_⟩
  cases read : Value.read? e.data with
  | none =>
    rw [read, Option.getD_none] at follows
    exact ((Value.Nests.null 0).length_le follows).trans (Nat.zero_le _)
  | some data =>
    rw [read, Option.getD_some] at follows
    exact Value.length_le_of_follow? read follows

/-- The paths of a valid meter, one by one: some data has something at a path that is written in steps,
and no data at one that is not. Places beyond 64 bits are neither promised nor denied. And where values
are read from the data, live ingestion takes some event of the meter if its path is written in no more
steps than data may nest, and none otherwise. -/
theorem paths_resolve (valid : m.validate = .ok ()) :
    (∀ text ∈ importPaths m,
      ((∃ path, Path.IsWritten text path ∧ Path.IsCountable path) →
        ∃ data : Value, (data.at? text).isSome = true) ∧
      ((¬ ∃ path, Path.IsWritten text path) → ∀ data : Value, data.at? text = none)) ∧
    (m.aggregation.isNumeric = true →
      ((∀ text ∈ m.valuePath, ∃ path, Path.IsWritten text path ∧ Path.IsCountable path ∧
        path.length ≤ nestingLimit) → ∃ e, (m.measure? e).isSome = true) ∧
      ((¬ ∀ text ∈ m.valuePath, ∃ path, Path.IsWritten text path ∧ path.length ≤ nestingLimit) →
        ∀ e, m.measure? e = none)) := by
  refine ⟨fun text mem => ⟨?_, ?_⟩, fun numeric => ⟨?_, ?_⟩⟩
  · rintro ⟨path, written, -⟩
    exact ⟨Value.placed .null path,
      isSome_at?_iff.2 ⟨path, .null, written, Value.follow?_placed .null path⟩⟩
  · intro unwritten data
    by_contra found
    obtain ⟨path, v, written, -⟩ := isSome_at?_iff.1 (Option.isSome_iff_ne_none.2 found)
    exact unwritten ⟨path, written⟩
  · intro written
    refine exists_measure? valid numeric fun text present => ?_
    obtain ⟨path, is, -, short⟩ := written text present
    exact ⟨path, is, short⟩
  · intro unwritten e
    by_contra counts
    exact unwritten fun text present =>
      exists_written valid (Option.isSome_iff_ne_none.2 counts) present

/-- A key in quotes, a place with a sign, and brackets that are left open. -/
def oddlyWritten : Meter :=
  ⟨"shop", "tokens", "tokens", .sum, "call", some "$[\"a b\"][+2].c",
    KeyMap.ofList [("model", "$.m[\"x")], none, none⟩

theorem oddlyWritten_valuePath : Path.IsWritten "$[\"a b\"][+2].c" [.key "a b", .index 2, .key "c"] :=
  Path.read?_eq_some_iff.1 (by decide +kernel)

theorem oddlyWritten_dimension : Path.IsWritten "$.m[\"x" [.key "m", .key "x"] :=
  Path.read?_eq_some_iff.1 (by decide +kernel)

theorem paths_resolve_odd : oddlyWritten.validate = .ok () ∧
    importPaths oddlyWritten = ["$[\"a b\"][+2].c", "$.m[\"x"] ∧
    (∀ text ∈ importPaths oddlyWritten, ∃ data : Value, (data.at? text).isSome = true) ∧
    ∃ e, (oddlyWritten.measure? e).isSome = true := by
  have valid : oddlyWritten.validate = .ok () := by decide +kernel
  have paths : importPaths oddlyWritten = ["$[\"a b\"][+2].c", "$.m[\"x"] := by decide +kernel
  have countable : Path.IsCountable [.key "a b", .index 2, .key "c"] := by
    intro n mem
    simp only [List.mem_cons, List.not_mem_nil, reduceCtorEq, or_false, false_or,
      PathStep.index.injEq] at mem
    subst mem
    decide
  refine ⟨valid, paths, ?_, ?_⟩
  · intro text mem
    refine ((paths_resolve valid).1 text mem).1 ?_
    rw [paths] at mem
    rcases List.mem_pair.1 mem with rfl | rfl
    · exact ⟨_, oddlyWritten_valuePath, countable⟩
    · exact ⟨_, oddlyWritten_dimension, by simp [Path.IsCountable]⟩
  · refine ((paths_resolve valid).2 rfl).1 ?_
    intro text present
    obtain rfl := Option.some.inj present
    exact ⟨_, oddlyWritten_valuePath, countable, by decide⟩

/-- A valid meter whose path begins with no step. -/
def withoutStep : Meter :=
  ⟨"shop", "tokens", "tokens", .sum, "call", some "$tokens", KeyMap.ofList [], none, none⟩

/-- The definition is accepted, but there is nothing at its path in any data and it counts no event. -/
theorem paths_deadEnd : withoutStep.validate = .ok () ∧ withoutStep.valuePath = some "$tokens" ∧
    (∀ data : Value, data.at? "$tokens" = none) ∧ (∀ e, withoutStep.measure? e = none) ∧
    ¬ ∀ m : Meter, m.validate = .ok () → ∀ text ∈ importPaths m,
      ∃ data : Value, (data.at? text).isSome = true := by
  have valid : withoutStep.validate = .ok () := by decide +kernel
  have unread : Path.read? "$tokens" = none := by decide +kernel
  have nowhere : ∀ data : Value, data.at? "$tokens" = none := by
    intro data
    rw [Value.at?, unread]
    rfl
  refine ⟨valid, rfl, nowhere, ?_, ?_⟩
  · intro e
    by_contra counts
    obtain ⟨path, written, -⟩ := exists_written valid (Option.isSome_iff_ne_none.2 counts) rfl
    exact absurd (Path.read?_eq_some_iff.2 written) (by simp [unread])
  · intro all
    obtain ⟨data, found⟩ := all withoutStep valid "$tokens" (by decide +kernel)
    exact absurd found (by simp [nowhere])

end Meter

end Metering
