import Metering.Database.Document

/-!
Paths that live ingestion and the database understand alike: a dollar sign, then `.key` and `[n]` steps.
The grammar says how the steps are written (`Path.Spells`), and both readers take the same steps from
what it generates.
-/
namespace Metering

open Text

namespace Json.Path

/-- Characters of a key that end it for neither reader and begin nothing else. -/
def isKeyChar (c : Char) : Bool := c ≠ '.' && c ≠ '[' && c ≠ '"' && c ≠ '*'

/-- How steps are written one after another. -/
inductive Spells : List Char → Path → Prop
  | done : Spells [] []
  | key {name rest : List Char} {path : Path} (ne : name ≠ [])
    (plain : ∀ c ∈ name, isKeyChar c = true) (more : Spells rest path) :
    Spells ('.' :: (name ++ rest)) (.key (String.ofList name) :: path)
  | index {digits rest : List Char} {path : Path} (ne : digits ≠ [])
    (plain : ∀ c ∈ digits, c.isDigit = true) (more : Spells rest path) :
    Spells ('[' :: (digits ++ ']' :: rest)) (.index (readDigits digits) :: path)

/-- A path as it is written, with its dollar sign. -/
def IsText (text : String) (path : Path) : Prop :=
  ∃ cs, text.toList = '$' :: cs ∧ Spells cs path

variable {cs rest : List Char} {path : Path}

theorem Spells.head (h : Spells cs path) : ∀ c ∈ cs.head?, c = '.' ∨ c = '[' := by
  intro c first
  cases h with
  | done => exact absurd first (by simp)
  | key => exact .inl (Option.some.inj first).symm
  | index => exact .inr (Option.some.inj first).symm

theorem keyStep?_of_ne {cs : List Char} (ne : cs ≠ []) :
    keyStep? cs = some (.key (String.ofList cs)) := by
  rw [keyStep?, if_neg (by simpa using ne)]

/-- A key is read up to the step that follows it. -/
theorem steps?_inKey (starts : ∀ c ∈ rest.head?, c = '.' ∨ c = '[')
    (next : steps? .betweenSteps rest = some path) {name : List Char}
    (plain : ∀ c ∈ name, c ≠ '.' ∧ c ≠ '[') (read : List Char) (ne : read.reverse ++ name ≠ []) :
    steps? (.inKey read) (name ++ rest) =
      some (.key (String.ofList (read.reverse ++ name)) :: path) := by
  induction name generalizing read with
  | nil =>
    rw [List.append_nil] at ne ⊢
    cases rest with
    | nil =>
      cases next
      simp [steps?, keyStep?_of_ne ne]
    | cons c rest =>
      rcases starts c rfl with rfl | rfl
      · rw [steps?, if_pos rfl] at next
        simp [steps?, keyStep?_of_ne ne, next]
      · rw [steps?, if_neg (by decide), if_pos rfl] at next
        simp [steps?, keyStep?_of_ne ne, next]
  | cons c name ih =>
    have notStop := plain c List.mem_cons_self
    have further := ih (fun d mem => plain d (List.mem_cons_of_mem _ mem)) (c :: read) (by simp)
    rw [List.cons_append, steps?, if_neg notStop.1, if_neg notStop.2, further]
    simp

/-- What stands in brackets is read up to the bracket that closes them. -/
theorem steps?_inBrackets {place : List Char} (plain : ∀ c ∈ place, c ≠ ']') (read : List Char) :
    steps? (.inBrackets read) (place ++ ']' :: rest) =
      do return (← bracketStep? (read.reverse ++ place)) :: (← steps? .betweenSteps rest) := by
  induction place generalizing read with
  | nil => simp [steps?]
  | cons c place ih =>
    rw [List.cons_append, steps?, if_neg (plain c List.mem_cons_self),
      ih (fun d mem => plain d (List.mem_cons_of_mem _ mem))]
    simp

/-- Quotes after a text are trimmed, and nothing else of it if it has none at its ends. -/
theorem trimQuotes_append {text : List Char} (first : text.head? ≠ some '"')
    (last : text.getLast? ≠ some '"') (ne : text ≠ []) (n : Nat) :
    trimQuotes (text ++ List.replicate n '"') = text := by
  have front : dropQuotes (text ++ List.replicate n '"') = text ++ List.replicate n '"' := by
    obtain ⟨c, cs, rfl⟩ := List.exists_cons_of_ne_nil ne
    have other : c ≠ '"' := fun is => first (congrArg some is)
    simp [dropQuotes, other]
  have back : dropQuotes (List.replicate n '"' ++ text.reverse) = text.reverse := by
    clear front
    induction n with
    | zero =>
      obtain ⟨c, cs, is⟩ := List.exists_cons_of_ne_nil (List.reverse_ne_nil_iff.2 ne)
      have other : c ≠ '"' := by
        intro quote
        rw [← List.head?_reverse, is] at last
        exact last (congrArg some quote)
      simp [dropQuotes, is, other]
    | succ n ih => simpa [dropQuotes, List.replicate_succ] using ih
  rw [trimQuotes, front, List.reverse_append, List.reverse_replicate, back, List.reverse_reverse]

theorem place?_unsigned (unsigned : cs.head? ≠ some '+') : place? cs =
    if cs ≠ [] ∧ cs.all Char.isDigit = true then some (readDigits cs) else none := by
  cases cs with
  | nil => rfl
  | cons c cs =>
    have plus : c ≠ '+' := fun is => unsigned (congrArg some is)
    simp [place?, plus]

theorem place?_digits {digits : List Char} (ne : digits ≠ [])
    (plain : ∀ c ∈ digits, c.isDigit = true) : place? digits = some (readDigits digits) := by
  have unsigned : digits.head? ≠ some '+' := by
    intro is
    have digit := plain _ (List.mem_of_mem_head? is)
    simp at digit
  rw [place?_unsigned unsigned, if_pos ⟨ne, List.all_eq_true.2 plain⟩]

theorem bracketStep?_digits {digits : List Char} (ne : digits ≠ [])
    (plain : ∀ c ∈ digits, c.isDigit = true) :
    bracketStep? digits = some (.index (readDigits digits)) := by
  have unquoted : ∀ c ∈ digits, c ≠ '"' := by
    intro c mem is
    have digit := plain c mem
    simp [is] at digit
  have first : digits.head? ≠ some '"' :=
    fun is => unquoted _ (List.mem_of_mem_head? is) rfl
  have last : digits.getLast? ≠ some '"' :=
    fun is => unquoted _ (List.mem_of_getLast? is) rfl
  have trimmed := trimQuotes_append first last ne 0
  rw [List.replicate_zero, List.append_nil] at trimmed
  rw [bracketStep?, if_neg first, trimmed, place?_digits ne plain]
  rfl

/-- Live ingestion reads the steps that are written. -/
theorem steps?_of_spells (h : Spells cs path) : steps? .betweenSteps cs = some path := by
  induction h with
  | done => rfl
  | @key name rest path ne plain more ih =>
    have other : ∀ c ∈ name, c ≠ '.' ∧ c ≠ '[' := by
      intro c mem
      have notStop := plain c mem
      simp only [isKeyChar, Bool.and_eq_true, decide_eq_true_eq] at notStop
      exact notStop.1.1
    rw [steps?, if_pos rfl, steps?_inKey more.head ih other [] (by simpa using ne)]
    rfl
  | index ne plain more ih =>
    have closing : ∀ c ∈ _, c ≠ ']' := fun c mem is => by simpa [is] using plain c mem
    rw [steps?, if_neg (by decide), if_pos rfl, steps?_inBrackets closing [], ih,
      List.reverse_nil, List.nil_append, bracketStep?_digits ne plain]
    rfl

theorem read?_of_isText {text : String} (h : IsText text path) : read? text = some path := by
  obtain ⟨cs, written, spells⟩ := h
  rw [read?, written]
  exact steps?_of_spells spells

end Json.Path

namespace Document

open Json Json.Path

/-- The step of a path as the database has it. -/
def Selector.ofStep : PathStep → Selector
  | .key name => .key name
  | .index n => .index n

theorem takeUntil_append {stops before rest : List Char} (inside : ∀ c ∈ before, c ∉ stops)
    (outside : ∀ c ∈ rest.head?, c ∈ stops) :
    takeUntil stops (before ++ rest) = (before, rest) := by
  induction before with
  | nil =>
    cases rest with
    | nil => rfl
    | cons c rest => rw [List.nil_append, takeUntil, if_pos (outside c rfl)]
  | cons c before ih =>
    rw [List.cons_append, takeUntil, if_neg (inside c List.mem_cons_self),
      ih fun d mem => inside d (List.mem_cons_of_mem _ mem)]

theorem place?_digits {digits : List Char} (ne : digits ≠ [])
    (plain : ∀ c ∈ digits, c.isDigit = true) :
    place? digits = some (.index (readDigits digits)) := by
  obtain ⟨d, others, rfl⟩ := List.exists_cons_of_ne_nil ne
  have digit := plain d List.mem_cons_self
  have hash : d ≠ '#' := fun is => by simp [is] at digit
  have minus : d ≠ '-' := fun is => by simp [is] at digit
  have number : d :: others ≠ [] ∧ (d :: others).all Char.isDigit = true :=
    ⟨ne, List.all_eq_true.2 plain⟩
  unfold place?
  split
  · exact absurd (List.cons.inj ‹_›).1 hash
  · exact absurd (List.cons.inj ‹_›).1 minus
  · simp only [if_pos number, Option.map_some]

/-- The database reads the steps that are written, each from a character or more. -/
theorem selectorsWithin_of_spells {cs : List Char} {path : Path} (h : Spells cs path) {fuel : Nat}
    (enough : cs.length ≤ fuel) :
    selectorsWithin fuel cs = some (path.map Selector.ofStep) := by
  induction h generalizing fuel with
  | done => cases fuel <;> rfl
  | @key name rest path ne plain more ih =>
    obtain ⟨fuel, rfl⟩ := Nat.exists_eq_succ_of_ne_zero (n := fuel) (by
      simp only [List.length_cons] at enough
      omega)
    have taken : takeUntil ['.', '['] (name ++ rest) = (name, rest) := by
      refine takeUntil_append (fun c mem => ?_) fun c first => ?_
      · have notStop := plain c mem
        simp only [isKeyChar, Bool.and_eq_true, decide_eq_true_eq] at notStop
        simp [notStop.1.1.1, notStop.1.1.2]
      · simpa using more.head c first
    obtain ⟨c, others, rfl⟩ := List.exists_cons_of_ne_nil ne
    have notSpecial := plain c List.mem_cons_self
    simp only [isKeyChar, Bool.and_eq_true, decide_eq_true_eq] at notSpecial
    have unquoted : ¬ ('.' = '.' ∧ (c :: others ++ rest).head? = some '"') := fun h =>
      notSpecial.1.2 (Option.some.inj h.2)
    have starless : (c :: others).head? ≠ some '*' := fun h => notSpecial.2 (Option.some.inj h)
    have shorter : rest.length ≤ fuel := by
      simp only [List.length_cons, List.length_append] at enough
      omega
    have further := ih shorter
    rw [selectorsWithin, if_neg unquoted, if_pos rfl, taken]
    simp only [if_neg starless, further]
    rfl
  | @index digits rest path ne plain more ih =>
    obtain ⟨fuel, rfl⟩ := Nat.exists_eq_succ_of_ne_zero (n := fuel) (by
      simp only [List.length_cons] at enough
      omega)
    have taken : takeUntil [']'] (digits ++ ']' :: rest) = (digits, ']' :: rest) := by
      refine takeUntil_append (fun c mem is => ?_) fun c first => ?_
      · rw [List.mem_singleton] at is
        simpa [is] using plain c mem
      · simpa using (Option.some.inj first).symm
    have shorter : rest.length ≤ fuel := by
      simp only [List.length_cons, List.length_append] at enough
      omega
    have further := ih shorter
    rw [selectorsWithin, if_neg (by simp), if_neg (by decide), if_pos rfl, taken]
    simp only [place?_digits ne plain, further]
    rfl

theorem selectors_of_isText {text : String} {path : Path} (h : IsText text path) :
    selectors? text = some (path.map Selector.ofStep) := by
  obtain ⟨cs, written, spells⟩ := h
  rw [selectors?, written]
  exact selectorsWithin_of_spells spells (Nat.le_refl _)

end Document

end Metering
