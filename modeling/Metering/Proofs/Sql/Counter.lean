import Metering.Proofs.Sql.Client
import Metering.Proofs.Sql.Dialect

/-!
What the count of placeholders makes of literals. It lets a backslash in a literal take the next character
with it, which is how the second dialect spells literals, but not how the first one does: there a backslash
stands for itself. The count passes over a literal of the first dialect exactly if no backslash takes a
quote with it (`passes_duckdb_iff`), and over each one of the second (`passes_clickhouse`). A statement
whose literals are all passed over has as many placeholders as parameters (`Passable.counted`).
-/
namespace Metering

/-- Whether the count of a statement's placeholders is the number of its parameters. -/
def Statement.Counted (s : Statement) : Prop := Statement.placeholderCount s.text = s.params.length

namespace Sql

open Statement

/-- The state of the count after a text. -/
def counted (s : PlaceholderScan) (text : List Char) : PlaceholderScan :=
  text.foldl PlaceholderScan.step s

theorem placeholderCount_eq (text : String) :
    placeholderCount text = (counted ⟨0, false, false⟩ text.toList).count := by
  rw [placeholderCount, String.foldl_eq_foldl_toList, counted]

theorem counted_append (s : PlaceholderScan) (first second : List Char) :
    counted s (first ++ second) = counted (counted s first) second := List.foldl_append

/-- Whether no quote of a text, nor the one that closes a literal after it, follows a backslash that the
count lets take it. The flag tells whether such a backslash came right before. -/
def seesQuotes : (escaped : Bool) → List Char → Bool
  | escaped, [] => !escaped
  | true, c :: rest => c ≠ '\'' && seesQuotes false rest
  | false, c :: rest => seesQuotes (c = '\\') rest

theorem seesQuotes_of_no_backslash {cs : List Char} (none : ∀ c ∈ cs, c ≠ '\\') :
    seesQuotes false cs = true := by
  induction cs with
  | nil => rfl
  | cons c cs ih =>
    obtain ⟨other, others⟩ := List.forall_mem_cons.1 none
    rw [seesQuotes, decide_eq_false other]
    exact ih others

/-- Whether the count passes over a literal as if it were not there. -/
def Passes (d : Dialect) (value : String) : Prop :=
  ∀ n, counted ⟨n, false, false⟩ (d.quote value).toList = ⟨n, false, false⟩

/-- An opening quote takes the count into a literal. -/
theorem counted_quote (d : Dialect) (value : String) (n : Nat) :
    counted ⟨n, false, false⟩ (d.quote value).toList =
      counted ⟨n, true, false⟩ (value.toList.flatMap d.literalChar ++ ['\'']) := by
  rw [toList_quote]
  rfl

/-- Backslashes of the second dialect keep the count inside a literal. -/
theorem passes_clickhouse (value : String) : Passes .clickhouse value := by
  intro n
  have char (c : Char) :
      counted ⟨n, true, false⟩ (Dialect.clickhouse.literalChar c) = ⟨n, true, false⟩ := by
    by_cases backslash : c = '\\'
    · simp [counted, Dialect.literalChar, PlaceholderScan.step, backslash]
    · by_cases quote : c = '\''
      · simp [counted, Dialect.literalChar, PlaceholderScan.step, quote]
      · by_cases mark : c = '?'
        · simp [counted, Dialect.literalChar, PlaceholderScan.step, mark]
        · simp [counted, Dialect.literalChar, PlaceholderScan.step, backslash, quote, mark]
  rw [counted_quote]
  induction value.toList with
  | nil => rfl
  | cons c cs ih => rw [List.flatMap_cons, List.append_assoc, counted_append, char, ih]

section First

/-- The characters of a literal of the first dialect, with its closing quote. -/
def spelled (cs : List Char) : List Char := cs.flatMap Dialect.duckdb.literalChar ++ ['\'']

theorem counted_spelled_cons (s : PlaceholderScan) (c : Char) (cs : List Char) :
    counted s (spelled (c :: cs)) =
      counted (counted s (Dialect.duckdb.literalChar c)) (spelled cs) := by
  rw [spelled, List.flatMap_cons, List.append_assoc, counted_append, spelled]

/-- Once the count has left a literal too early, its closing quote takes it in again. -/
theorem inLiteral_of_outside (cs : List Char) (n : Nat) :
    (counted ⟨n, false, false⟩ (spelled cs)).inLiteral = true := by
  induction cs generalizing n with
  | nil => rfl
  | cons c cs ih =>
    rw [counted_spelled_cons]
    by_cases quote : c = '\''
    · rw [quote]
      exact ih n
    · by_cases mark : c = '?'
      · rw [mark]
        exact ih (n + 1)
      · have other : counted ⟨n, false, false⟩ (Dialect.duckdb.literalChar c) = ⟨n, false, false⟩ := by
          simp [counted, Dialect.literalChar, PlaceholderScan.step, quote, mark]
        rw [other]
        exact ih n

/-- Inside a literal the count takes each quote for half of a doubled one, up to the last, unless a
backslash takes one of them. -/
theorem counted_inside (cs : List Char) (n : Nat) (escaped : Bool) :
    if seesQuotes escaped cs then counted ⟨n, true, escaped⟩ (spelled cs) = ⟨n, false, false⟩
    else (counted ⟨n, true, escaped⟩ (spelled cs)).inLiteral = true := by
  induction cs generalizing escaped with
  | nil => cases escaped <;> rfl
  | cons c cs ih =>
    rw [counted_spelled_cons]
    cases escaped with
    | true =>
      by_cases quote : c = '\''
      · have missed : seesQuotes true (c :: cs) = false := by simp [seesQuotes, quote]
        rw [missed, quote]
        exact inLiteral_of_outside cs n
      · have sees : seesQuotes true (c :: cs) = seesQuotes false cs := by simp [seesQuotes, quote]
        have taken : counted ⟨n, true, true⟩ (Dialect.duckdb.literalChar c) = ⟨n, true, false⟩ := by
          simp [counted, Dialect.literalChar, PlaceholderScan.step, quote]
        rw [sees, taken]
        exact ih false
    | false =>
      have next : counted ⟨n, true, false⟩ (Dialect.duckdb.literalChar c) = ⟨n, true, c = '\\'⟩ := by
        by_cases quote : c = '\''
        · simp [counted, Dialect.literalChar, PlaceholderScan.step, quote]
        · by_cases backslash : c = '\\'
          · simp [counted, Dialect.literalChar, PlaceholderScan.step, backslash]
          · simp [counted, Dialect.literalChar, PlaceholderScan.step, quote, backslash]
      rw [next]
      exact ih (c = '\\')

/-- The count passes over a literal of the first dialect exactly if no backslash takes a quote with it. -/
theorem passes_duckdb_iff (value : String) :
    Passes .duckdb value ↔ seesQuotes false value.toList = true := by
  have inside (n : Nat) := counted_inside value.toList n false
  simp only [Passes, counted_quote]
  constructor
  · intro passes
    by_contra missed
    have left := inside 0
    rw [if_neg missed, spelled, passes 0] at left
    exact absurd left (by decide)
  · intro sees n
    have passed := inside n
    rwa [if_pos sees] at passed

end First

/-- Whether the count passes over every literal of a fragment. -/
def Passable (d : Dialect) (q : Sql) : Prop := ∀ value, Piece.literal value ∈ q → Passes d value

theorem counted_plain {s : String} (plain : isPlain s = true) (n : Nat) :
    counted ⟨n, false, false⟩ s.toList = ⟨n, false, false⟩ := by
  unfold isPlain at plain
  generalize s.toList = cs at plain
  induction cs with
  | nil => rfl
  | cons c cs ih =>
    simp only [List.all_cons, Bool.and_eq_true, decide_eq_true_eq, ne_eq] at plain
    obtain ⟨⟨quote, mark⟩, others⟩ := plain
    have same : PlaceholderScan.step ⟨n, false, false⟩ c = ⟨n, false, false⟩ := by
      simp [PlaceholderScan.step, quote, mark]
    rw [counted, List.foldl_cons, same]
    exact ih others

theorem toList_render (d : Dialect) (q : Sql) :
    (d.render q).toList = q.flatMap fun piece => (d.spell piece).toList := by
  induction q with
  | nil => simp [Dialect.render]
  | cons piece q ih => rw [render_cons, ih, List.flatMap_cons]

/-- A fragment whose literals are passed over adds its parameters to the count. -/
theorem Passable.counted_render {d : Dialect} {after : Bool} {q : Sql} (passable : Passable d q)
    (apart : Apart after q) (n : Nat) :
    counted ⟨n, false, false⟩ (d.render q).toList = ⟨n + q.params.length, false, false⟩ := by
  induction q generalizing after n with
  | nil => simp [Dialect.render, counted, params]
  | cons piece q ih =>
    have rest : Passable d q := fun value mem => passable value (List.mem_cons_of_mem piece mem)
    rw [render_cons, counted_append]
    cases piece with
    | plain s =>
      rw [Dialect.spell, counted_plain apart.1, ih rest apart.2]
      rfl
    | literal value =>
      rw [Dialect.spell, passable value List.mem_cons_self, ih rest apart.2]
      rfl
    | slot p =>
      have others : Apart false q := apart
      have one : counted ⟨n, false, false⟩ (d.spell (.slot p)).toList = ⟨n + 1, false, false⟩ := by
        simp [Dialect.spell, counted, PlaceholderScan.step]
      have more : params (.slot p :: q) = p :: params q := rfl
      rw [one, ih rest others, more, List.length_cons, Nat.add_assoc, Nat.add_comm 1]

theorem Passable.counted {d : Dialect} {q : Sql} (passable : Passable d q) (loose : Loose q) :
    (d.statement q).Counted := by
  have all := passable.counted_render loose 0
  rw [Nat.zero_add] at all
  rw [Statement.Counted, placeholderCount_eq]
  exact congrArg PlaceholderScan.count all

section Fragments

variable {d : Dialect} {q r : Sql}

theorem passable_clickhouse (q : Sql) : Passable .clickhouse q := fun value _ => passes_clickhouse value

/-- A statement is counted right unless a literal of the first dialect keeps the count from it. -/
theorem Carries.counted {vs : List Param} (h : Carries q vs) (passable : d = .duckdb → Passable d q) :
    (d.statement q).Counted := by
  cases d with
  | duckdb => exact (passable rfl).counted h.loose
  | clickhouse => exact (passable_clickhouse q).counted h.loose

@[simp] theorem passable_nil : Passable d [] := by
  simp [Passable]

@[simp] theorem passable_append : Passable d (q ++ r) ↔ Passable d q ∧ Passable d r := by
  simp [Passable, or_imp, forall_and]

@[simp] theorem passable_plain (s : String) : Passable d (plain s) := by
  simp [Passable, plain]

@[simp] theorem passable_bind (p : Param) : Passable d (bind p) := by
  simp [Passable, bind]

@[simp] theorem passable_literal (value : String) : Passable d (literal value) ↔ Passes d value := by
  simp [Passable, literal]

@[simp] theorem passable_join (separator : String) (items : List Sql) :
    Passable d (join separator items) ↔ ∀ item ∈ items, Passable d item := by
  cases items with
  | nil => simp [join]
  | cons item items =>
    have rest : Passable d (items.flatMap fun r => .plain separator :: r) ↔
        ∀ r ∈ items, Passable d r := by
      simp only [Passable, List.mem_flatMap, List.mem_cons, reduceCtorEq, false_or]
      constructor
      · intro h r mem value held
        exact h value ⟨r, mem, held⟩
      · rintro h value ⟨r, mem, held⟩
        exact h r mem value held
    rw [join, passable_append, rest, List.forall_mem_cons]

@[simp] theorem passable_list (items : List Sql) :
    Passable d (list items) ↔ ∀ item ∈ items, Passable d item := passable_join ", " items

@[simp] theorem passable_bindTexts (values : List String) : Passable d (bindTexts values) := by
  simp [bindTexts]

end Fragments

end Sql

namespace Dialect

open Sql

variable {d : Dialect}

@[simp] theorem passable_call (f : String) (args : List Sql) :
    Passable d (call f args) ↔ ∀ arg ∈ args, Passable d arg := by
  simp [call]

@[simp] theorem passable_cast (e : Sql) (type : String) :
    Passable d (cast e type) ↔ Passable d e := by
  simp [cast]

end Dialect

end Metering
