import Metering.Proofs.Sql.Condition

/-!
How a database reads conditions on any fields. An expression reaches to the first space that is not in
parentheses, and an operator makes a test of it; `AND` binds stronger than `OR`, and parentheses bind
strongest (`Sql.treeReading`). A fragment that is read as one tree, whatever a condition may be followed
by, is one that `Sql.Stands` for the tree: the rules here show it of tests, and of several conditions in
parentheses that a connective joins. Conditions that `AND` joins are read as the trees that each of them
stands for (`Sql.tree?_join`).
-/
namespace Metering

open Metering.Filter (Comparison PatternMatch Operator Bindable)

namespace Sql

/-- A value as it stands in a condition: a parameter, or the instant that is made of one. -/
inductive Term where
  | value (p : Param)
  | instant (p : Param)

def Term.param : Term → Param
  | value p => p
  | instant p => p

instance : Bindable Term where
  bind
    | _, .value p => Sql.bind p
    | d, .instant p => d.bindInstant p

theorem binds_term (d : Dialect) (t : Term) : Binds (Bindable.bind d t) [t.param] := by
  cases t with
  | value p => exact binds_bind p
  | instant p => exact Dialect.binds_bindInstant d p

instance : Operand Term where
  read? d
    | .value p :: ts => some (.value p, ts)
    | ts =>
      match after (chars (instantFunction d ++ "(")) ts with
      | some (.value p :: ts) => (after (chars ")") ts).map fun rest => (.instant p, rest)
      | _ => none
  bound := id
  solid d t := (binds_term d t).solid
  read?_bind d t rest := by
    cases t with
    | value p => rfl
    | instant p => cases d <;> rfl

/-- A test of a field. -/
structure Test where
  field : List Filled
  operator : Operator
  terms : List Term

/-- Conditions as they are understood. -/
inductive Tree where
  /-- A condition that no row meets. -/
  | never
  | test (t : Test)
  | all (members : List Tree)
  | any (members : List Tree)

/-- Several trees put together; one alone stays as it is. -/
def Tree.joined (join : List Tree → Tree) : List Tree → Tree
  | [t] => t
  | ts => join ts

/-- What a combination is, when there is anything to combine. -/
def Tree.combined? (join : List Tree → Tree) (ts : List Tree) : Option Tree :=
  if ts.isEmpty then none else some (joined join ts)

/-- Alternatives, of which each is made of conditions that `AND` joins. -/
structure TreeAlternatives where
  first : List Tree
  others : List (List Tree)

def TreeAlternatives.tree (a : TreeAlternatives) : Tree :=
  Tree.joined .any ((a.first :: a.others).map (Tree.joined .all))

/-- Whether an expression ends in front of a token, unless that is in parentheses. -/
def Filled.ends : Filled → Bool
  | .char c => c == ' ' || c == ')'
  | _ => false

def Filled.closes : Filled → Bool
  | .char c => c == ')'
  | _ => false

/-- How many parentheses are open after a token. -/
def Filled.nest (depth : Nat) : Filled → Nat
  | .char c => if c = '(' then depth + 1 else if c = ')' then depth - 1 else depth
  | _ => depth

/-- An expression, and what follows it. -/
def expression : Nat → List Filled → List Filled × List Filled
  | _, [] => ([], [])
  | depth, t :: ts =>
    if depth = 0 ∧ t.ends then ([], t :: ts)
    else
      let rest := expression (t.nest depth) ts
      (t :: rest.1, rest.2)

/-- The terms of an operator. -/
def terms? (d : Dialect) (n : Nat) : Operator → List Filled → Option (List Term × List Filled)
  | .comparison _, ts => (Operand.read? d ts).map fun r => ([r.1], r.2)
  | .pattern _, ts => (Operand.read? d ts).map fun r => ([r.1], r.2)
  | .within, ts => (after (chars "(") ts).bind (operands? d n)
  | .notWithin, ts => (after (chars "(") ts).bind (operands? d n)
  | .all, _ => none
  | .any, _ => none

def test? (d : Dialect) (n : Nat) (ts : List Filled) : Option (Tree × List Filled) := do
  let (field, ts) := expression 0 ts
  let (o, ts) ← operator? ts
  let (terms, ts) ← terms? d n o ts
  return (.test ⟨field, o, terms⟩, ts)

/-- A test, a condition in parentheses, or one that no row meets. -/
def primaryTree? (d : Dialect) (inner : List Filled → Option (TreeAlternatives × List Filled)) (n : Nat)
    (ts : List Filled) : Option (Tree × List Filled) :=
  match test? d n ts with
  | some r => some r
  | none =>
    match after (chars "(") ts with
    | some ts => do
      let (alternatives, ts) ← inner ts
      return (alternatives.tree, ← after (chars ")") ts)
    | none => (after (chars "1 = 0") ts).map fun rest => (.never, rest)

/-- The alternatives at the start, as far as connectives join them, and what follows. -/
def treeReading (d : Dialect) : Nat → List Filled → Option (TreeAlternatives × List Filled)
  | 0, _ => none
  | n + 1, ts => do
    let (t, ts) ← primaryTree? d (treeReading d n) n ts
    match after (chars " AND ") ts with
    | some ts => do
      let (rest, ts) ← treeReading d n ts
      return (⟨t :: rest.first, rest.others⟩, ts)
    | none =>
      match after (chars " OR ") ts with
      | some ts => do
        let (rest, ts) ← treeReading d n ts
        return (⟨[t], rest.first :: rest.others⟩, ts)
      | none => some (⟨[t], []⟩, ts)

end Sql

/-- The tree as which a statement is read that is a condition. -/
def Statement.tree? (d : Dialect) (s : Statement) : Option Sql.Tree := do
  let ts ← Sql.fill (Sql.read d s.text) s.params
  match ← Sql.treeReading d (ts.length + 1) ts with
  | (alternatives, []) => return alternatives.tree
  | _ => none

namespace Sql

/-- Whether the parentheses match, with some open before. -/
def matched : Nat → List Filled → Bool
  | depth, [] => depth = 0
  | depth, t :: ts => ¬ (depth = 0 ∧ t.closes) && matched (t.nest depth) ts

/-- Whether tokens are an expression: the parentheses match, and spaces are in parentheses. -/
def isExpression : Nat → List Filled → Bool
  | depth, [] => depth = 0
  | depth, t :: ts => ¬ (depth = 0 ∧ t.ends) && isExpression (t.nest depth) ts

theorem matched_cons {depth : Nat} {t : Filled} {ts : List Filled} :
    matched depth (t :: ts) = true ↔
      ¬ (depth = 0 ∧ t.closes = true) ∧ matched (t.nest depth) ts = true := by
  rw [matched, Bool.and_eq_true, decide_eq_true_eq]

theorem isExpression_cons {depth : Nat} {t : Filled} {ts : List Filled} :
    isExpression depth (t :: ts) = true ↔
      ¬ (depth = 0 ∧ t.ends = true) ∧ isExpression (t.nest depth) ts = true := by
  rw [isExpression, Bool.and_eq_true, decide_eq_true_eq]

theorem ends_of_closes {t : Filled} (h : t.closes = true) : t.ends = true := by
  cases t with
  | char c => exact Bool.or_eq_true_iff.2 (.inr h)
  | literal text => cases h
  | value p => cases h

theorem matched_of_isExpression {depth : Nat} {ts : List Filled} (h : isExpression depth ts = true) :
    matched depth ts = true := by
  induction ts generalizing depth with
  | nil => exact h
  | cons t ts ih =>
    obtain ⟨inside, rest⟩ := isExpression_cons.1 h
    exact matched_cons.2 ⟨fun closed => inside ⟨closed.1, ends_of_closes closed.2⟩, ih rest⟩

theorem nest_add {depth k : Nat} {t : Filled} (h : ¬ (depth = 0 ∧ t.closes = true)) :
    t.nest (depth + k) = t.nest depth + k := by
  cases t with
  | char c =>
    by_cases opens : c = '('
    · simp only [Filled.nest, if_pos opens]
      omega
    · by_cases closes : c = ')'
      · have more : depth ≠ 0 := fun none => h ⟨none, by simp [Filled.closes, closes]⟩
        simp only [Filled.nest, if_neg opens, if_pos closes]
        omega
      · simp only [Filled.nest, if_neg opens, if_neg closes]
  | literal text => rfl
  | value p => rfl

theorem matched_append {depth k : Nat} {ts us : List Filled} (first : matched depth ts = true)
    (second : matched k us = true) : matched (depth + k) (ts ++ us) = true := by
  induction ts generalizing depth with
  | nil =>
    obtain rfl : depth = 0 := of_decide_eq_true first
    rwa [Nat.zero_add]
  | cons t ts ih =>
    obtain ⟨inside, rest⟩ := matched_cons.1 first
    have open' : ¬ (depth + k = 0 ∧ t.closes = true) := fun closed => inside ⟨by omega, closed.2⟩
    rw [List.cons_append, matched_cons, nest_add inside]
    exact ⟨open', ih rest⟩

/-- An expression ends in front of a space or a closing parenthesis. -/
theorem expression_append {depth : Nat} {e : List Filled} (h : isExpression depth e = true) {t : Filled}
    (ends : t.ends = true) (ts : List Filled) : expression depth (e ++ t :: ts) = (e, t :: ts) := by
  induction e generalizing depth with
  | nil =>
    obtain rfl : depth = 0 := of_decide_eq_true h
    exact if_pos ⟨rfl, ends⟩
  | cons s e ih =>
    obtain ⟨inside, rest⟩ := isExpression_cons.1 h
    rw [List.cons_append, expression, if_neg inside, ih rest]

/-- An expression goes on through everything that is in parentheses. -/
theorem expression_matched {depth : Nat} {ts : List Filled} (h : matched depth ts = true) (k : Nat)
    (rest : List Filled) : expression (depth + (k + 1)) (ts ++ rest) =
      (ts ++ (expression (k + 1) rest).1, (expression (k + 1) rest).2) := by
  induction ts generalizing depth with
  | nil =>
    obtain rfl : depth = 0 := of_decide_eq_true h
    rw [Nat.zero_add]
    rfl
  | cons t ts ih =>
    obtain ⟨inside, matches'⟩ := matched_cons.1 h
    rw [List.cons_append, expression, if_neg (by omega), nest_add inside, ih matches']
    rfl

/-- What may come after a condition: nothing, a connective, the end of the parentheses around it, or what
rows are grouped by. -/
inductive Ends : List Filled → Prop where
  | nothing : Ends []
  | and (ts : List Filled) : Ends (chars " AND " ++ ts)
  | or (ts : List Filled) : Ends (chars " OR " ++ ts)
  | close (ts : List Filled) : Ends (chars ")" ++ ts)
  | group (ts : List Filled) : Ends (chars " GROUP BY " ++ ts)

theorem Ends.operator? {rest : List Filled} (h : Ends rest) : operator? rest = none := by
  cases h <;> rfl

/-- An expression in parentheses ends with them, if a condition does. -/
theorem Ends.expression_parens {rest ts : List Filled} (h : Ends rest) (parens : matched 0 ts = true) :
    expression 0 (chars "(" ++ (ts ++ (chars ")" ++ rest))) = (chars "(" ++ (ts ++ chars ")"), rest) := by
  have closed : expression 1 (chars ")" ++ rest) = (chars ")", rest) := by
    cases h <;> rfl
  have inner := expression_matched parens 0 (chars ")" ++ rest)
  rw [Nat.zero_add, Nat.zero_add, closed] at inner
  have opened : expression 0 (chars "(" ++ (ts ++ (chars ")" ++ rest))) =
      (.char '(' :: (expression 1 (ts ++ (chars ")" ++ rest))).1,
        (expression 1 (ts ++ (chars ")" ++ rest))).2) := rfl
  rw [opened, inner]
  rfl

variable {d : Dialect}

theorem matched_join {separator : String} {qs : List Sql} (spaced : matched 0 (chars separator) = true)
    (parens : ∀ q ∈ qs, matched 0 (filled d q) = true) :
    matched 0 (filled d (join separator qs)) = true := by
  induction qs with
  | nil => rfl
  | cons q qs ih =>
    rw [List.forall_mem_cons] at parens
    cases qs with
    | nil =>
      rw [filled_join_singleton]
      exact parens.1
    | cons r qs =>
      rw [filled_join_cons]
      exact matched_append parens.1 (matched_append spaced (ih parens.2))

theorem matched_enclosed {q : Sql} (parens : matched 0 (filled d q) = true) :
    matched 0 (filled d (plain "(" ++ q ++ plain ")")) = true := by
  have closed : matched (0 + 1) (filled d q ++ chars ")") = true := matched_append parens rfl
  rw [filled_append, filled_append, filled_plain, filled_plain, List.append_assoc]
  exact closed

theorem matched_term (t : Term) : matched 0 (filled d (Bindable.bind d t)) = true := by
  cases t with
  | value p => rfl
  | instant p => cases d <;> rfl

theorem binds_terms (d : Dialect) (ws : List Term) : Binds (Filter.bindList d ws) (ws.map Term.param) := by
  have carries := carries_list (l := ws.map (Bindable.bind d)) (by
    intro item mem
    obtain ⟨w, -, rfl⟩ := List.mem_map.1 mem
    exact (binds_term d w).carries.loose)
  have flat : (ws.map (Bindable.bind d)).flatMap params = ws.map Term.param := by
    rw [List.flatMap_map, List.map_eq_flatMap]
    exact List.flatMap_congr fun w _ => (binds_term d w).params
  rw [flat] at carries
  exact (binds_plain (by decide)).around carries (binds_plain (by decide))

theorem matched_bindList (ws : List Term) : matched 0 (filled d (Filter.bindList d ws)) = true := by
  refine matched_enclosed (matched_join (by decide) fun item mem => ?_)
  obtain ⟨w, -, rfl⟩ := List.mem_map.1 mem
  exact matched_term w

/-- A fragment that is read as a tree, with whatever a condition may be followed by. -/
structure Stands (d : Dialect) (q : Sql) (t : Tree) : Prop where
  solid : Solid q
  parens : matched 0 (filled d q) = true
  reads : ∀ n rest, (filled d q).length ≤ n → Ends rest →
    primaryTree? d (treeReading d n) n (filled d q ++ rest) = some (t, rest)

theorem Stands.of_filled {q r : Sql} {t : Tree} (h : Stands d q t) (solid : Solid r)
    (same : filled d r = filled d q) : Stands d r t :=
  ⟨solid, by rw [same]; exact h.parens, by rw [same]; exact h.reads⟩

/-- An expression that binds nothing, to be compared with something. -/
structure Atomic (d : Dialect) (field : Sql) : Prop where
  binds : Binds field []
  expression : isExpression 0 (filled d field) = true

/-- The name of a column is one expression. -/
theorem atomic_column {column : String} (spacer : isSpacer column = true)
    (expression : isExpression 0 (chars column) = true) : Atomic d (plain column) :=
  ⟨binds_plain spacer, by rwa [filled_plain]⟩

theorem stands_never : Stands d Filter.never .never where
  solid := (binds_plain (by decide)).solid
  parens := by
    rw [Filter.never, filled_plain]
    decide
  reads n rest _ _ := by
    -- `1 = ` begins a test, but a zero is no term
    have zero : terms? d n (.comparison .equal) (chars "0" ++ rest) = none := by
      cases d <;> rfl
    have one : expression 0 (chars "1 = 0" ++ rest) = (chars "1", chars " = 0" ++ rest) := rfl
    have equals : operator? (chars " = 0" ++ rest) = some (.comparison .equal, chars "0" ++ rest) := rfl
    have test : test? d n (chars "1 = 0" ++ rest) = none := by
      simp only [test?, one, equals, zero, Option.bind_eq_bind, Option.bind_some, Option.bind_none]
    rw [Filter.never, filled_plain, primaryTree?, test]
    rfl

theorem terms?_one {o : Operator} {t : Term} (n : Nat) (rest : List Filled)
    (one : (∃ c, o = .comparison c) ∨ ∃ p, o = .pattern p) :
    terms? d n o (filled d (Bindable.bind d t) ++ rest) = some ([t], rest) := by
  have read := Operand.read?_bind d t rest
  rcases one with ⟨c, rfl⟩ | ⟨p, rfl⟩
  · rw [terms?, read]
    rfl
  · rw [terms?, read]
    rfl

theorem terms?_list {o : Operator} {ws : List Term} (any : ws ≠ []) {n : Nat} (rest : List Filled)
    (fits : (filled d (Filter.bindList d ws)).length ≤ n) (several : o = .within ∨ o = .notWithin) :
    terms? d n o (filled d (Filter.bindList d ws) ++ rest) = some (ws, rest) := by
  have read := operands?_bindList any rest fits
  rw [show ws.map Operand.bound = ws from List.map_id ws] at read
  rcases several with rfl | rfl
  · exact read
  · exact read

theorem matched_operator {o : String × Operator} (mem : o ∈ operatorNames) :
    matched 0 (chars (" " ++ o.1 ++ " ")) = true := by
  revert o
  decide

/-- A field ends in front of its operator. -/
theorem expression_operator {field : Sql} (atomic : Atomic d field) (operator : String)
    (ts : List Filled) :
    expression 0 (filled d field ++ (chars (" " ++ operator ++ " ") ++ ts)) =
      (filled d field, chars (" " ++ operator ++ " ") ++ ts) := by
  have space : chars (" " ++ operator ++ " ") = .char ' ' :: chars (operator ++ " ") := by
    simp [chars, String.toList_append]
  rw [space]
  exact expression_append atomic.expression rfl _

/-- A field with an operator and its terms. -/
theorem stands_test {field operand : Sql} (atomic : Atomic d field) {o : String × Operator}
    (mem : o ∈ operatorNames) (solid : Solid operand) (parens : matched 0 (filled d operand) = true)
    {terms : List Term} (reads : ∀ n rest, (filled d operand).length ≤ n →
      terms? d n o.2 (filled d operand ++ rest) = some (terms, rest)) :
    Stands d (Filter.binary field o.1 operand) (.test ⟨filled d field, o.2, terms⟩) where
  solid r loose := by
    have binds := (atomic.binds.append (binds_plain (isSpacer_of_mem mem))).solid
    rw [Filter.binary, List.append_assoc]
    exact binds _ (solid r loose).mono
  parens := by
    have named := matched_append (matched_of_isExpression atomic.expression) (matched_operator mem)
    rw [Filter.binary, filled_append, filled_append, filled_plain]
    exact matched_append named parens
  reads n rest fits _ := by
    have shorter : (filled d operand).length ≤ n := by
      simp only [Filter.binary, filled_append, List.length_append] at fits
      omega
    have spelled : filled d (Filter.binary field o.1 operand) ++ rest =
        filled d field ++ (chars (" " ++ o.1 ++ " ") ++ (filled d operand ++ rest)) := by
      simp only [Filter.binary, filled_append, filled_plain, List.append_assoc]
    have ended := expression_operator atomic o.1 (filled d operand ++ rest)
    have test : test? d n (filled d (Filter.binary field o.1 operand) ++ rest) =
        some (.test ⟨filled d field, o.2, terms⟩, rest) := by
      simp only [test?, spelled, ended, operator?_of_mem mem, reads n rest shorter,
        Option.bind_eq_bind, Option.bind_some, Option.pure_def]
    rw [primaryTree?, test]

/-- A field that is compared with a term, or matched with a pattern. -/
theorem stands_term {field : Sql} (atomic : Atomic d field) {o : String × Operator}
    (mem : o ∈ operatorNames) (one : (∃ c, o.2 = .comparison c) ∨ ∃ p, o.2 = .pattern p) (t : Term) :
    Stands d (Filter.binary field o.1 (Bindable.bind d t)) (.test ⟨filled d field, o.2, [t]⟩) :=
  stands_test atomic mem (binds_term d t).solid (matched_term t) fun n rest _ => terms?_one n rest one

/-- A field that is looked up in a list. -/
theorem stands_terms {field : Sql} (atomic : Atomic d field) {o : String × Operator}
    (mem : o ∈ operatorNames) (several : o.2 = .within ∨ o.2 = .notWithin) {ws : List Term}
    (any : ws ≠ []) :
    Stands d (Filter.binary field o.1 (Filter.bindList d ws)) (.test ⟨filled d field, o.2, ws⟩) :=
  stands_test atomic mem (binds_terms d ws).solid (matched_bindList ws) fun _ rest fits =>
    terms?_list any rest fits several

section Chain

variable {q : Sql} {t : Tree} {n : Nat} {ts : List Filled}

theorem Stands.reading_last (stands : Stands d q t) (fits : (filled d q).length < n) (ends : Ends ts)
    (stops : Stops ts) : treeReading d n (filled d q ++ ts) = some (⟨[t], []⟩, ts) := by
  obtain ⟨n, rfl⟩ : ∃ k, n = k + 1 := ⟨n - 1, by omega⟩
  rw [treeReading, stands.reads n _ (by omega) ends]
  simp only [Option.bind_eq_bind, Option.bind_some, stops.1, stops.2]

theorem Stands.reading_and (stands : Stands d q t) (fits : (filled d q).length ≤ n) :
    treeReading d (n + 1) (filled d q ++ (chars " AND " ++ ts)) =
      (treeReading d n ts).map fun r => (⟨t :: r.1.first, r.1.others⟩, r.2) := by
  rw [treeReading, stands.reads n _ fits (.and ts)]
  simp only [Option.bind_eq_bind, Option.bind_some, after_chars, Option.pure_def]
  rw [Option.map_eq_bind]
  rfl

theorem Stands.reading_or (stands : Stands d q t) (fits : (filled d q).length ≤ n) :
    treeReading d (n + 1) (filled d q ++ (chars " OR " ++ ts)) =
      (treeReading d n ts).map fun r => (⟨[t], r.1.first :: r.1.others⟩, r.2) := by
  have other : after (chars " AND ") (chars " OR " ++ ts) = none := rfl
  rw [treeReading, stands.reads n _ fits (.or ts)]
  simp only [Option.bind_eq_bind, Option.bind_some, after_chars, other, Option.pure_def]
  rw [Option.map_eq_bind]
  rfl

end Chain

section Joined

variable {q : Sql} {t : Tree} {qs : List Sql} {ts : List Tree}

/-- Conditions that `AND` joins are one alternative. -/
theorem treeReading_all (first : Stands d q t) (others : List.Forall₂ (Stands d) qs ts) {n : Nat}
    {rest : List Filled} (fits : (filled d (join " AND " (q :: qs))).length < n) (ends : Ends rest)
    (stops : Stops rest) :
    treeReading d n (filled d (join " AND " (q :: qs)) ++ rest) = some (⟨t :: ts, []⟩, rest) := by
  induction others generalizing q t n with
  | nil =>
    rw [filled_join_singleton] at fits ⊢
    exact first.reading_last fits ends stops
  | cons second others ih =>
    obtain ⟨n, rfl⟩ : ∃ k, n = k + 1 := ⟨n - 1, by omega⟩
    have connective : (chars " AND ").length = 5 := rfl
    rw [filled_join_cons, List.length_append, List.length_append] at fits
    rw [filled_join_cons, List.append_assoc, List.append_assoc, first.reading_and (by omega),
      ih second (by omega)]
    rfl

/-- Conditions that `OR` joins are an alternative each. -/
theorem treeReading_any (first : Stands d q t) (others : List.Forall₂ (Stands d) qs ts) {n : Nat}
    {rest : List Filled} (fits : (filled d (join " OR " (q :: qs))).length < n) (ends : Ends rest)
    (stops : Stops rest) :
    treeReading d n (filled d (join " OR " (q :: qs)) ++ rest) =
      some (⟨[t], ts.map fun t => [t]⟩, rest) := by
  induction others generalizing q t n with
  | nil =>
    rw [filled_join_singleton] at fits ⊢
    exact first.reading_last fits ends stops
  | cons second others ih =>
    obtain ⟨n, rfl⟩ : ∃ k, n = k + 1 := ⟨n - 1, by omega⟩
    have connective : (chars " OR ").length = 4 := rfl
    rw [filled_join_cons, List.length_append, List.length_append] at fits
    rw [filled_join_cons, List.append_assoc, List.append_assoc, first.reading_or (by omega),
      ih second (by omega)]
    rfl

theorem exists_related {α β : Type} {R : α → β → Prop} {l : List α} {m : List β}
    (h : List.Forall₂ R l m) : ∀ x ∈ l, ∃ y, R x y := by
  induction h with
  | nil => nofun
  | cons first others ih =>
    rw [List.forall_mem_cons]
    exact ⟨⟨_, first⟩, ih⟩

theorem loose_joined {separator : String} (spacer : isSpacer separator = true)
    (stand : List.Forall₂ (Stands d) qs ts) : Loose (join separator qs) := by
  refine (carries_join spacer fun q mem => ?_).loose
  obtain ⟨t, stands⟩ := exists_related stand q mem
  exact stands.solid.loose

theorem matched_joined {separator : String} (spaced : matched 0 (chars separator) = true)
    (stand : List.Forall₂ (Stands d) qs ts) : matched 0 (filled d (join separator qs)) = true := by
  refine matched_join spaced fun q mem => ?_
  obtain ⟨t, stands⟩ := exists_related stand q mem
  exact stands.parens

/-- Parentheses bind strongest: what is in them is one condition. -/
theorem stands_parens {alternatives : TreeAlternatives} (loose : Loose q)
    (parens : matched 0 (filled d q) = true)
    (reads : ∀ {n : Nat} {rest : List Filled}, (filled d q).length < n → Ends rest → Stops rest →
      treeReading d n (filled d q ++ rest) = some (alternatives, rest)) :
    Stands d (plain "(" ++ q ++ plain ")") alternatives.tree where
  solid := ((binds_plain (s := "(") (by decide)).around ⟨loose, rfl⟩ (binds_plain (by decide))).solid
  parens := matched_enclosed parens
  reads n rest fits ends := by
    have marks : (chars "(").length = 1 ∧ (chars ")").length = 1 := ⟨rfl, rfl⟩
    rw [filled_append, filled_append, filled_plain, filled_plain, List.length_append,
      List.length_append] at fits
    have shorter : (filled d q).length < n := by omega
    have inner := reads shorter (.close rest) ⟨rfl, rfl⟩
    -- taken for a field, what is in parentheses has no operator after it
    have test : test? d n (chars "(" ++ (filled d q ++ (chars ")" ++ rest))) = none := by
      simp only [test?, ends.expression_parens parens, ends.operator?, Option.bind_eq_bind,
        Option.bind_none]
    rw [filled_append, filled_append, filled_plain, filled_plain, List.append_assoc,
      List.append_assoc, primaryTree?, test]
    simp only [after_chars, inner, Option.bind_eq_bind, Option.bind_some, Option.pure_def]

theorem combine_all_stands (stand : List.Forall₂ (Stands d) qs ts) :
    Option.Rel (Stands d) (Filter.combine "AND" qs) (Tree.combined? .all ts) := by
  have loose : Loose (join " AND " qs) := loose_joined (by decide) stand
  have parens : matched 0 (filled d (join " AND " qs)) = true := matched_joined (by decide) stand
  cases stand with
  | nil => exact .none
  | cons first others =>
    cases others with
    | nil => exact .some first
    | cons second others =>
      exact .some (stands_parens loose parens fun fits ends stops =>
        treeReading_all first (.cons second others) fits ends stops)

theorem combine_any_stands (stand : List.Forall₂ (Stands d) qs ts) :
    Option.Rel (Stands d) (Filter.combine "OR" qs) (Tree.combined? .any ts) := by
  have loose : Loose (join " OR " qs) := loose_joined (by decide) stand
  have parens : matched 0 (filled d (join " OR " qs)) = true := matched_joined (by decide) stand
  cases stand with
  | nil => exact .none
  | cons first others =>
    cases others with
    | nil => exact .some first
    | @cons r t' qs ts second others =>
      have alone : ((t' :: ts).map fun t => [t]).map (Tree.joined .all) = t' :: ts := by
        rw [List.map_map]
        exact List.map_id _
      have stands := stands_parens loose parens fun fits ends stops =>
        treeReading_any first (.cons second others) fits ends stops
      rw [TreeAlternatives.tree, List.map_cons, alone] at stands
      exact .some stands

/-- Conditions that `AND` joins are read as the trees that they stand for. -/
theorem tree?_join (stand : List.Forall₂ (Stands d) qs ts) (any : qs ≠ []) :
    (d.statement (join " AND " qs)).tree? d = some (.joined .all ts) := by
  have loose : Loose (join " AND " qs) := loose_joined (by decide) stand
  have fills : fill (read d (d.statement (join " AND " qs)).text) (d.statement (join " AND " qs)).params =
      some (filled d (join " AND " qs)) := (loose.linesUp rfl).filled
  cases stand with
  | nil => exact absurd rfl any
  | cons first others =>
    have reads := treeReading_all first others (Nat.lt_succ_self _) .nothing ⟨rfl, rfl⟩
    rw [List.append_nil] at reads
    simp only [Statement.tree?, fills, reads, Option.bind_eq_bind, Option.bind_some, Option.pure_def]
    rfl

end Joined

end Sql

end Metering
