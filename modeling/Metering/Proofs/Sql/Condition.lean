import Mathlib.Data.List.Forall2
import Metering.Filter.Sql
import Metering.Proofs.Sql.Dialect

/-!
How a database reads a condition on one field, once the parameters of the statement are in their places.
`AND` binds stronger than `OR`, and parentheses bind strongest; an operator stands between the field and
an operand or a list of operands (`Sql.reading`). What is read is a `Sql.Predicate` on the values of the
field. A fragment that is read as the same predicate wherever a condition may stand is one that
`Sql.Means` it: the rules here show it of single conditions, and of several in parentheses that a
connective joins.
-/
namespace Metering

open Metering.Filter (Comparison PatternMatch Operator Comparable Bindable)

namespace Sql

/-- A condition on a field as it is understood. -/
inductive Predicate (α : Type) where
  /-- A condition that no value meets. -/
  | never
  | comparison (c : Comparison) (operand : α)
  | pattern (p : PatternMatch) (text : String)
  | within (operands : List α)
  | notWithin (operands : List α)
  | all (members : List (Predicate α))
  | any (members : List (Predicate α))

namespace Predicate

variable {α : Type}

mutual

/-- Whether a value meets a condition. -/
def holds [Comparable α] : Predicate α → α → Bool
  | never, _ => false
  | comparison c w, v => c.holds v w
  | pattern p text, v =>
    match Comparable.patternText? (α := α) with
    | some toText => p.holds (toText v) text
    | none => false
  | within ws, v => ws.any (Comparable.equal v)
  | notWithin ws, v => !ws.any (Comparable.equal v)
  | all ps, v => everyHolds ps v
  | any ps, v => someHolds ps v

def everyHolds [Comparable α] : List (Predicate α) → α → Bool
  | [], _ => true
  | p :: ps, v => p.holds v && everyHolds ps v

def someHolds [Comparable α] : List (Predicate α) → α → Bool
  | [], _ => false
  | p :: ps, v => p.holds v || someHolds ps v

end

/-- Several conditions put together; one alone stays as it is. -/
def joined (join : List (Predicate α) → Predicate α) : List (Predicate α) → Predicate α
  | [p] => p
  | ps => join ps

/-- Alternatives, of which each is made of conditions that `AND` joins. -/
structure Alternatives (α : Type) where
  first : List (Predicate α)
  others : List (List (Predicate α))

/-- `AND` binds stronger than `OR`. -/
def Alternatives.predicate (a : Alternatives α) : Predicate α :=
  joined any ((a.first :: a.others).map (joined all))

end Predicate

open Predicate (Alternatives joined)

/-- The operators of SQL. -/
def operatorNames : List (String × Operator) :=
  [("=", .comparison .equal), ("!=", .comparison .unequal), (">", .comparison .greater),
    (">=", .comparison .atLeast), ("<", .comparison .less), ("<=", .comparison .atMost),
    ("LIKE", .pattern .like), ("NOT LIKE", .pattern .notLike), ("ILIKE", .pattern .ilike),
    ("NOT ILIKE", .pattern .notIlike), ("IN", .within), ("NOT IN", .notWithin)]

/-- What follows a beginning that holds no parameters. -/
def after : List Filled → List Filled → Option (List Filled)
  | [], ts => some ts
  | .char c :: start, .char c' :: ts => if c = c' then after start ts else none
  | .literal text :: start, .literal text' :: ts => if text = text' then after start ts else none
  | _, _ => none

def chars (s : String) : List Filled := s.toList.map .char

/-- An operator with a space before and after it. -/
def operator? (ts : List Filled) : Option (Operator × List Filled) :=
  operatorNames.findSome? fun o => (after (chars (" " ++ o.1 ++ " ")) ts).map fun rest => (o.2, rest)

def filled (d : Dialect) (q : Sql) : List Filled := q.flatMap (Piece.filled d)

/-- Values that a database reads from the expressions in which they are bound. -/
class Operand (α : Type) [Bindable α] where
  /-- The value of the expression at the start, and what follows it. -/
  read? : Dialect → List Filled → Option (α × List Filled)
  /-- The value as the database has it. -/
  bound : α → α
  solid : ∀ (d : Dialect) (w : α), Solid (Bindable.bind d w)
  read?_bind : ∀ (d : Dialect) (w : α) (rest : List Filled),
    read? d (filled d (Bindable.bind d w) ++ rest) = some (bound w, rest)

instance : Operand String where
  read? _
    | .value (.text s) :: ts => some (s, ts)
    | _ => none
  bound := id
  solid _ _ := (binds_bind _).solid
  read?_bind _ _ _ := rfl

instance : Operand Int where
  read? _
    | .value (.integer n) :: ts => some (n, ts)
    | _ => none
  bound := id
  solid _ _ := (binds_bind _).solid
  read?_bind _ _ _ := rfl

instance : Operand Float where
  read? _
    | .value (.number x) :: ts => some (x, ts)
    | _ => none
  bound := id
  solid _ _ := (binds_bind _).solid
  read?_bind _ _ _ := rfl

/-- The function that makes an instant of microseconds. -/
def instantFunction : Dialect → String
  | .duckdb => "make_timestamp"
  | .clickhouse => "fromUnixTimestamp64Micro"

instance : Operand Instant where
  read? d ts :=
    match after (chars (instantFunction d ++ "(")) ts with
    | some (.value (.integer n) :: ts) => (after (chars ")") ts).map fun rest => (⟨n * 1000⟩, rest)
    | _ => none
  bound := Instant.microsecondStart
  solid d w := (Dialect.binds_bindInstant d _).solid
  read?_bind d w rest := by
    cases d with
    | duckdb => rfl
    | clickhouse => rfl

section Reading

variable {α : Type} [Bindable α] [Operand α] (d : Dialect)

/-- The operands of a list up to its end. -/
def operands? : Nat → List Filled → Option (List α × List Filled)
  | 0, _ => none
  | n + 1, ts => do
    let (w, ts) ← Operand.read? d ts
    match after (chars ", ") ts with
    | some ts => do
      let (ws, ts) ← operands? n ts
      return (w :: ws, ts)
    | none => return ([w], ← after (chars ")") ts)

/-- An operator with what follows it, the operand or a list of operands. -/
def applied? (n : Nat) : Operator → List Filled → Option (Predicate α × List Filled)
  | .comparison c, ts => do
    let (w, ts) ← Operand.read? d ts
    return (.comparison c w, ts)
  | .pattern p, .value (.text text) :: ts => some (.pattern p text, ts)
  | .within, ts => do
    let (ws, ts) ← operands? d n (← after (chars "(") ts)
    return (.within ws, ts)
  | .notWithin, ts => do
    let (ws, ts) ← operands? d n (← after (chars "(") ts)
    return (.notWithin ws, ts)
  | _, _ => none

variable (field : List Filled)

/-- A condition in parentheses, one that no value meets, or one on the field. -/
def primary? (inner : List Filled → Option (Alternatives α × List Filled)) (n : Nat)
    (ts : List Filled) : Option (Predicate α × List Filled) :=
  match after (chars "(") ts with
  | some ts => do
    let (alternatives, ts) ← inner ts
    return (alternatives.predicate, ← after (chars ")") ts)
  | none =>
    match after (chars "1 = 0") ts with
    | some ts => some (.never, ts)
    | none => do
      let (o, ts) ← operator? (← after field ts)
      applied? d n o ts

/-- The alternatives at the start, as far as connectives join them, and what follows. -/
def reading : Nat → List Filled → Option (Alternatives α × List Filled)
  | 0, _ => none
  | n + 1, ts => do
    let (p, ts) ← primary? d field (reading n) n ts
    match after (chars " AND ") ts with
    | some ts => do
      let (rest, ts) ← reading n ts
      return (⟨p :: rest.first, rest.others⟩, ts)
    | none =>
      match after (chars " OR ") ts with
      | some ts => do
        let (rest, ts) ← reading n ts
        return (⟨[p], rest.first :: rest.others⟩, ts)
      | none => some (⟨[p], []⟩, ts)

end Reading

end Sql

/-- The predicate as which a statement is read that is a condition on a field. -/
def Statement.predicate? {α : Type} [Bindable α] [Sql.Operand α] (d : Dialect) (field : Sql)
    (s : Statement) : Option (Sql.Predicate α) := do
  let ts ← Sql.fill (Sql.read d s.text) s.params
  match ← Sql.reading d (Sql.filled d field) (ts.length + 1) ts with
  | (alternatives, []) => return alternatives.predicate
  | _ => none

namespace Sql

open Predicate (Alternatives joined)

theorem after_self {start : List Filled} (bare : ∀ t ∈ start, ∀ p, t ≠ .value p) (ts : List Filled) :
    after start (start ++ ts) = some ts := by
  induction start with
  | nil => rfl
  | cons t start ih =>
    have rest := ih fun t' mem => bare t' (List.mem_cons_of_mem t mem)
    cases t with
    | char c => exact (if_pos rfl).trans rest
    | literal text => exact (if_pos rfl).trans rest
    | value p => exact absurd rfl (bare _ List.mem_cons_self p)

theorem after_chars (s : String) (ts : List Filled) : after (chars s) (chars s ++ ts) = some ts := by
  refine after_self ?_ ts
  intro t mem p is
  obtain ⟨c, -, rfl⟩ := List.mem_map.1 mem
  cases is

theorem operator?_of_mem {o : String × Operator} (mem : o ∈ operatorNames) (ts : List Filled) :
    operator? (chars (" " ++ o.1 ++ " ") ++ ts) = some (o.2, ts) := by
  revert o
  simp only [operatorNames, List.forall_mem_cons]
  exact ⟨rfl, rfl, rfl, rfl, rfl, rfl, rfl, rfl, rfl, rfl, rfl, rfl, nofun⟩

theorem isSpacer_of_mem {o : String × Operator} (mem : o ∈ operatorNames) :
    isSpacer (" " ++ o.1 ++ " ") = true := by
  revert o
  decide

theorem symbol_mem (c : Comparison) : (c.symbol, .comparison c) ∈ operatorNames := by
  cases c <;> decide

theorem keyword_mem (p : PatternMatch) : (p.keyword, .pattern p) ∈ operatorNames := by
  cases p <;> decide

theorem filled_append (d : Dialect) (q r : Sql) : filled d (q ++ r) = filled d q ++ filled d r :=
  List.flatMap_append

theorem filled_plain (d : Dialect) (s : String) : filled d (plain s) = chars s := by
  simp [filled, plain, Piece.filled, chars]

theorem chars_append (a b : String) : chars (a ++ b) = chars a ++ chars b := by
  simp [chars]

/-- A fragment that stands for the value of a field: it binds nothing, and begins with a letter. -/
structure Names (d : Dialect) (field : Sql) : Prop where
  binds : Binds field []
  begins : ∃ c ts, filled d field = .char c :: ts ∧ c.isAlpha = true

/-- The text of a column, null when it is empty. -/
theorem names_emptyAsNull {e : Sql} (h : Carries e []) (d : Dialect) : Names d (d.emptyAsNull e) where
  binds := Dialect.binds_emptyAsNull h
  begins := by
    cases d with
    | duckdb => exact ⟨'N', _, rfl, by decide⟩
    | clickhouse => exact ⟨'n', _, rfl, by decide⟩

theorem bare_of_params {q : Sql} (none : q.params = []) (d : Dialect) :
    ∀ t ∈ filled d q, ∀ p, t ≠ .value p := by
  intro t mem p is
  obtain ⟨piece, hp, mem⟩ := List.mem_flatMap.1 mem
  cases piece with
  | plain s =>
    obtain ⟨c, -, rfl⟩ := List.mem_map.1 mem
    cases is
  | literal value =>
    obtain rfl := List.mem_singleton.1 mem
    cases is
  | slot p' =>
    have bound : p' ∈ q.params := List.mem_filterMap.2 ⟨_, hp, rfl⟩
    rw [none] at bound
    cases bound

section Lists

variable {α : Type} [Bindable α] [Operand α] {d : Dialect}

theorem filled_join_cons (separator : String) (q r : Sql) (rest : List Sql) :
    filled d (join separator (q :: r :: rest)) =
      filled d q ++ (chars separator ++ filled d (join separator (r :: rest))) := by
  have spelled : join separator (q :: r :: rest) =
      q ++ (plain separator ++ join separator (r :: rest)) := rfl
  rw [spelled, filled_append, filled_append, filled_plain]

theorem join_singleton (separator : String) (q : Sql) : join separator [q] = q := by
  simp [join]

theorem filled_join_singleton (separator : String) (q : Sql) :
    filled d (join separator [q]) = filled d q := by
  rw [join_singleton]

/-- The operands of a list are read up to its end. -/
theorem operands?_list {ws : List α} (any : ws ≠ []) {n : Nat} (fits : ws.length ≤ n)
    (rest : List Filled) :
    operands? d n (filled d (list (ws.map (Bindable.bind d))) ++ (chars ")" ++ rest)) =
      some (ws.map Operand.bound, rest) := by
  induction ws generalizing n with
  | nil => exact absurd rfl any
  | cons w ws ih =>
    obtain ⟨n, rfl⟩ : ∃ k, n = k + 1 := ⟨n - 1, by simp at fits; omega⟩
    cases ws with
    | nil =>
      rw [List.map_singleton, list, filled_join_singleton, operands?, Operand.read?_bind]
      rfl
    | cons next ws =>
      have tail := ih (List.cons_ne_nil _ _) (Nat.le_of_succ_le_succ fits)
      rw [List.map_cons, list] at tail
      rw [List.map_cons, List.map_cons, list, filled_join_cons, List.append_assoc, List.append_assoc,
        operands?, Operand.read?_bind]
      simp only [Option.bind_eq_bind, Option.bind_some, after_chars, tail]
      rfl

theorem length_list (items : List Sql) : items.length ≤ (filled d (list items)).length + 1 := by
  induction items with
  | nil => exact Nat.zero_le _
  | cons q items ih =>
    cases items with
    | nil => exact Nat.le_add_left _ _
    | cons r items =>
      have comma : (chars ", ").length = 2 := rfl
      unfold list at ih ⊢
      rw [filled_join_cons, List.length_append, List.length_append, List.length_cons]
      omega

theorem operands?_bindList {ws : List α} (any : ws ≠ []) {n : Nat} (rest : List Filled)
    (fits : (filled d (Filter.bindList d ws)).length ≤ n) :
    (after (chars "(") (filled d (Filter.bindList d ws) ++ rest)).bind (operands? d n) =
      some (ws.map Operand.bound, rest) := by
  have spelled : filled d (Filter.bindList d ws) =
      chars "(" ++ (filled d (list (ws.map (Bindable.bind d))) ++ chars ")") := by
    simp only [Filter.bindList, filled_append, filled_plain, List.append_assoc]
  have count := length_list (d := d) (ws.map (Bindable.bind d))
  have parens : (chars "(").length = 1 ∧ (chars ")").length = 1 := ⟨rfl, rfl⟩
  rw [spelled, List.length_append, List.length_append] at fits
  rw [List.length_map] at count
  rw [spelled, List.append_assoc, List.append_assoc, after_chars, Option.bind_some,
    operands?_list any (by omega)]

theorem solid_bindList (ws : List α) : Solid (Filter.bindList d ws) := by
  have loose : Loose (list (ws.map (Bindable.bind d))) := by
    refine (carries_list fun item mem => ?_).loose
    obtain ⟨w, -, rfl⟩ := List.mem_map.1 mem
    exact (Operand.solid d w).loose
  exact ((binds_plain (s := "(") (by decide)).around ⟨loose, rfl⟩ (binds_plain (by decide))).solid

end Lists

section Means

variable {α : Type} [Bindable α] [Operand α] {d : Dialect} {field : Sql}

/-- Wherever a condition may stand, a fragment is read as a predicate. -/
structure Means (d : Dialect) (field : Sql) (q : Sql) (p : Predicate α) : Prop where
  solid : Solid q
  reads : ∀ n rest, (filled d q).length ≤ n →
    primary? d (filled d field) (reading d (filled d field) n) n (filled d q ++ rest) = some (p, rest)

theorem means_never : Means d field Filter.never (.never : Predicate α) where
  solid := (binds_plain (by decide)).solid
  reads n rest fits := by
    rw [Filter.never, filled_plain]
    rfl

theorem Names.after_paren (names : Names d field) (ts : List Filled) :
    after (chars "(") (filled d field ++ ts) = none ∧
      after (chars "1 = 0") (filled d field ++ ts) = none := by
  obtain ⟨c, rest, is, letter⟩ := names.begins
  rw [is]
  constructor
  · refine if_neg fun (paren : '(' = c) => ?_
    rw [← paren] at letter
    revert letter
    decide
  · refine if_neg fun (one : '1' = c) => ?_
    rw [← one] at letter
    revert letter
    decide

theorem means_binary (names : Names d field) {o : String × Operator} (mem : o ∈ operatorNames)
    {operand : Sql} (solid : Solid operand) {p : Predicate α}
    (applies : ∀ n rest, (filled d operand).length ≤ n →
      applied? d n o.2 (filled d operand ++ rest) = some (p, rest)) :
    Means d field (Filter.binary field o.1 operand) p where
  solid r loose := by
    have binds := (names.binds.append (binds_plain (isSpacer_of_mem mem))).solid
    rw [Filter.binary, List.append_assoc]
    exact binds _ (solid r loose).mono
  reads n rest fits := by
    have spelled : filled d (Filter.binary field o.1 operand) ++ rest =
        filled d field ++ (chars (" " ++ o.1 ++ " ") ++ (filled d operand ++ rest)) := by
      simp only [Filter.binary, filled_append, filled_plain, List.append_assoc]
    have shorter : (filled d operand).length ≤ n := by
      simp only [Filter.binary, filled_append, List.length_append] at fits
      omega
    have field := after_self (bare_of_params names.binds.params d)
    rw [spelled, primary?, (names.after_paren _).1, (names.after_paren _).2]
    simp only [field, operator?_of_mem mem, applies n rest shorter, Option.bind_eq_bind,
      Option.bind_some]

theorem means_comparison (names : Names d field) (c : Comparison) (w : α) :
    Means d field (Filter.binary field c.symbol (Bindable.bind d w))
      (.comparison c (Operand.bound w)) := by
  refine means_binary names (symbol_mem c) (Operand.solid d w) ?_
  intro n rest fits
  simp only [applied?, Operand.read?_bind, Option.bind_eq_bind, Option.bind_some, Option.pure_def]

theorem means_pattern (names : Names d field) (p : PatternMatch) (text : String) :
    Means d field (Filter.binary field p.keyword (Sql.bind (.text text)))
      (.pattern p text : Predicate α) := by
  refine means_binary names (keyword_mem p) (binds_bind _).solid ?_
  intro n rest fits
  rfl

theorem means_within (names : Names d field) {ws : List α} (any : ws ≠ []) :
    Means d field (Filter.binary field "IN" (Filter.bindList d ws))
      (.within (ws.map Operand.bound)) := by
  refine means_binary names (o := ("IN", .within)) (by decide) (solid_bindList ws) ?_
  intro n rest fits
  obtain ⟨ts, opens, list⟩ := Option.bind_eq_some_iff.1 (operands?_bindList any rest fits)
  simp only [applied?, opens, list, Option.bind_eq_bind, Option.bind_some, Option.pure_def]

theorem means_notWithin (names : Names d field) {ws : List α} (any : ws ≠ []) :
    Means d field (Filter.binary field "NOT IN" (Filter.bindList d ws))
      (.notWithin (ws.map Operand.bound)) := by
  refine means_binary names (o := ("NOT IN", .notWithin)) (by decide) (solid_bindList ws) ?_
  intro n rest fits
  obtain ⟨ts, opens, list⟩ := Option.bind_eq_some_iff.1 (operands?_bindList any rest fits)
  simp only [applied?, opens, list, Option.bind_eq_bind, Option.bind_some, Option.pure_def]

/-- No connective follows. -/
def Stops (ts : List Filled) : Prop := after (chars " AND ") ts = none ∧ after (chars " OR ") ts = none

section Chain

variable {q : Sql} {p : Predicate α} {n : Nat} {ts : List Filled}

theorem Means.reading_last (means : Means d field q p) (fits : (filled d q).length < n)
    (stops : Stops ts) :
    reading d (filled d field) n (filled d q ++ ts) = some (⟨[p], []⟩, ts) := by
  obtain ⟨n, rfl⟩ : ∃ k, n = k + 1 := ⟨n - 1, by omega⟩
  rw [reading, means.reads n _ (by omega)]
  simp only [Option.bind_eq_bind, Option.bind_some, stops.1, stops.2]

theorem Means.reading_and (means : Means d field q p) (fits : (filled d q).length ≤ n) :
    reading d (filled d field) (n + 1) (filled d q ++ (chars " AND " ++ ts)) =
      (reading d (filled d field) n ts).map fun r => (⟨p :: r.1.first, r.1.others⟩, r.2) := by
  rw [reading, means.reads n _ fits]
  simp only [Option.bind_eq_bind, Option.bind_some, after_chars, Option.pure_def]
  rw [Option.map_eq_bind]
  rfl

theorem Means.reading_or (means : Means d field q p) (fits : (filled d q).length ≤ n) :
    reading d (filled d field) (n + 1) (filled d q ++ (chars " OR " ++ ts)) =
      (reading d (filled d field) n ts).map fun r => (⟨[p], r.1.first :: r.1.others⟩, r.2) := by
  have other : after (chars " AND ") (chars " OR " ++ ts) = none := rfl
  rw [reading, means.reads n _ fits]
  simp only [Option.bind_eq_bind, Option.bind_some, after_chars, other, Option.pure_def]
  rw [Option.map_eq_bind]
  rfl

end Chain

variable {q : Sql} {p : Predicate α} {qs : List Sql} {ps : List (Predicate α)}

/-- Conditions that `AND` joins are one alternative. -/
theorem reading_all (first : Means d field q p) (others : List.Forall₂ (Means d field) qs ps) {n : Nat}
    {ts : List Filled} (fits : (filled d (join " AND " (q :: qs))).length < n) (stops : Stops ts) :
    reading d (filled d field) n (filled d (join " AND " (q :: qs)) ++ ts) =
      some (⟨p :: ps, []⟩, ts) := by
  -- on the later conditions: each connective takes one step of the reading and has tokens of its own
  induction others generalizing q p n with
  | nil =>
    rw [filled_join_singleton] at fits ⊢
    exact first.reading_last fits stops
  | cons second others ih =>
    obtain ⟨n, rfl⟩ : ∃ k, n = k + 1 := ⟨n - 1, by omega⟩
    have connective : (chars " AND ").length = 5 := rfl
    rw [filled_join_cons, List.length_append, List.length_append] at fits
    rw [filled_join_cons, List.append_assoc, List.append_assoc, first.reading_and (by omega),
      ih second (by omega)]
    rfl

/-- Conditions that `OR` joins are an alternative each. -/
theorem reading_any (first : Means d field q p) (others : List.Forall₂ (Means d field) qs ps) {n : Nat}
    {ts : List Filled} (fits : (filled d (join " OR " (q :: qs))).length < n) (stops : Stops ts) :
    reading d (filled d field) n (filled d (join " OR " (q :: qs)) ++ ts) =
      some (⟨[p], ps.map fun p => [p]⟩, ts) := by
  induction others generalizing q p n with
  | nil =>
    rw [filled_join_singleton] at fits ⊢
    exact first.reading_last fits stops
  | cons second others ih =>
    obtain ⟨n, rfl⟩ : ∃ k, n = k + 1 := ⟨n - 1, by omega⟩
    have connective : (chars " OR ").length = 4 := rfl
    rw [filled_join_cons, List.length_append, List.length_append] at fits
    rw [filled_join_cons, List.append_assoc, List.append_assoc, first.reading_or (by omega),
      ih second (by omega)]
    rfl

theorem means_parens {alternatives : Alternatives α} (loose : Loose q)
    (reads : ∀ {n : Nat} {ts : List Filled}, (filled d q).length < n → Stops ts →
      reading d (filled d field) n (filled d q ++ ts) = some (alternatives, ts)) :
    Means d field (plain "(" ++ q ++ plain ")") alternatives.predicate where
  solid := ((binds_plain (s := "(") (by decide)).around ⟨loose, rfl⟩ (binds_plain (by decide))).solid
  reads n rest fits := by
    -- the parentheses make up for the token by which the reading inside must have more steps
    have parens : (chars "(").length = 1 ∧ (chars ")").length = 1 := ⟨rfl, rfl⟩
    rw [filled_append, filled_append, filled_plain, filled_plain, List.length_append,
      List.length_append] at fits
    have shorter : (filled d q).length < n := by omega
    have closes : Stops (chars ")" ++ rest) := ⟨rfl, rfl⟩
    have inner := reads shorter closes
    rw [filled_append, filled_append, filled_plain, filled_plain, List.append_assoc,
      List.append_assoc, primary?, after_chars]
    simp only [inner, after_chars, Option.bind_eq_bind, Option.bind_some, Option.pure_def]

theorem solid_of_forall₂ (means : List.Forall₂ (Means d field) qs ps) : ∀ q ∈ qs, Solid q := by
  induction means with
  | nil => nofun
  | cons first others ih =>
    intro q mem
    rcases List.mem_cons.1 mem with rfl | mem
    · exact first.solid
    · exact ih q mem

theorem loose_join {separator : String} (spacer : isSpacer separator = true)
    (means : List.Forall₂ (Means d field) qs ps) : Loose (join separator qs) :=
  (carries_join spacer fun q mem => (solid_of_forall₂ means q mem).loose).loose

/-- What a combination is read as, when there is anything to combine. -/
def combined? (make : List (Predicate α) → Predicate α) (ps : List (Predicate α)) :
    Option (Predicate α) :=
  if ps.isEmpty then none else some (joined make ps)

theorem combine_all (means : List.Forall₂ (Means d field) qs ps) :
    Option.Rel (Means d field) (Filter.combine "AND" qs) (combined? .all ps) := by
  have loose : Loose (join " AND " qs) := loose_join (by decide) means
  cases means with
  | nil => exact .none
  | cons first others =>
    cases others with
    | nil => exact .some first
    | cons second others =>
      exact .some (means_parens loose fun fits stops =>
        reading_all first (.cons second others) fits stops)

theorem combine_any (means : List.Forall₂ (Means d field) qs ps) :
    Option.Rel (Means d field) (Filter.combine "OR" qs) (combined? .any ps) := by
  have loose : Loose (join " OR " qs) := loose_join (by decide) means
  cases means with
  | nil => exact .none
  | cons first others =>
    cases others with
    | nil => exact .some first
    | @cons r p' qs ps second others =>
      -- an alternative of one condition is that condition
      have alone : ((p' :: ps).map fun p => [p]).map (joined .all) = p' :: ps := by
        rw [List.map_map]
        exact List.map_id _
      have parens := means_parens loose fun fits stops =>
        reading_any first (.cons second others) fits stops
      rw [Alternatives.predicate, List.map_cons, alone] at parens
      exact .some parens

/-- A condition by itself is read in full from its statement. -/
theorem Means.predicate? (means : Means d field q p) : (d.statement q).predicate? d field = some p := by
  have fills : fill (read d (d.statement q).text) (d.statement q).params = some (filled d q) :=
    (means.solid.loose.linesUp rfl).filled
  have ends : Stops [] := ⟨rfl, rfl⟩
  have reads := means.reading_last (Nat.lt_succ_self _) ends
  rw [List.append_nil] at reads
  simp only [Statement.predicate?, fills, Option.bind_eq_bind, Option.bind_some, reads,
    Option.pure_def]
  rfl

end Means

end Sql

end Metering
