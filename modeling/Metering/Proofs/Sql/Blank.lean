import Metering.Proofs.Filter.Sql
import Metering.Proofs.Sql.Client

/-!
Statements up to the texts of their literals. `Sql.blank` empties the literals of a fragment; what the
dialects build from fragments with the same blank has the same blank again. The tokens of a statement are
told by its blank, apart from the texts of literals (`tokens_blank`), and so are its parameters.
-/
namespace Metering

namespace Sql

def Piece.blank : Piece → Piece
  | .literal _ => .literal ""
  | piece => piece

/-- A fragment with the texts of its literals taken away. -/
def blank (q : Sql) : Sql := q.map Piece.blank

/-- A token with the text of a literal taken away. -/
def Token.blank : Token → Token
  | .literal _ => .literal []
  | token => token

@[simp] theorem blank_append (q r : Sql) : blank (q ++ r) = blank q ++ blank r := List.map_append

@[simp] theorem blank_plain (s : String) : blank (plain s) = plain s := rfl

@[simp] theorem blank_literal (value : String) : blank (literal value) = literal "" := rfl

@[simp] theorem blank_bind (p : Param) : blank (bind p) = bind p := rfl

@[simp] theorem blank_blank (q : Sql) : blank (blank q) = blank q := by
  have twice (piece : Piece) : piece.blank.blank = piece.blank := by cases piece <;> rfl
  simp [blank, twice]

@[simp] theorem blank_join (separator : String) (items : List Sql) :
    blank (join separator items) = join separator (items.map blank) := by
  cases items with
  | nil => rfl
  | cons item items =>
    have rest : blank (items.flatMap fun r => .plain separator :: r) =
        (items.map blank).flatMap fun r => .plain separator :: r := by
      rw [blank, List.map_flatMap, List.flatMap_map]
      rfl
    rw [join, blank_append, rest, List.map_cons, join]

@[simp] theorem blank_list (items : List Sql) : blank (list items) = list (items.map blank) :=
  blank_join ", " items

@[simp] theorem params_blank (q : Sql) : params (blank q) = params q := by
  rw [params, params, blank, List.filterMap_map]
  congr 1
  funext piece
  cases piece <;> rfl

theorem Apart.blank {after : Bool} {q : Sql} (h : Apart after q) : Apart after q.blank := by
  induction q generalizing after with
  | nil => trivial
  | cons piece q ih =>
    cases piece with
    | plain s => exact ⟨h.1, ih h.2⟩
    | literal value => exact ⟨h.1, ih h.2⟩
    | slot p =>
      have rest : Apart false q := h
      exact ih rest

/-- Two texts for the second dialect with the same tokens apart from the texts of literals, whether or
not a question mark whose meaning they settle came right before. -/
def Agree (first second : List Char) : Prop :=
  ∀ pending, (lexed .outside (bound pending first)).map Token.blank =
    (lexed .outside (bound pending second)).map Token.blank

theorem Agree.plain {s : String} {first second : List Char} (plain : isPlain s = true)
    (h : Agree first second) : Agree (s.toList ++ first) (s.toList ++ second) := by
  unfold isPlain at plain
  generalize s.toList = cs at plain
  induction cs with
  | nil => exact h
  | cons c cs ih =>
    simp only [List.all_cons, Bool.and_eq_true, decide_eq_true_eq, ne_eq] at plain
    obtain ⟨⟨quote, mark⟩, others⟩ := plain
    have rest := ih others false
    intro pending
    cases pending <;> simp [bound, lexed, quote, mark, rest]

/-- A question mark takes a parameter, or it is the second of two. -/
theorem Agree.slot {first second : List Char} (h : Agree first second) :
    Agree ('?' :: first) ('?' :: second) := by
  intro pending
  cases pending with
  | false => exact h true
  | true => simpa [bound, lexed] using congrArg (Token.blank (.char '?') :: ·) (h false)

theorem Agree.literal {first second : List Char} (v w : String) (h : Agree first second) :
    Agree ((Dialect.clickhouse.quote v).toList ++ first)
      ((Dialect.clickhouse.quote w).toList ++ second) := by
  have read (s : String) (rest : List Char) :
      (lexed .outside (bound false ((Dialect.clickhouse.quote s).toList ++ rest))).map Token.blank =
        .literal [] :: (lexed .outside (bound false rest)).map Token.blank := by
    rw [bound_quote, lexed, if_pos rfl, lexed_inside]
    rfl
  have marked (s : String) (rest : List Char) :
      lexed .outside (bound true ((Dialect.clickhouse.quote s).toList ++ rest)) = .placeholder ::
        lexed .outside (bound false ((Dialect.clickhouse.quote s).toList ++ rest)) := by
    simp [toList_quote, bound, lexed]
  intro pending
  cases pending with
  | false => rw [read, read, h false]
  | true => rw [marked, marked, List.map_cons, List.map_cons, read, read, h false]

theorem agree_blank {after : Bool} {q : Sql} (apart : Apart after q) :
    Agree (Dialect.clickhouse.render q).toList (Dialect.clickhouse.render q.blank).toList := by
  have mark (p : Param) : (Dialect.clickhouse.spell (.slot p)).toList = ['?'] := by
    simp [Dialect.spell]
  -- what stands right after a slot can change its meaning, so the pending question mark is general
  induction q generalizing after with
  | nil => exact fun _ => rfl
  | cons piece q ih =>
    rw [blank, List.map_cons, ← blank, render_cons, render_cons]
    cases piece with
    | plain s => exact (ih apart.2).plain apart.1
    | literal value => exact (ih apart.2).literal value ""
    | slot p =>
      have kept : (Piece.slot p).blank = .slot p := rfl
      rw [kept, mark]
      have rest : Apart false q := apart
      exact (ih rest).slot

/-- A statement and its blank have the same tokens apart from the texts of literals. -/
theorem tokens_blank {d : Dialect} {q : Sql} (loose : Loose q) :
    (understood d (d.render q).toList).map Token.blank =
      (understood d (d.render q.blank).toList).map Token.blank := by
  cases d with
  | duckdb =>
    have pieces : (q.flatMap (Piece.tokens .duckdb)).map Token.blank =
        (q.blank.flatMap (Piece.tokens .duckdb)).map Token.blank := by
      rw [blank, List.flatMap_map, List.map_flatMap, List.map_flatMap]
      congr 1
      funext piece
      cases piece <;> rfl
    rw [← scan_render loose, ← scan_render loose.blank] at pieces
    exact pieces
  | clickhouse => exact agree_blank loose false

/-- Two statements with the same parameters and, for the database of a dialect, the same tokens apart from
the texts of literals. -/
structure SameTokens (d : Dialect) (a b : Statement) : Prop where
  params : a.params = b.params
  tokens : (understood d a.text.toList).map Token.blank = (understood d b.text.toList).map Token.blank

theorem Carries.sameTokens {d : Dialect} {q r : Sql} {us vs : List Param} (hq : Carries q us)
    (hr : Carries r vs) (same : q.blank = r.blank) : SameTokens d (d.statement q) (d.statement r) where
  params := by
    rw [Dialect.statement, Dialect.statement, ← params_blank q, same, params_blank]
  tokens := by
    rw [Dialect.statement, Dialect.statement, tokens_blank hq.loose, same, ← tokens_blank hr.loose]

end Sql

namespace Dialect

open Sql

variable {d : Dialect}

@[simp] theorem blank_call (f : String) (args : List Sql) :
    blank (call f args) = call f (args.map blank) := by
  simp [call]

@[simp] theorem blank_cast (e : Sql) (type : String) : blank (cast e type) = cast e.blank type := by
  simp [cast]

@[simp] theorem blank_jsonText (column : Sql) (path : String) :
    blank (d.jsonText column path) = d.jsonText column.blank "" := by
  cases d <;> simp [jsonText]

@[simp] theorem blank_finiteNumber (e : Sql) : blank (d.finiteNumber e) = d.finiteNumber e.blank := by
  cases d <;> simp [finiteNumber]

@[simp] theorem blank_emptyAsNull (e : Sql) : blank (d.emptyAsNull e) = d.emptyAsNull e.blank := by
  cases d <;> simp [emptyAsNull]

@[simp] theorem blank_aggregate (a : Aggregation) (value time : Sql) :
    blank (d.aggregate a value time) = d.aggregate a value.blank time.blank := by
  cases d <;> cases a <;> simp [aggregate]

/-- A map of columns by name, up to the literals of its values. -/
theorem blank_buildMap (entries : List (String × Sql)) :
    blank (d.buildMap entries) = blank (d.buildMap (entries.map fun e => (e.1, e.2.blank))) := by
  unfold buildMap
  cases d <;> cases entries <;> simp [List.flatMap_map, List.map_flatMap]

@[simp] theorem blank_wrapQuery (query : Sql) (groupColumns : Nat) :
    blank (d.wrapQuery query groupColumns) = d.wrapQuery query.blank groupColumns := by
  cases d <;> simp [wrapQuery]

end Dialect

namespace Filter

open Sql

variable {d : Dialect} {field : Sql}

theorem blank_binary (operator : String) {operand : Sql} (same : operand.blank = operand) :
    blank (binary field operator operand) = binary field.blank operator operand := by
  simp [binary, same]

theorem blank_bindList (d : Dialect) (vs : List String) :
    blank (bindList d vs) = bindList d vs := by
  simp [bindList, Bindable.bind, Function.comp_def]

theorem blank_combine (connective : String) (qs : List Sql) :
    (combine connective qs).map blank = combine connective (qs.map blank) := by
  match qs with
  | [] => rfl
  | [q] => rfl
  | q :: r :: rest => simp [combine]

mutual

/-- A condition has no literals but those of its field. -/
theorem blank_condition? : (f : TextFilter) →
    (condition? d field f).map blank = condition? d field.blank f
  | mk cs => blank_firstCondition? cs

theorem blank_firstCondition? : (cs : List (Clause String)) →
    (firstCondition? d field cs).map blank = firstCondition? d field.blank cs
  | [] => rfl
  | c :: _ => blank_clauseCondition? c

theorem blank_clauseCondition? : (c : Clause String) →
    (clauseCondition? d field c).map blank = clauseCondition? d field.blank c
  | .comparison c v => congrArg some (blank_binary c.symbol rfl)
  | .pattern p text => congrArg some (blank_binary p.keyword rfl)
  | .within vs => by
    cases vs with
    | nil => rfl
    | cons v vs => exact congrArg some (blank_binary "IN" (blank_bindList d (v :: vs)))
  | .notWithin vs => by
    cases vs with
    | nil => rfl
    | cons v vs => exact congrArg some (blank_binary "NOT IN" (blank_bindList d (v :: vs)))
  | .all fs => by rw [clauseCondition?, blank_combine, blank_conditions fs, clauseCondition?]
  | .any fs => by rw [clauseCondition?, blank_combine, blank_conditions fs, clauseCondition?]

theorem blank_conditions : (fs : List TextFilter) →
    (conditions d field fs).map blank = conditions d field.blank fs
  | [] => rfl
  | f :: fs => by
    have first : (condition? d field f).toList.map blank = (condition? d field.blank f).toList := by
      rw [← blank_condition? f]
      cases condition? d field f <;> rfl
    rw [conditions, List.map_append, first, blank_conditions fs, conditions]

end

end Filter

end Metering
