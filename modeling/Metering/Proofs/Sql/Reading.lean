import Metering.Sql.Dialect

/-!
How a database reads the text of a statement. A quote opens a literal; the first dialect closes it with a
quote that is not doubled, the second one with a quote that no backslash takes with it. A question mark
outside literals is a placeholder.

A statement whose plain parts hold neither quotes nor question marks, and whose literals never touch, is
read back piece by piece (`scan_render`), so the parameters fill its placeholders as they were bound
(`fill_statement`). `Sql.Loose` says so of a fragment, `Sql.Solid` of one that may stand next to literals.
-/
namespace Metering

namespace Sql

inductive Token where
  | char (c : Char)
  | literal (text : List Char)
  | placeholder
  /-- A literal without an end. -/
  | unclosed
deriving DecidableEq

/-- Where a reader is: outside literals, inside one, after a backslash in one, or after a quote in one
that may turn out to be half of a doubled quote. -/
inductive Mode where
  | outside
  | inside (text : List Char)
  | escaped (text : List Char)
  | closing (text : List Char)

def outsideToken (c : Char) : Token := if c = '?' then .placeholder else .char c

/-- The tokens of a text, by the literals of a dialect. -/
def scan (d : Dialect) : Mode → List Char → List Token
  | .outside, [] => []
  | .outside, c :: rest =>
    if c = '\'' then scan d (.inside []) rest else outsideToken c :: scan d .outside rest
  | .inside _, [] => [.unclosed]
  | .inside text, c :: rest =>
    match d with
    | .duckdb =>
      if c = '\'' then scan d (.closing text) rest else scan d (.inside (text ++ [c])) rest
    | .clickhouse =>
      if c = '\\' then scan d (.escaped text) rest
      else if c = '\'' then .literal text :: scan d .outside rest
      else scan d (.inside (text ++ [c])) rest
  | .escaped _, [] => [.unclosed]
  | .escaped text, c :: rest => scan d (.inside (text ++ [c])) rest
  | .closing text, [] => [.literal text]
  | .closing text, c :: rest =>
    if c = '\'' then scan d (.inside (text ++ [c])) rest
    else .literal text :: outsideToken c :: scan d .outside rest

def read (d : Dialect) (text : String) : List Token := scan d .outside text.toList

/-- What a reader finds for a character of a literal. The question marks that the second dialect doubles
stay doubled. -/
def readChar : Dialect → Char → List Char
  | .duckdb, c => [c]
  | .clickhouse, c => if c = '?' then ['?', '?'] else [c]

def literalText (d : Dialect) (value : String) : List Char := value.toList.flatMap (readChar d)

def Piece.tokens (d : Dialect) : Piece → List Token
  | .plain s => s.toList.map .char
  | .literal value => [.literal (literalText d value)]
  | .slot _ => [.placeholder]

/-- Whether a text holds neither quotes nor question marks. -/
def isPlain (s : String) : Bool := s.toList.all fun c => c ≠ '\'' && c ≠ '?'

/-- Plain parts are plain, and no literal comes right after another; the flag tells whether one came
right before. -/
def Apart : Bool → Sql → Prop
  | _, [] => True
  | after, .plain s :: q => isPlain s = true ∧ Apart (after && s.isEmpty) q
  | _, .slot _ :: q => Apart false q
  | after, .literal _ :: q => after = false ∧ Apart true q

theorem Apart.mono {q : Sql} (h : Apart true q) : Apart false q := by
  induction q with
  | nil => trivial
  | cons piece q ih =>
    cases piece with
    | plain s =>
      obtain ⟨plain, rest⟩ := h
      constructor
      · exact plain
      · cases empty : s.isEmpty with
        | false => simpa [empty] using rest
        | true => exact ih (by simpa [empty] using rest)
    | literal value => exact absurd h.1 (by simp)
    | slot p => exact h

/-- What may follow a literal may follow any fragment. -/
theorem Apart.append {after : Bool} {q r : Sql} (first : Apart after q) (second : Apart true r) :
    Apart after (q ++ r) := by
  induction q generalizing after with
  | nil =>
    cases after with
    | false => exact second.mono
    | true => exact second
  | cons piece q ih =>
    cases piece with
    | plain s => exact ⟨first.1, ih first.2⟩
    | literal value => exact ⟨first.1, ih first.2⟩
    | slot p => exact ih first

section Reading

variable {d : Dialect}

theorem scan_plain {s : String} (plain : isPlain s = true) (rest : List Char) :
    scan d .outside (s.toList ++ rest) = s.toList.map .char ++ scan d .outside rest := by
  unfold isPlain at plain
  generalize s.toList = cs at plain
  induction cs with
  | nil => rfl
  | cons c cs ih =>
    simp only [List.all_cons, Bool.and_eq_true, decide_eq_true_eq, ne_eq] at plain
    obtain ⟨⟨quote, mark⟩, others⟩ := plain
    rw [List.cons_append, scan, if_neg quote, ih others, outsideToken, if_neg mark]
    rfl

/-- A quote that another one does not follow ends a literal. -/
theorem scan_closing {text rest : List Char} (ends : rest.head? ≠ some '\'') :
    scan d (.closing text) rest = .literal text :: scan d .outside rest := by
  cases rest with
  | nil => rfl
  | cons c rest =>
    have other : c ≠ '\'' := by simpa using ends
    rw [scan, if_neg other, scan, if_neg other]

theorem scan_literalChar (c : Char) (text rest : List Char) :
    scan d (.inside text) (d.literalChar c ++ rest) =
      scan d (.inside (text ++ readChar d c)) rest := by
  cases d with
  | duckdb =>
    by_cases quote : c = '\''
    · simp [Dialect.literalChar, readChar, scan, quote]
    · simp [Dialect.literalChar, readChar, scan, quote]
  | clickhouse =>
    by_cases backslash : c = '\\'
    · simp [Dialect.literalChar, readChar, scan, backslash]
    · by_cases quote : c = '\''
      · simp [Dialect.literalChar, readChar, scan, quote]
      · by_cases mark : c = '?'
        · simp [Dialect.literalChar, readChar, scan, mark]
        · simp [Dialect.literalChar, readChar, scan, backslash, quote, mark]

theorem scan_inside (value text rest : List Char) (ends : rest.head? ≠ some '\'') :
    scan d (.inside text) (value.flatMap d.literalChar ++ '\'' :: rest) =
      .literal (text ++ value.flatMap (readChar d)) :: scan d .outside rest := by
  induction value generalizing text with
  | nil =>
    rw [List.flatMap_nil, List.nil_append, List.flatMap_nil, List.append_nil]
    cases d with
    | duckdb => exact scan_closing ends
    | clickhouse => rfl
  | cons c value ih =>
    rw [List.flatMap_cons, List.append_assoc, scan_literalChar, ih, List.flatMap_cons,
      List.append_assoc]

theorem render_cons (piece : Piece) (q : Sql) :
    (d.render (piece :: q)).toList = (d.spell piece).toList ++ (d.render q).toList := by
  simp [Dialect.render, String.join_cons]

/-- Nothing that may follow a literal begins with a quote. -/
theorem head?_render {q : Sql} (apart : Apart true q) : (d.render q).toList.head? ≠ some '\'' := by
  induction q with
  | nil => simp [Dialect.render]
  | cons piece q ih =>
    rw [render_cons]
    cases piece with
    | plain s =>
      obtain ⟨plain, rest⟩ := apart
      rw [Dialect.spell]
      cases chars : s.toList with
      | nil =>
        have empty : s.isEmpty = true := by simpa [String.isEmpty_iff] using chars
        exact ih (by simpa [empty] using rest)
      | cons c cs =>
        simp only [isPlain, chars, List.all_cons, Bool.and_eq_true, decide_eq_true_eq] at plain
        simpa using plain.1.1
    | literal value => exact absurd apart.1 (by simp)
    | slot p => simp [Dialect.spell]

theorem scan_render {q : Sql} (apart : Apart false q) :
    read d (d.render q) = q.flatMap (Piece.tokens d) := by
  unfold read
  induction q with
  | nil => rfl
  | cons piece q ih =>
    rw [render_cons, List.flatMap_cons]
    cases piece with
    | plain s =>
      rw [Dialect.spell, scan_plain apart.1, ih (by simpa using apart.2)]
      rfl
    | literal value =>
      have ends := head?_render (d := d) apart.2
      have spelled : (d.spell (.literal value)).toList ++ (d.render q).toList =
          '\'' :: (value.toList.flatMap d.literalChar ++ '\'' :: (d.render q).toList) := by
        simp [Dialect.spell, Dialect.quote]
      rw [spelled, scan, if_pos rfl, scan_inside _ _ _ ends, ih apart.2.mono]
      rfl
    | slot p =>
      rw [Dialect.spell, ← ih apart]
      rfl

end Reading

/-- A statement with its parameters in place. -/
inductive Filled where
  | char (c : Char)
  | literal (text : List Char)
  | value (p : Param)

/-- The placeholders of a statement that was read, filled with parameters in order. It fails when there
are too few or too many of them, or when a literal has no end. -/
def fill : List Token → List Param → Option (List Filled)
  | [], [] => some []
  | [], _ :: _ => none
  | .char c :: tokens, ps => (fill tokens ps).map (.char c :: ·)
  | .literal text :: tokens, ps => (fill tokens ps).map (.literal text :: ·)
  | .placeholder :: _, [] => none
  | .placeholder :: tokens, p :: ps => (fill tokens ps).map (.value p :: ·)
  | .unclosed :: _, _ => none

/-- What a piece stands for. -/
def Piece.filled (d : Dialect) : Piece → List Filled
  | .plain s => s.toList.map .char
  | .literal value => [.literal (literalText d value)]
  | .slot p => [.value p]

def placeholders (tokens : List Token) : Nat := tokens.count .placeholder

theorem fill_chars (cs : List Char) (tokens : List Token) (ps : List Param) :
    fill (cs.map .char ++ tokens) ps = (fill tokens ps).map (cs.map .char ++ ·) := by
  induction cs with
  | nil => simp
  | cons c cs ih => simp [fill, ih, Function.comp_def]

/-- Each placeholder that is read gets the parameter that was bound there. -/
theorem fill_tokens (d : Dialect) (q : Sql) :
    fill (q.flatMap (Piece.tokens d)) q.params = some (q.flatMap (Piece.filled d)) := by
  induction q with
  | nil => rfl
  | cons piece q ih =>
    rw [List.flatMap_cons, List.flatMap_cons]
    cases piece with
    | plain s =>
      have same : params (.plain s :: q) = params q := rfl
      rw [same, Piece.tokens, fill_chars, ih]
      rfl
    | literal value =>
      have same : params (.literal value :: q) = params q := rfl
      rw [same, Piece.tokens, List.singleton_append, fill, ih]
      rfl
    | slot p =>
      have same : params (.slot p :: q) = p :: params q := rfl
      rw [same, Piece.tokens, List.singleton_append, fill, ih]
      rfl

theorem placeholders_tokens (d : Dialect) (q : Sql) :
    placeholders (q.flatMap (Piece.tokens d)) = q.params.length := by
  induction q with
  | nil => rfl
  | cons piece q ih =>
    rw [List.flatMap_cons, placeholders, List.count_append]
    rw [placeholders] at ih
    cases piece with
    | plain s =>
      have none : (s.toList.map Token.char).count .placeholder = 0 := by
        simp [List.count_eq_zero]
      rw [Piece.tokens, none, ih, Nat.zero_add]
      rfl
    | literal value =>
      rw [ih]
      exact Nat.zero_add _
    | slot p =>
      rw [ih]
      exact Nat.add_comm _ _

/--
A statement is read with as many placeholders as it has parameters; these are the given values, and put
in the places of the placeholders in order they make what the pieces stand for.
-/
structure LinesUp (d : Dialect) (q : Sql) (values : List Param) : Prop where
  counted : placeholders (read d (d.statement q).text) = (d.statement q).params.length
  params : (d.statement q).params = values
  filled : fill (read d (d.statement q).text) (d.statement q).params =
    some (q.flatMap (Piece.filled d))

/-- A fragment that may stand between fragments that no literal begins or ends. -/
def Loose (q : Sql) : Prop := Apart false q

/-- A fragment that no literal begins or ends: it may stand next to any other. -/
def Solid (q : Sql) : Prop := ∀ r, Loose r → Apart true (q ++ r)

theorem Loose.linesUp {d : Dialect} {q : Sql} {values : List Param} (loose : Loose q)
    (params : q.params = values) : LinesUp d q values := by
  have text : read d (d.statement q).text = q.flatMap (Piece.tokens d) := scan_render loose
  constructor
  · rw [text]
    exact placeholders_tokens d q
  · exact params
  · rw [text]
    exact fill_tokens d q

end Sql

end Metering
