import Metering.Proofs.Sql.Reading

/-!
What the databases make of a text that is sent to them. The first one reads it as it stands. The client
of the second one binds parameters before the server sees the text: two question marks bind one, a single
one takes a parameter, in literals as well as outside. The server then takes the backslashes of literals
away.

A spelled literal is read as one literal with its value, and the text after it is read as it would be
alone (`understood_quote`). For the first dialect that text must not begin with a quote, which would make
a doubled one of the last (`literal_continued`).
-/
namespace Metering.Sql

/-- What the client of the second dialect leaves of a text. -/
inductive Sign where
  | char (c : Char)
  /-- The place of a parameter. -/
  | parameter
deriving DecidableEq

/-- A text once its parameters are bound. The flag tells whether a question mark came right before whose
meaning the next character settles. -/
def bound : Bool → List Char → List Sign
  | false, [] => []
  | true, [] => [.parameter]
  | false, c :: rest => if c = '?' then bound true rest else .char c :: bound false rest
  | true, c :: rest =>
    if c = '?' then .char '?' :: bound false rest else .parameter :: .char c :: bound false rest

/-- The character that a backslash and another one stand for. Codes of bytes are not told apart. -/
def unescaped : Char → Char
  | 'b' => '\x08'
  | 'f' => '\x0c'
  | 'r' => '\r'
  | 'n' => '\n'
  | 't' => '\t'
  | '0' => '\x00'
  | 'a' => '\x07'
  | 'v' => '\x0b'
  | c => c

/-- Where a server is: outside literals, inside one, or after a backslash in one. -/
inductive Place where
  | outside
  | inside (text : List Char)
  | escaped (text : List Char)

/-- The tokens of a bound text. A parameter inside a literal cuts it in two. -/
def lexed : Place → List Sign → List Token
  | .outside, [] => []
  | .outside, .parameter :: rest => .placeholder :: lexed .outside rest
  | .outside, .char c :: rest =>
    if c = '\'' then lexed (.inside []) rest else .char c :: lexed .outside rest
  | .inside _, [] => [.unclosed]
  | .inside text, .parameter :: rest => .literal text :: .placeholder :: lexed (.inside []) rest
  | .inside text, .char c :: rest =>
    if c = '\\' then lexed (.escaped text) rest
    else if c = '\'' then .literal text :: lexed .outside rest
    else lexed (.inside (text ++ [c])) rest
  | .escaped _, [] => [.unclosed]
  | .escaped text, .parameter :: rest => .literal text :: .placeholder :: lexed (.inside []) rest
  | .escaped text, .char c :: rest => lexed (.inside (text ++ [unescaped c])) rest

/-- The tokens of a text for the database of a dialect. -/
def understood : Dialect → List Char → List Token
  | .duckdb, text => scan .duckdb .outside text
  | .clickhouse, text => lexed .outside (bound false text)

/-- What the server of the second dialect is sent for one character of a literal. -/
def sent (c : Char) : List Char :=
  if c = '\\' then ['\\', '\\'] else if c = '\'' then ['\\', '\''] else [c]

/-- Question marks of a literal take no parameters. -/
theorem bound_literalChar (c : Char) (rest : List Char) :
    bound false (Dialect.clickhouse.literalChar c ++ rest) = (sent c).map .char ++ bound false rest := by
  by_cases backslash : c = '\\'
  · simp [Dialect.literalChar, sent, bound, backslash]
  · by_cases quote : c = '\''
    · simp [Dialect.literalChar, sent, bound, quote]
    · by_cases mark : c = '?'
      · simp [Dialect.literalChar, sent, bound, mark]
      · simp [Dialect.literalChar, sent, bound, backslash, quote, mark]

theorem bound_literalChars (value rest : List Char) :
    bound false (value.flatMap Dialect.clickhouse.literalChar ++ rest) =
      (value.flatMap sent).map .char ++ bound false rest := by
  induction value with
  | nil => rfl
  | cons c value ih =>
    rw [List.flatMap_cons, List.append_assoc, bound_literalChar, ih, List.flatMap_cons, List.map_append,
      List.append_assoc]

theorem lexed_sent (c : Char) (text : List Char) (rest : List Sign) :
    lexed (.inside text) ((sent c).map .char ++ rest) = lexed (.inside (text ++ [c])) rest := by
  by_cases backslash : c = '\\'
  · simp [sent, lexed, unescaped, backslash]
  · by_cases quote : c = '\''
    · simp [sent, lexed, unescaped, quote]
    · simp [sent, lexed, backslash, quote]

/-- Backslashes keep the server inside a literal until its last quote. -/
theorem lexed_inside (value text : List Char) (rest : List Sign) :
    lexed (.inside text) ((value.flatMap sent).map .char ++ .char '\'' :: rest) =
      .literal (text ++ value) :: lexed .outside rest := by
  induction value generalizing text with
  | nil => simp [lexed]
  | cons c value ih =>
    rw [List.flatMap_cons, List.map_append, List.append_assoc, lexed_sent, ih, List.append_assoc,
      List.singleton_append]

theorem toList_quote (d : Dialect) (s : String) :
    (d.quote s).toList = '\'' :: (s.toList.flatMap d.literalChar ++ ['\'']) := by
  simp [Dialect.quote]

/-- A spelled literal for the client: both of its quotes are left, and what comes after it is bound as it
would be alone. -/
theorem bound_quote (s : String) (rest : List Char) :
    bound false ((Dialect.clickhouse.quote s).toList ++ rest) =
      .char '\'' :: ((s.toList.flatMap sent).map .char ++ .char '\'' :: bound false rest) := by
  rw [toList_quote, List.cons_append, List.append_assoc, List.singleton_append, bound,
    if_neg (by decide), bound_literalChars, bound, if_neg (by decide)]

/-- A spelled literal is one literal with its value and ends where its spelling ends. -/
theorem understood_quote {d : Dialect} (s : String) {rest : List Char}
    (ends : d = .duckdb → rest.head? ≠ some '\'') :
    understood d ((d.quote s).toList ++ rest) = .literal s.toList :: understood d rest := by
  cases d with
  | duckdb =>
    have value : s.toList.flatMap (readChar .duckdb) = s.toList := List.flatMap_singleton' _
    rw [understood, toList_quote, List.cons_append, List.append_assoc, List.singleton_append, scan,
      if_pos rfl, scan_inside _ _ _ (ends rfl), value, List.nil_append]
    rfl
  | clickhouse =>
    rw [understood, bound_quote, lexed, if_pos rfl, lexed_inside, List.nil_append]
    rfl

/-- For the first dialect a quote after a literal doubles its last one, and the literal goes on. No
statement has literals that touch. -/
theorem literal_continued :
    understood .duckdb ((Dialect.duckdb.quote "a").toList ++ "'b'".toList) = [.literal "a'b".toList] ∧
    ¬ ∀ (d : Dialect) (s : String) (rest : List Char),
      understood d ((d.quote s).toList ++ rest) = .literal s.toList :: understood d rest := by
  have continued : understood .duckdb ((Dialect.duckdb.quote "a").toList ++ "'b'".toList) =
      [.literal "a'b".toList] := by decide +kernel
  refine ⟨continued, fun all => ?_⟩
  have split := all .duckdb "a" "'b'".toList
  rw [continued] at split
  exact absurd split (by decide +kernel)

end Metering.Sql
