/-!
SQL statements as pieces: text of the statement itself, string literals by their values, and
placeholders, each with the parameter bound to it. The list of parameters is read off the pieces, so
that it lines up with the placeholders. How a literal is spelled depends on the dialect.
-/
namespace Metering

inductive Param where
  | text (s : String)
  /-- Also instants, as microseconds. -/
  | integer (n : Int)
  | number (x : Float)

namespace Sql

inductive Piece where
  | plain (s : String)
  | literal (value : String)
  | slot (param : Param)

end Sql

abbrev Sql := List Sql.Piece

namespace Sql

def plain (s : String) : Sql := [.plain s]

def literal (value : String) : Sql := [.literal value]

def bind (p : Param) : Sql := [.slot p]

/-- A statement whose plain parts are strings. -/
instance : Coe String Sql := ⟨plain⟩

def params (q : Sql) : List Param :=
  q.filterMap fun
    | .slot p => some p
    | _ => none

/-- Fragments with a separator between each two. -/
def join (separator : String) : List Sql → Sql
  | [] => []
  | q :: rest => q ++ rest.flatMap fun r => .plain separator :: r

def list (items : List Sql) : Sql := join ", " items

def bindTexts (values : List String) : Sql := list (values.map fun v => bind (.text v))

end Sql

/-- A statement as it is sent: its text, and the parameters of the placeholders in textual order. -/
structure Statement where
  text : String
  params : List Param

namespace Statement

/-- The state of a scan for placeholders. -/
structure PlaceholderScan where
  count : Nat
  inLiteral : Bool
  escaped : Bool

def PlaceholderScan.step (s : PlaceholderScan) (c : Char) : PlaceholderScan :=
  if s.escaped then { s with escaped := false }
  else if c = '\\' ∧ s.inLiteral then { s with escaped := true }
  else if c = '\'' then { s with inLiteral := !s.inLiteral }
  else if c = '?' ∧ ¬ s.inLiteral then { s with count := s.count + 1 }
  else s

/--
The number of question marks outside literals, for the literals of every dialect: a backslash in a
literal takes the next character with it, and a doubled quote ends and reopens a literal.
-/
def placeholderCount (text : String) : Nat :=
  (text.foldl PlaceholderScan.step ⟨0, false, false⟩).count

end Statement

end Metering
