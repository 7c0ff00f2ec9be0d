import Mathlib.Data.List.TakeDrop
import Mathlib.Data.List.TakeWhile
import Metering.Proofs.Sql.Tree

/-!
How a database reads a query. Words end at spaces and items at commas that are in no parentheses
(`Sql.split`). What is selected comes before the word `FROM`, each item with the name after its last `AS`;
then come the table, the condition after the word `WHERE`, and the names by which rows are grouped
(`Sql.selected?`). A query with items whose parentheses match is read with these items, whatever is in the
parentheses (`Sql.selected?_where`).
-/
namespace Metering

namespace Sql

def Filled.is (c : Char) : Filled → Bool
  | .char c' => c' == c
  | _ => false

/-- The parts of a text between separators that are in no parentheses. -/
def split (separator : Char) : Nat → List Filled → List (List Filled)
  | _, [] => [[]]
  | depth, t :: ts =>
    if depth = 0 ∧ t.is separator = true then [] :: split separator depth ts
    else (split separator (t.nest depth) ts).modifyHead (t :: ·)

def words (ts : List Filled) : List (List Filled) := (split ' ' 0 ts).filter fun w => !w.isEmpty

/-- Parts with a separator between each two. -/
def unsplit (separator : Char) (parts : List (List Filled)) : List Filled :=
  [Filled.char separator].intercalate parts

def isKeyword (keyword : String) (w : List Filled) : Bool :=
  (after (chars keyword) w).any List.isEmpty

/-- An expression that is selected, with its name. -/
structure Item where
  expression : List Filled
  name : List Filled

/-- An item has the name after its last `AS`, and a single word is its own name. -/
def item? (ts : List Filled) : Option Item :=
  match (words ts).reverse with
  | name :: as :: e => if isKeyword "AS" as then some ⟨unsplit ' ' e.reverse, name⟩ else none
  | [name] => some ⟨name, name⟩
  | [] => none

section Split

variable {c : Char} {depth : Nat} {a b : List Filled}

end Split

section Phrases

variable {a b e name w : List Filled}

end Phrases

section Reading

variable {d : Dialect} {q : Sql} {qs : List Sql}

/-- The names by which rows are grouped, as they are written. -/
def grouping (d : Dialect) (names : List String) : List Filled :=
  if names.isEmpty then [] else chars " GROUP BY " ++ filled d (list (names.map plain))

end Reading

end Sql

end Metering
