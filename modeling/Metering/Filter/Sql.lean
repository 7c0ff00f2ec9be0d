import Metering.Filter.Basic
import Metering.Sql.Dialect

/-!
Filters as conditions in SQL. A filter that does not constrain its field has no condition, and a
combination of conditions is put in parentheses only when there are two or more of them. Of several
clauses in one filter, which validation refuses, the first one counts.
-/
namespace Metering.Filter

/-- The values that can be bound in a statement. -/
class Bindable (α : Type) where
  bind : Dialect → α → Sql

instance : Bindable String := ⟨fun _ s => Sql.bind (.text s)⟩
instance : Bindable Int := ⟨fun _ n => Sql.bind (.integer n)⟩
instance : Bindable Float := ⟨fun _ x => Sql.bind (.number x)⟩
instance : Bindable Instant := ⟨fun d t => d.bindInstant (.integer t.micros)⟩

def Comparison.symbol : Comparison → String
  | .equal => "="
  | .unequal => "!="
  | .greater => ">"
  | .atLeast => ">="
  | .less => "<"
  | .atMost => "<="

def PatternMatch.keyword : PatternMatch → String
  | .like => "LIKE"
  | .notLike => "NOT LIKE"
  | .ilike => "ILIKE"
  | .notIlike => "NOT ILIKE"

/-- A condition that no row meets. -/
def never : Sql := Sql.plain "1 = 0"

/-- Conditions joined by a connective; one alone stands as it is, none is no condition. -/
def combine (connective : String) : List Sql → Option Sql
  | [] => none
  | [q] => some q
  | qs => some (Sql.plain "(" ++ Sql.join (" " ++ connective ++ " ") qs ++ Sql.plain ")")

variable {α : Type} [Bindable α]

def binary (field : Sql) (operator : String) (operand : Sql) : Sql :=
  field ++ Sql.plain (" " ++ operator ++ " ") ++ operand

def bindList (d : Dialect) (values : List α) : Sql :=
  Sql.plain "(" ++ Sql.list (values.map (Bindable.bind d)) ++ Sql.plain ")"

mutual

def condition? (d : Dialect) (field : Sql) : Filter α → Option Sql
  | mk cs => firstCondition? d field cs

def firstCondition? (d : Dialect) (field : Sql) : List (Clause α) → Option Sql
  | [] => none
  | c :: _ => clauseCondition? d field c

def clauseCondition? (d : Dialect) (field : Sql) : Clause α → Option Sql
  | .comparison c v => some (binary field c.symbol (Bindable.bind d v))
  | .pattern p text => some (binary field p.keyword (Sql.bind (.text text)))
  | .within vs => if vs.isEmpty then some never else some (binary field "IN" (bindList d vs))
  | .notWithin vs => if vs.isEmpty then none else some (binary field "NOT IN" (bindList d vs))
  | .all fs => combine "AND" (conditions d field fs)
  | .any fs => combine "OR" (conditions d field fs)

def conditions (d : Dialect) (field : Sql) : List (Filter α) → List Sql
  | [] => []
  | f :: fs => (condition? d field f).toList ++ conditions d field fs

end

end Metering.Filter
