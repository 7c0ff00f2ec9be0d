import Metering.Json.Value
import Metering.Text.Digits

/-!
Paths into JSON values: a dollar sign, then steps. `.key` and `["key"]` select the value of a key,
`[n]` the item at a place. Looking a path up is taking its steps one after another.
-/
namespace Metering.Json

open Text

inductive PathStep where
  | key (name : String)
  | index (n : Nat)
deriving DecidableEq, Repr

abbrev Path := List PathStep

def Value.step? (v : Value) : PathStep → Option Value
  | .key name => v.field? name
  | .index n => v.item? n

/-- The value that the steps lead to. -/
def Value.follow? (v : Value) : Path → Option Value
  | [] => some v
  | s :: path => (v.step? s).bind fun w => w.follow? path

theorem Value.follow?_append (v : Value) (p q : Path) :
    v.follow? (p ++ q) = (v.follow? p).bind fun w => w.follow? q := by
  induction p generalizing v with
  | nil => rfl
  | cons s p ih =>
    simp only [List.cons_append, follow?]
    cases v.step? s with
    | none => rfl
    | some w => exact ih w

namespace Path

/-- A key between dots and brackets, which may not be empty. -/
def keyStep? (cs : List Char) : Option PathStep :=
  if cs.isEmpty then none else some (.key (String.ofList cs))

def dropQuotes : List Char → List Char := List.dropWhile (· == '"')

/-- A number of decimal digits, after an optional plus sign. -/
def place? (cs : List Char) : Option Nat :=
  let ds := match cs with
    | '+' :: ds => ds
    | ds => ds
  if ds ≠ [] ∧ ds.all Char.isDigit then some (readDigits ds) else none

/-- A text without the quotes that it begins and ends with. -/
def trimQuotes (cs : List Char) : List Char := (dropQuotes (dropQuotes cs).reverse).reverse

/-- What stands in brackets: a key that begins with a quote, or a place. -/
def bracketStep? (cs : List Char) : Option PathStep :=
  if cs.head? = some '"' then some (.key (String.ofList (trimQuotes cs)))
  else (place? (trimQuotes cs)).map .index

/-- Where the reading of a path stands; what has been read of a step is kept in reverse. -/
inductive Position where
  | betweenSteps
  | inKey (read : List Char)
  | inBrackets (read : List Char)

/-- The steps from a position on. Brackets may be left open at the end. -/
def steps? : Position → List Char → Option Path
  | .betweenSteps, [] => some []
  | .betweenSteps, c :: cs =>
    if c = '.' then steps? (.inKey []) cs
    else if c = '[' then steps? (.inBrackets []) cs
    else none
  | .inKey read, [] => (keyStep? read.reverse).map fun s => [s]
  | .inKey read, c :: cs =>
    if c = '.' then do return (← keyStep? read.reverse) :: (← steps? (.inKey []) cs)
    else if c = '[' then do return (← keyStep? read.reverse) :: (← steps? (.inBrackets []) cs)
    else steps? (.inKey (c :: read)) cs
  | .inBrackets read, [] => (bracketStep? read.reverse).map fun s => [s]
  | .inBrackets read, c :: cs =>
    if c = ']' then do return (← bracketStep? read.reverse) :: (← steps? .betweenSteps cs)
    else steps? (.inBrackets (c :: read)) cs

def read? (path : String) : Option Path :=
  match path.toList with
  | '$' :: cs => steps? .betweenSteps cs
  | _ => none

end Path

/-- The value at a path; a text that is no path leads nowhere. -/
def Value.at? (v : Value) (path : String) : Option Value :=
  (Path.read? path).bind v.follow?

end Metering.Json
