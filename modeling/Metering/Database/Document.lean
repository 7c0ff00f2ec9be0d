import Metering.Json.Path
import Metering.Json.Writer
import Metering.Text.Blank

/-!
The data of events as a database reads it. Its paths have one more way to write a key, in quotes after
a dot, and count items from the end after a minus sign. A path selects a scalar as its text; an array
or an object is selected as JSON text. Of several values under a key the first counts.
-/
namespace Metering.Document

open Json Text

inductive Selector where
  | key (name : String)
  | index (n : Nat)
  /-- The last item is number one. -/
  | fromEnd (n : Nat)
deriving DecidableEq, Repr

/-- The characters up to one of some, and those from it on. -/
def takeUntil (stops : List Char) : List Char → List Char × List Char
  | [] => ([], [])
  | c :: cs =>
    if c ∈ stops then ([], c :: cs)
    else
      let r := takeUntil stops cs
      (c :: r.1, r.2)

/-- A place in brackets. -/
def place? (cs : List Char) : Option Selector :=
  let digits (ds : List Char) : Option Nat :=
    if ds ≠ [] ∧ ds.all Char.isDigit then some (readDigits ds) else none
  match cs with
  | '#' :: '-' :: ds => (digits ds).map .fromEnd
  | '-' :: ds => (digits ds).map .fromEnd
  | ds => (digits ds).map .index

/-- The selectors of a path without its dollar sign, at most `fuel` of them. -/
def selectorsWithin : Nat → List Char → Option (List Selector)
  | _, [] => some []
  | 0, _ => none
  | fuel + 1, c :: cs =>
    if c = '.' ∧ cs.head? = some '"' then
      match takeUntil ['"'] (cs.drop 1) with
      | ([], _) | (_, []) => none
      | (name, _ :: rest) => do
        return .key (String.ofList name) :: (← selectorsWithin fuel rest)
    else if c = '.' then
      match takeUntil ['.', '['] cs with
      | ([], _) => none
      | (name, rest) =>
        if name.head? = some '*' then none
        else do return .key (String.ofList name) :: (← selectorsWithin fuel rest)
    else if c = '[' then
      match takeUntil [']'] cs with
      | (_, []) => none
      | (place, _ :: rest) => do return (← place? place) :: (← selectorsWithin fuel rest)
    else none

/-- None if the text is no path. -/
def selectors? (path : String) : Option (List Selector) :=
  match path.toList with
  | '$' :: cs => selectorsWithin cs.length cs
  | _ => none

def select? : Tree → Selector → Option Tree
  | .object fields, .key name => (fields.find? fun f => f.1 == some name).map (·.2)
  | .array items, .index n => items[n]?
  | .array items, .fromEnd n => if 0 < n then items.reverse[n - 1]? else none
  | _, _ => none

def follow? (t : Tree) : List Selector → Option Tree
  | [] => some t
  | s :: path => (select? t s).bind fun u => follow? u path

/-- A number as a text: an integer by its digits, any other by the digits of the nearest float. -/
def literalText (l : Literal) : List Char :=
  let sign := if l.numeral.negative then ['-'] else []
  if l.isInteger ∧ ¬ (l.numeral.negative ∧ readDigits l.numeral.whole = 0) then
    sign ++ l.numeral.whole
  else (Decimal.floatText? l.numeral.toFloat).getD (sign ++ l.numeral.whole)

/-- What is selected as a text; null is no text. -/
def text? : Tree → Option String
  | .null => none
  | .bool true => some "true"
  | .bool false => some "false"
  | .number l => some (String.ofList (literalText l))
  | .string s => s
  | t => t.value?.map Value.text

/-- The text at a path of a document. -/
def textAt? (t : Tree) (path : List Selector) : Option String :=
  (follow? t path).bind text?

end Metering.Document
