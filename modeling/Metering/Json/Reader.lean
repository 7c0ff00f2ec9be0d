import Metering.Decimal.Text
import Metering.Text.Hex

/-!
Reading JSON texts by the grammar of RFC 8259, without exceptions: no trailing commas, no leading
zeros, no characters below U+0020 in strings, and nothing but blanks around the value.

A text is read into a tree of what is written: numbers by their digits, objects with every field in
order and repeated keys kept. A reader of a tree decides what it takes from it, so that a field nobody
asks for may hold what no value can: a number beyond all floats, half a surrogate pair, or nesting past
the limit.
-/
namespace Metering.Json

/-- A number literal. -/
structure Literal where
  numeral : Decimal.Numeral
  /-- Neither a point nor an exponent is written. -/
  isInteger : Bool
deriving DecidableEq, Repr

inductive Tree where
  | null
  | bool (b : Bool)
  | number (literal : Literal)
  /-- A string without content holds half of a surrogate pair. -/
  | string (content : Option String)
  | array (items : List Tree)
  | object (fields : List (Option String × Tree))
  /-- An array or object inside `nestingLimit` others. -/
  | tooDeep
deriving Inhabited

/-- How many arrays and objects may stand inside each other. -/
def nestingLimit : Nat := 127

end Metering.Json

namespace Metering.Json.Reader

open Text Decimal

def isBlank (c : Char) : Bool :=
  c = ' ' || c = '\n' || c = '\t' || c = '\r'

def skip (cs : List Char) : List Char :=
  cs.dropWhile isBlank

/-- A text that must come next. -/
def expect : List Char → List Char → Option (List Char)
  | [], cs => some cs
  | w :: word, c :: cs => if w = c then expect word cs else none
  | _ :: _, [] => none

/-- The digits before the point: one zero, or a run that does not start with zero. -/
def wholeDigits : List Char → Option (List Char × List Char)
  | [] => none
  | c :: cs =>
    if c = '0' then some (['0'], cs)
    else if c.isDigit then
      let r := takeDigits cs.length cs
      some (c :: r.1, r.2)
    else none

/-- One digit or more. -/
def someDigits (cs : List Char) : Option (List Char × List Char) :=
  let r := takeDigits cs.length cs
  if r.1 = [] then none else some r

def fractionDigits : List Char → Option (List Char × List Char)
  | '.' :: cs => someDigits cs
  | cs => some ([], cs)

/-- The exponent, if one is written. -/
def exponent : List Char → Option (Option Int × List Char)
  | [] => some (none, [])
  | c :: cs =>
    if c = 'e' ∨ c = 'E' then do
      let (down, cs) := takeSign cs
      let (digits, cs) ← someDigits cs
      let size : Int := readDigits digits
      return (some (if down then -size else size), cs)
    else some (none, c :: cs)

def number (cs : List Char) : Option (Literal × List Char) := do
  let (negative, cs) :=
    match cs with
    | '-' :: cs => (true, cs)
    | cs => (false, cs)
  let (whole, cs) ← wholeDigits cs
  let (fraction, cs) ← fractionDigits cs
  let (power, cs) ← exponent cs
  return (⟨⟨negative, whole, fraction, power.getD 0⟩, fraction = [] ∧ power = none⟩, cs)

def hexCode : List Char → Option (Nat × List Char)
  | a :: b :: c :: d :: cs => do
    let a ← hexValue? a
    let b ← hexValue? b
    let c ← hexValue? c
    let d ← hexValue? d
    return (((a * 16 + b) * 16 + c) * 16 + d, cs)
  | _ => none

def simpleEscape? : Char → Option Char
  | '"' => some '"'
  | '\\' => some '\\'
  | '/' => some '/'
  | 'b' => some '\x08'
  | 'f' => some '\x0c'
  | 'n' => some '\n'
  | 'r' => some '\r'
  | 't' => some '\t'
  | _ => none

def isHighSurrogate (n : Nat) : Bool := 0xD800 ≤ n && n < 0xDC00
def isLowSurrogate (n : Nat) : Bool := 0xDC00 ≤ n && n < 0xE000

/-- The low half that must follow a high one. -/
def lowHalf? : List Char → Option (Nat × List Char)
  | '\\' :: 'u' :: cs =>
    match hexCode cs with
    | some (low, cs) => if isLowSurrogate low then some (low, cs) else none
    | none => none
  | _ => none

/-- One character of a string, written out or escaped; none where half a surrogate pair stands. -/
def stringChar : List Char → Option (Option Char × List Char)
  | [] => none
  | '\\' :: 'u' :: cs => do
    let (code, cs) ← hexCode cs
    if isHighSurrogate code then
      match lowHalf? cs with
      | some (low, cs) =>
        some (some (Char.ofNat (0x10000 + (code - 0xD800) * 0x400 + (low - 0xDC00))), cs)
      | none => some (none, cs)
    else if isLowSurrogate code then some (none, cs)
    else some (some (Char.ofNat code), cs)
  | '\\' :: c :: cs => do
    let plain ← simpleEscape? c
    some (some plain, cs)
  | c :: cs => if c.toNat < 0x20 ∨ c = '\\' then none else some (some c, cs)

/-- The rest of a string after its opening quote, with the characters read so far in reverse. -/
def stringRest : Nat → Option (List Char) → List Char → Option (Option String × List Char)
  | 0, _, _ => none
  | _ + 1, content, '"' :: cs => some (content.map fun r => String.ofList r.reverse, cs)
  | fuel + 1, content, cs => do
    let (c, cs) ← stringChar cs
    stringRest fuel (do return (← c) :: (← content)) cs

def stringFrom (cs : List Char) : Option (Option String × List Char) :=
  stringRest (cs.length + 1) (some []) cs

/-- A container at a depth of nesting that counts itself. -/
def atDepth (depth : Nat) (t : Tree) : Tree :=
  if nestingLimit < depth then .tooDeep else t

mutual

/-- A value inside `depth` arrays and objects. -/
def value : Nat → Nat → List Char → Option (Tree × List Char)
  | 0, _, _ => none
  | fuel + 1, depth, cs =>
    match skip cs with
    | [] => none
    | '{' :: cs =>
      match skip cs with
      | '}' :: cs => some (atDepth (depth + 1) (.object []), cs)
      | cs => do
        let (fields, cs) ← fields fuel (depth + 1) cs
        return (atDepth (depth + 1) (.object fields), cs)
    | '[' :: cs =>
      match skip cs with
      | ']' :: cs => some (atDepth (depth + 1) (.array []), cs)
      | cs => do
        let (items, cs) ← items fuel (depth + 1) cs
        return (atDepth (depth + 1) (.array items), cs)
    | '"' :: cs => do
      let (s, cs) ← stringFrom cs
      return (.string s, cs)
    | 't' :: cs => do return (.bool true, ← expect ['r', 'u', 'e'] cs)
    | 'f' :: cs => do return (.bool false, ← expect ['a', 'l', 's', 'e'] cs)
    | 'n' :: cs => do return (.null, ← expect ['u', 'l', 'l'] cs)
    | cs => do
      let (n, cs) ← number cs
      return (.number n, cs)

/-- The items of an array up to and with its closing bracket. -/
def items : Nat → Nat → List Char → Option (List Tree × List Char)
  | 0, _, _ => none
  | fuel + 1, depth, cs => do
    let (item, cs) ← value fuel depth cs
    match skip cs with
    | ']' :: cs => some ([item], cs)
    | ',' :: cs => do
      let (rest, cs) ← items fuel depth cs
      return (item :: rest, cs)
    | _ => none

/-- The fields of an object up to and with its closing brace. -/
def fields : Nat → Nat → List Char → Option (List (Option String × Tree) × List Char)
  | 0, _, _ => none
  | fuel + 1, depth, cs => do
    match skip cs with
    | '"' :: cs =>
      let (key, cs) ← stringFrom cs
      let cs ← expect [':'] (skip cs)
      let (item, cs) ← value fuel depth cs
      match skip cs with
      | '}' :: cs => some ([(key, item)], cs)
      | ',' :: cs => do
        let (rest, cs) ← fields fuel depth cs
        return ((key, item) :: rest, cs)
      | _ => none
    | _ => none

end

end Reader

/-- The tree of a whole text. Every step of the reader uses up a character, which bounds their number. -/
def Tree.read? (s : String) : Option Tree :=
  let cs := s.toList
  match Reader.value (2 * cs.length + 1) 0 cs with
  | some (t, rest) => if Reader.skip rest = [] then some t else none
  | none => none

end Metering.Json
