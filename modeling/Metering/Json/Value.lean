import Metering.Json.Reader

/-!
JSON values. An integer literal is an integer when 64 bits hold it, otherwise a number is a float. A
repeated key keeps its first place in the object and takes its last value.

A float is read from as many of its leading digits as fit 64 bits and scaled by a power of ten, both
steps rounded, so that the last bit may differ from that of the nearest float.
-/
namespace Metering.Json

open Text Decimal

inductive Number where
  | integer (n : Int)
  | float (x : Float)

namespace Number

def maxUnsigned : Nat := 18446744073709551615
def maxSigned : Nat := 9223372036854775807

/-- Digits of a numeral that fit 64 bits, the count of whole digits passed over, and how many of the
digits taken belong to the fraction. -/
structure Significand where
  digits : Nat
  exponent : Int

/-- Whole digits while they fit; each one that is passed over counts as a power of ten. -/
def Significand.whole (s : Significand) : List Char → Significand
  | [] => s
  | c :: cs =>
    let next := s.digits * 10 + digitValue c
    if s.exponent = 0 ∧ next ≤ maxUnsigned then (⟨next, 0⟩ : Significand).whole cs
    else (⟨s.digits, s.exponent + 1⟩ : Significand).whole cs

/-- Fraction digits up to the first that does not fit. -/
def Significand.fraction (s : Significand) : List Char → Significand
  | [] => s
  | c :: cs =>
    let next := s.digits * 10 + digitValue c
    if next ≤ maxUnsigned then (⟨next, s.exponent - 1⟩ : Significand).fraction cs else s

def powerOfTen (n : Nat) : Float := Float.ofScientific 1 false n

/-- Division by powers of ten that a float can hold. -/
def scaleDown : Nat → Float → Nat → Float
  | 0, x, _ => x
  | fuel + 1, x, n =>
    if n ≤ 308 then x / powerOfTen n else scaleDown fuel (x / powerOfTen 308) (n - 308)

/-- None where the float would be infinite. -/
def scaled? (digits : Nat) (exponent : Int) : Option Float :=
  let x := Float.ofNat digits
  if digits = 0 then some 0
  else if exponent < 0 then some (scaleDown 3 x exponent.natAbs)
  else if 308 < exponent then none
  else
    let y := x * powerOfTen exponent.natAbs
    if y.isInf then none else some y

def floatOf? (n : Numeral) : Option Float := do
  let s := ((⟨0, 0⟩ : Significand).whole n.whole).fraction n.fraction
  let x ← scaled? s.digits (s.exponent + n.exponent)
  return if n.negative then -x else x

def ofLiteral? (l : Literal) : Option Number :=
  let n := readDigits l.numeral.whole
  if l.isInteger ∧ ¬ l.numeral.negative ∧ n ≤ maxUnsigned then some (.integer n)
  else if l.isInteger ∧ l.numeral.negative ∧ 0 < n ∧ n ≤ maxSigned + 1 then some (.integer (-n))
  else (floatOf? l.numeral).map .float

def toFloat : Number → Float
  | .integer n => if n < 0 then -Float.ofNat n.natAbs else Float.ofNat n.natAbs
  | .float x => x

/-- Floats without digits are written as null. -/
def text : Number → List Char
  | .integer n => intText n
  | .float x => (floatText? x).getD ['n', 'u', 'l', 'l']

end Number

inductive Value where
  | null
  | bool (b : Bool)
  | number (n : Number)
  | string (s : String)
  | array (items : List Value)
  | object (fields : List (String × Value))
deriving Inhabited

namespace Value

def ofInt (n : Int) : Value := .number (.integer n)
def ofFloat (x : Float) : Value := .number (.float x)
def ofOption {α : Type} (f : α → Value) : Option α → Value
  | none => .null
  | some a => f a

/-- The value of a key. -/
def field? (key : String) : Value → Option Value
  | .object fields => fields.lookup key
  | _ => none

/-- The item at a place. -/
def item? (i : Nat) : Value → Option Value
  | .array items => items[i]?
  | _ => none

/-- The field with the key replaced where it stands, or a new field at the end. -/
def setField (key : String) (v : Value) : List (String × Value) → List (String × Value)
  | [] => [(key, v)]
  | (k, w) :: rest => if k = key then (k, v) :: rest else (k, w) :: setField key v rest

end Value

mutual

def Tree.value? : Tree → Option Value
  | .null => some .null
  | .bool b => some (.bool b)
  | .number l => (Number.ofLiteral? l).map .number
  | .string s => s.map .string
  | .array items => (Tree.values? items).map .array
  | .object fields => (Tree.fieldValues? fields).map fun fs =>
      .object (fs.foldl (fun acc f => Value.setField f.1 f.2 acc) [])
  | .tooDeep => none

def Tree.values? : List Tree → Option (List Value)
  | [] => some []
  | t :: ts => do return (← t.value?) :: (← Tree.values? ts)

def Tree.fieldValues? : List (Option String × Tree) → Option (List (String × Value))
  | [] => some []
  | (key, t) :: rest => do return ((← key), (← t.value?)) :: (← Tree.fieldValues? rest)

end

def Value.read? (s : String) : Option Value :=
  (Tree.read? s).bind Tree.value?

end Metering.Json
