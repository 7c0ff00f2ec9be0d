import Metering.Decimal.Shortest
import Metering.Text.Digits

/-!
Numbers as texts. A float is written with its shortest digits: positionally from `0.00001` up to
sixteen places before the point, with at least one fraction digit, and otherwise with a signed
exponent. Reading keeps the digits and the exponent of a numeral apart from its rounding.
-/
namespace Metering.Decimal

open Text

/-- The decimal exponents of the leading digit that are written positionally. -/
def positionalFrom : Int := -5
def positionalBelow : Int := 16

def exponentText (e : Int) : List Char :=
  'e' :: (if e < 0 then '-' else '+') :: natText e.natAbs

def Scientific.text (s : Scientific) : List Char :=
  let ds := natText s.digits
  let leading := s.exponent + (ds.length : Int) - 1
  if leading < positionalFrom ∨ positionalBelow ≤ leading then
    let tail := if ds.length = 1 then [] else '.' :: ds.drop 1
    ds.take 1 ++ tail ++ exponentText leading
  else if 0 ≤ s.exponent then ds ++ List.replicate s.exponent.toNat '0' ++ ['.', '0']
  else if 0 ≤ leading then ds.take (leading + 1).toNat ++ '.' :: ds.drop (leading + 1).toNat
  else '0' :: '.' :: List.replicate (-leading - 1).toNat '0' ++ ds

/-- A finite float; the others have no text. -/
def floatText? (x : Float) : Option (List Char) :=
  match classify x with
  | .nan | .infinite _ => none
  | .zero negative => some ((if negative then ['-'] else []) ++ ['0', '.', '0'])
  | .finite negative mantissa exponent atPowerOfTwo =>
    some ((if negative then ['-'] else []) ++ (shortest mantissa exponent atPowerOfTwo).text)

/-- The float nearest to `digits · 10 ^ exponent`. -/
def toFloat (negative : Bool) (digits : Nat) (exponent : Int) : Float :=
  let magnitude : Float :=
    if digits = 0 then 0
    else
      let leading := exponent + (Nat.toDigits 10 digits).length
      if leading < -400 then 0
      else if 400 < leading then Float.ofScientific 1 false 400
      else if exponent < 0 then Float.ofScientific digits true exponent.natAbs
      else Float.ofScientific digits false exponent.natAbs
  if negative then -magnitude else magnitude

/-- The parts of a numeral. -/
structure Numeral where
  negative : Bool
  whole : List Char
  fraction : List Char
  exponent : Int
deriving DecidableEq, Repr

def Numeral.toFloat (n : Numeral) : Float :=
  Decimal.toFloat n.negative (readDigits (n.whole ++ n.fraction))
    (n.exponent - n.fraction.length)

def takeSign : List Char → Bool × List Char
  | '-' :: cs => (true, cs)
  | '+' :: cs => (false, cs)
  | cs => (false, cs)

def takeWord (word : List Char) (cs : List Char) : Bool :=
  cs.map Char.toLower == word

/--
The float of a text: a sign, digits with an optional point (on one side of which the digits may be
missing) and an optional exponent, or one of the words `inf`, `infinity` and `nan` in any case.
-/
def readFloat? (cs : List Char) : Option Float :=
  let (negative, cs) := takeSign cs
  let signed (x : Float) : Float := if negative then -x else x
  if takeWord "inf".toList cs || takeWord "infinity".toList cs then some (signed (1 / 0))
  else if takeWord "nan".toList cs then some (0 / 0)
  else
    let (whole, cs) := takeDigits cs.length cs
    let (fraction, cs) :=
      match cs with
      | '.' :: cs => takeDigits cs.length cs
      | cs => ([], cs)
    if whole = [] ∧ fraction = [] then none
    else
      match cs with
      | [] => some (Numeral.toFloat ⟨negative, whole, fraction, 0⟩)
      | e :: cs =>
        if e = 'e' ∨ e = 'E' then
          let (down, cs) := takeSign cs
          let (digits, cs) := takeDigits cs.length cs
          if digits = [] ∨ cs ≠ [] then none
          else
            let size : Int := readDigits digits
            some (Numeral.toFloat ⟨negative, whole, fraction, if down then -size else size⟩)
        else none

end Metering.Decimal
