/-!
The shortest decimal that reads back as a given binary floating-point number: the fewest digits, and
of those the decimal nearest to the number. All arithmetic is exact, on natural numbers.
-/
namespace Metering.Decimal

/-- A positive number of the form `digits · 10 ^ exponent`. -/
structure Scientific where
  digits : Nat
  exponent : Int
deriving DecidableEq, Repr

/--
A positive binary number, and the numbers that round to it, over one denominator. The ends of the
interval round to the number too when `closed` holds.
-/
structure Interval where
  low : Nat
  value : Nat
  high : Nat
  denominator : Nat
  closed : Bool

/-- The interval of `mantissa · 2 ^ exponent`; below a power of two the numbers are twice as dense. -/
def Interval.ofBinary (mantissa : Nat) (exponent : Int) (atPowerOfTwo : Bool) : Interval :=
  let scale := Nat.pow 2 (exponent - 2).toNat
  let low := if atPowerOfTwo then 4 * mantissa - 1 else 4 * mantissa - 2
  ⟨low * scale, 4 * mantissa * scale, (4 * mantissa + 2) * scale, Nat.pow 2 (2 - exponent).toNat,
    mantissa % 2 == 0⟩

/-- The interval with all its numbers divided by `10 ^ exponent`. -/
def Interval.descale (i : Interval) (exponent : Int) : Interval :=
  let up := Nat.pow 10 (-exponent).toNat
  ⟨i.low * up, i.value * up, i.high * up, i.denominator * Nat.pow 10 exponent.toNat, i.closed⟩

def Interval.holds (i : Interval) (n : Nat) : Bool :=
  let n := n * i.denominator
  if i.closed then i.low ≤ n && n ≤ i.high else i.low < n && n < i.high

/-- The whole number in the interval that is nearest to its value, the even one of two. -/
def Interval.nearest? (i : Interval) : Option Nat :=
  let below := i.value / i.denominator
  let above := below + 1
  match i.holds below && below != 0, i.holds above with
  | true, true =>
    let down := i.value - below * i.denominator
    let up := above * i.denominator - i.value
    if down < up then some below
    else if up < down then some above
    else if below % 2 = 0 then some below else some above
  | true, false => some below
  | false, true => some above
  | false, false => none

/-- The least number of steps, of at most `fuel`, after which the value times ten is at least one. -/
def leastScale (value denominator : Nat) : Nat → Nat
  | 0 => 0
  | fuel + 1 =>
    if denominator ≤ value then 0 else leastScale (value * 10) denominator fuel + 1

/-- The exponent of the first decimal digit. -/
def Interval.leadingExponent (i : Interval) : Int :=
  if i.denominator ≤ i.value then (Nat.toDigits 10 (i.value / i.denominator)).length - 1
  else -(leastScale i.value i.denominator 400 : Nat)

/-- The first decimal that lies in the interval, from `count` digits on; seventeen always suffice. -/
def Interval.shortest (i : Interval) (leading : Int) : Nat → Nat → Scientific
  | 0, count =>
    let exponent := leading + 1 - count
    let j := i.descale exponent
    ⟨(2 * j.value + j.denominator) / (2 * j.denominator), exponent⟩
  | fuel + 1, count =>
    let exponent := leading + 1 - count
    match (i.descale exponent).nearest? with
    | some digits => ⟨digits, exponent⟩
    | none => i.shortest leading fuel (count + 1)

/-- The fields of a binary64 number. -/
inductive FloatClass where
  | nan
  | infinite (negative : Bool)
  | zero (negative : Bool)
  | finite (negative : Bool) (mantissa : Nat) (exponent : Int) (atPowerOfTwo : Bool)

/-- The number of significands without their first bit. -/
def significands : Nat := 4503599627370496

def classify (x : Float) : FloatClass :=
  let bits := x.toBits.toNat
  let negative := bits / 9223372036854775808 == 1
  let biased : Nat := bits / significands % 2048
  let fraction : Nat := bits % significands
  if biased = 2047 then if fraction = 0 then .infinite negative else .nan
  else if biased = 0 then
    if fraction = 0 then .zero negative else .finite negative fraction (-1074) false
  else .finite negative (significands + fraction) ((biased : Int) - 1075) (fraction == 0 && biased != 1)

/-- A zero at the end of the digits moved into the exponent: rounding up can carry to a power of ten. -/
def Scientific.carried (s : Scientific) : Scientific :=
  if s.digits % 10 = 0 then ⟨s.digits / 10, s.exponent + 1⟩ else s

/-- The shortest decimal of a positive finite number. -/
def shortest (mantissa : Nat) (exponent : Int) (atPowerOfTwo : Bool) : Scientific :=
  let i := Interval.ofBinary mantissa exponent atPowerOfTwo
  (i.shortest i.leadingExponent 17 1).carried

end Metering.Decimal
