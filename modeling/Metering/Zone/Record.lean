import Metering.Zone.Basic
import Metering.Text.Digits

/-!
The written form of a zone's history, in three parts divided by semicolons:

* the offsets of the zone in seconds, the first one being in force before all changes;
* the changes, each a letter that counts off the new offset and the seconds since the change before
  it (since 1 January 1970 for the first);
* the year from which changes recur, and for each yearly change the month, the earliest day of the
  month, the weekday from Sunday as zero, the seconds from midnight UTC of that day, and the letter
  of the new offset.
-/
namespace Metering.Zone.Record

open Calendar Text

/-- The parts of a text between separators. -/
def splitAt (separator : Char) : List Char → List (List Char)
  | [] => [[]]
  | c :: cs =>
    if c = separator then [] :: splitAt separator cs
    else match splitAt separator cs with
      | [] => [[c]]
      | part :: parts => (c :: part) :: parts

/-- The items of a part; an empty part has none. -/
def items (cs : List Char) : List (List Char) :=
  if cs = [] then [] else splitAt ' ' cs

def readInt : List Char → Int
  | '-' :: cs => -readDigits cs
  | cs => readDigits cs

/-- The offset that a letter counts off. -/
def offsetOf (offsets : List Int) (letter : Char) : Int :=
  offsets.getD (letter.toNat - 'a'.toNat) 0

def readChanges (offsets : List Int) : Int → List (List Char) → List Change
  | _, [] => []
  | _, [] :: _ => []
  | previous, (letter :: delta) :: rest =>
    let second := previous + readInt delta
    ⟨second, offsetOf offsets letter⟩ :: readChanges offsets second rest

/-- A change that happens every year. -/
structure Yearly where
  month : Nat
  day : Nat
  weekday : Nat
  second : Int
  offset : Int

def Yearly.inYear (y : Yearly) (year : Int) : Change :=
  ⟨firstWeekdayFrom year y.month y.day y.weekday * 86400 + y.second, y.offset⟩

def readYearly (offsets : List Int) : List (List Char) → List Yearly
  | month :: day :: weekday :: second :: [letter] :: rest =>
    ⟨readDigits month, readDigits day, readDigits weekday, readInt second,
      offsetOf offsets letter⟩ :: readYearly offsets rest
  | _ => []

/-- The last year for which yearly changes are laid out. After it the last offset stays. -/
def lastYear : Nat := 2099

def recurring (firstYear : Nat) (yearly : List Yearly) : List Change :=
  (List.range' firstYear (lastYear + 1 - firstYear)).flatMap fun year =>
    yearly.map fun y => y.inYear year

def read (name : String) (text : String) : Zone :=
  match splitAt ';' text.toList with
  | [offsetText, changeText, yearlyText] =>
    let offsets := (items offsetText).map readInt
    let changes := readChanges offsets 0 (items changeText)
    let later := match items yearlyText with
      | [] => []
      | firstYear :: rest => recurring (readDigits firstYear) (readYearly offsets rest)
    ⟨name, offsets.headD 0, changes ++ later⟩
  | _ => ⟨name, 0, []⟩

end Metering.Zone.Record
