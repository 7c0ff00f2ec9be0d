import Metering.Calendar.Instant
import Metering.Text.Blank
import Metering.Text.Digits

/-!
Instants as RFC 3339 texts. Instants are written in UTC with the fewest of 0, 3, 6 or 9 fraction
digits that are exact. There are two ways to read one: `Instant.readStrict?` takes the fixed fields
of the standard, `Instant.readLenient?` also takes signed years of any length, short fields and
blanks between them. A sixtieth second is read as the second that follows.
-/
namespace Metering

open Calendar Text

namespace Rfc3339

/-- The fraction of a second with its point, or nothing for a whole second. -/
def fractionText (nanos : Nat) : List Char :=
  if nanos = 0 then []
  else if nanos % 1000000 = 0 then '.' :: decimalDigits 3 (nanos / 1000000)
  else if nanos % 1000 = 0 then '.' :: decimalDigits 6 (nanos / 1000)
  else '.' :: decimalDigits 9 nanos

/-- Four digits from year 0 to 9999, otherwise a sign and at least four digits. -/
def yearText (year : Int) : List Char :=
  if 0 ≤ year ∧ year ≤ 9999 then decimalDigits 4 year.toNat
  else (if year < 0 then '-' else '+') :: paddedText 4 year.natAbs

/-- Date and time of day in UTC, without the offset. -/
def localText (t : Instant) : List Char :=
  let date := Date.ofDayNumber t.dayNumber
  let ofDay := (t.nanos - t.startOfDay.nanos).toNat
  let second := ofDay / 1000000000
  yearText date.year ++ '-' :: decimalDigits 2 date.month ++ '-' :: decimalDigits 2 date.day ++
    'T' :: decimalDigits 2 (second / 3600) ++ ':' :: decimalDigits 2 (second / 60 % 60) ++
    ':' :: decimalDigits 2 (second % 60) ++ fractionText (ofDay % 1000000000)

/-- The fields of a text before they are checked against the calendar. -/
structure Fields where
  date : Date
  hour : Nat
  minute : Nat
  second : Nat
  nanos : Nat
  /-- Seconds east of UTC. -/
  offset : Int

def Fields.nanosOfDay (f : Fields) : Int :=
  ((f.hour * 3600 + f.minute * 60 + f.second : Nat) : Int) * 1000000000 + f.nanos

def Fields.instant? (f : Fields) : Option Instant :=
  if f.date.IsValid ∧ f.hour < 24 ∧ f.minute < 60 ∧ f.second ≤ 60 ∧
      -86400 < f.offset ∧ f.offset < 86400 then
    let wall : Instant := Instant.ofDayNumber f.date.dayNumber + (⟨f.nanosOfDay⟩ : Span)
    let t := wall - Span.seconds f.offset
    if wall.InRange ∧ t.InRange then some t else none
  else none

/-- A character that must come next. -/
def expect (c : Char) : List Char → Option (List Char)
  | d :: cs => if d = c then some cs else none
  | [] => none

/-- Exactly `width` digits. -/
def fixedField (width : Nat) (cs : List Char) : Option (Nat × List Char) :=
  let r := takeDigits width cs
  if r.1.length = width then some (readDigits r.1, r.2) else none

/-- One digit or two, after blanks. -/
def shortField (cs : List Char) : Option (Nat × List Char) :=
  let r := takeDigits 2 (dropBlanks cs)
  if r.1 = [] then none else some (readDigits r.1, r.2)

/-- A year after blanks: at most four digits, or a sign and any number of digits. -/
def lenientYear (cs : List Char) : Option (Int × List Char) :=
  let read (limit : Nat) (sign : Int) (cs : List Char) : Option (Int × List Char) :=
    let r := takeDigits limit cs
    if r.1 = [] then none else some (sign * readDigits r.1, r.2)
  match dropBlanks cs with
  | '-' :: cs => read cs.length (-1) cs
  | '+' :: cs => read cs.length 1 cs
  | cs => read 4 1 cs

/-- Between date and time stands a letter T or one space. -/
def dateTimeSeparator : List Char → Option (List Char)
  | c :: cs => if c = 'T' ∨ c = 't' ∨ c = ' ' then some cs else none
  | [] => none

/-- An optional fraction in nanoseconds; digits past the ninth are dropped. -/
def fraction : List Char → Option (Nat × List Char)
  | '.' :: cs =>
    let r := takeDigits 9 cs
    if r.1 = [] then none
    else some (readDigits r.1 * Nat.pow 10 (9 - r.1.length), r.2.dropWhile Char.isDigit)
  | cs => some (0, cs)

/-- A letter Z, or a sign with hours and minutes that `separator` parts. -/
def zoneOffset (separator : List Char → Option (List Char)) :
    List Char → Option (Int × List Char)
  | [] => none
  | c :: cs =>
    if c = 'Z' ∨ c = 'z' then some (0, cs)
    else do
      let sign : Int ←
        if c = '+' then some 1 else if c = '-' ∨ c = '\u2212' then some (-1) else none
      let (hours, cs) ← fixedField 2 cs
      let cs ← separator cs
      let (minutes, cs) ← fixedField 2 cs
      if minutes < 60 then some (sign * (hours * 3600 + minutes * 60 : Nat), cs) else none

/-- The fixed fields of the standard. -/
def strictFields (cs : List Char) : Option (Fields × List Char) := do
  let (year, cs) ← fixedField 4 cs
  let (month, cs) ← fixedField 2 (← expect '-' cs)
  let (day, cs) ← fixedField 2 (← expect '-' cs)
  let (hour, cs) ← fixedField 2 (← dateTimeSeparator cs)
  let (minute, cs) ← fixedField 2 (← expect ':' cs)
  let (second, cs) ← fixedField 2 (← expect ':' cs)
  let (nanos, cs) ← fraction cs
  let (offset, cs) ← zoneOffset (expect ':') cs
  return (⟨⟨year, month, day⟩, hour, minute, second, nanos, offset⟩, cs)

/-- The offset, for which the word UTC in any case may stand too. -/
def lenientOffset (cs : List Char) : Option (Int × List Char) :=
  if (cs.take 3).map Char.toUpper = ['U', 'T', 'C'] then some (0, cs.drop 3)
  else zoneOffset (fun cs => some (cs.dropWhile fun c => c = ':' || isBlank c)) cs

def lenientFields (cs : List Char) : Option (Fields × List Char) := do
  let (year, cs) ← lenientYear cs
  let (month, cs) ← shortField (← expect '-' (dropBlanks cs))
  let (day, cs) ← shortField (← expect '-' (dropBlanks cs))
  let (hour, cs) ← shortField (← dateTimeSeparator cs)
  let (minute, cs) ← shortField (← expect ':' (dropBlanks cs))
  let (second, cs) ← shortField (← expect ':' (dropBlanks cs))
  let (nanos, cs) ← fraction cs
  let (offset, cs) ← lenientOffset (dropBlanks cs)
  return (⟨⟨year, month, day⟩, hour, minute, second, nanos, offset⟩, dropBlanks cs)

/-- The instant of fields that use up the whole text. -/
def complete? : Option (Fields × List Char) → Option Instant
  | some (fields, []) => fields.instant?
  | _ => none

end Rfc3339

namespace Instant

/-- The instant in UTC, ended by Z. -/
def toText (t : Instant) : String :=
  String.ofList (Rfc3339.localText t ++ ['Z'])

/-- The instant in UTC, ended by a numeric offset. -/
def toOffsetText (t : Instant) : String :=
  String.ofList (Rfc3339.localText t ++ ['+', '0', '0', ':', '0', '0'])

def readStrict? (s : String) : Option Instant :=
  Rfc3339.complete? (Rfc3339.strictFields s.toList)

def readLenient? (s : String) : Option Instant :=
  Rfc3339.complete? (Rfc3339.lenientFields s.toList)

end Instant

end Metering
