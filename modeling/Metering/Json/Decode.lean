import Metering.Calendar.Rfc3339
import Metering.Json.Value
import Metering.KeyMap

/-!
Reading typed data from JSON trees. A record has named fields: one that is known may stand only once,
one that is not is passed over unread, and an array gives the fields in order instead. There is a
single way to fail, so a reader yields an option.
-/
namespace Metering.Json

namespace Tree

def string? : Tree → Option String
  | .string s => s
  | _ => none

def bool? : Tree → Option Bool
  | .bool b => some b
  | _ => none

/-- An integer literal from `low` to `high`. -/
def integer? (low high : Int) : Tree → Option Int
  | .number l =>
    match Number.ofLiteral? l with
    | some (.integer n) => if low ≤ n ∧ n ≤ high then some n else none
    | _ => none
  | _ => none

def int64? : Tree → Option Int := integer? (-9223372036854775808) 9223372036854775807

def unsigned? (bits : Nat) (t : Tree) : Option Nat :=
  (t.integer? 0 (Nat.pow 2 bits - 1 : Nat)).map Int.toNat

def float? : Tree → Option Float
  | .number l => (Number.ofLiteral? l).map Number.toFloat
  | _ => none

/-- The items, each read; one failure fails the whole. -/
def array? {α : Type} (read : Tree → Option α) : Tree → Option (List α)
  | .array items => items.mapM read
  | _ => none

/-- Null is read as nothing. -/
def nullable? {α : Type} (read : Tree → Option α) : Tree → Option (Option α)
  | .null => some none
  | t => (read t).map some

/-- The fields of an object under any names, in order. -/
def entries? {α : Type} (read : Tree → Option α) : Tree → Option (List (String × α))
  | .object fields => fields.mapM fun f => do return ((← f.1), (← read f.2))
  | _ => none

def instant? (t : Tree) : Option Instant :=
  t.string?.bind Instant.readLenient?

/-- A word, or an object with the word as its only field and nothing in it. -/
def word? : Tree → Option String
  | .string s => s
  | .object [(key, .null)] => key
  | _ => none

/-- A value of a finite type under the name it has. -/
def named? {α : Type} (all : List α) (name : α → String) (t : Tree) : Option α :=
  t.word?.bind fun s => all.find? fun a => name a = s

end Tree

/-- The known fields of a record. -/
abbrev Record := List (String × Tree)

namespace Record

def ofFields (names : List String) : List (Option String × Tree) → Option Record
  | [] => some []
  | (none, _) :: _ => none
  | (some key, t) :: rest => do
    let r ← ofFields names rest
    if key ∈ names then
      if (r.lookup key).isSome then none else return (key, t) :: r
    else return r

def required {α : Type} (r : Record) (name : String) (read : Tree → Option α) : Option α :=
  (r.lookup name).bind read

/-- A field that may be missing or null. -/
def optional {α : Type} (r : Record) (name : String) (read : Tree → Option α) :
    Option (Option α) :=
  match r.lookup name with
  | none => some none
  | some t => t.nullable? read

/-- A field that may be missing but not null. -/
def withDefault {α : Type} (r : Record) (name : String) (default : α) (read : Tree → Option α) :
    Option α :=
  match r.lookup name with
  | none => some default
  | some t => read t

end Record

def Tree.record? (names : List String) : Tree → Option Record
  | .object fields => Record.ofFields names fields
  | .array items => if items.length ≤ names.length then some (names.zip items) else none
  | _ => none

/-- A record of which an array must give every field. -/
def Tree.fullRecord? (names : List String) : Tree → Option Record
  | .array items => if items.length = names.length then some (names.zip items) else none
  | t => t.record? names

/-- An object read as a map; of several values under a key the last counts. -/
def Tree.map? {α : Type} (read : Tree → Option α) (t : Tree) : Option (KeyMap α) :=
  (t.entries? read).map KeyMap.ofList

end Metering.Json
