import Metering.Json.Value

/-!
JSON values as compact texts, and as texts with one item or field on each line, two spaces further in
than what holds it. In strings only quotes, backslashes and the characters below U+0020 are escaped.
-/
namespace Metering.Json

open Text

/-- One character inside a string. -/
def escape (c : Char) : List Char :=
  if c = '"' then ['\\', '"']
  else if c = '\\' then ['\\', '\\']
  else if c = '\x08' then ['\\', 'b']
  else if c = '\x0c' then ['\\', 'f']
  else if c = '\n' then ['\\', 'n']
  else if c = '\r' then ['\\', 'r']
  else if c = '\t' then ['\\', 't']
  else if c.toNat < 0x20 then '\\' :: 'u' :: hexDigits 4 c.toNat
  else [c]

def stringText (s : String) : List Char :=
  '"' :: s.toList.flatMap escape ++ ['"']

mutual

/-- The text of a value in front of what follows it. -/
def Value.write : Value → List Char → List Char
  | .null, rest => 'n' :: 'u' :: 'l' :: 'l' :: rest
  | .bool true, rest => 't' :: 'r' :: 'u' :: 'e' :: rest
  | .bool false, rest => 'f' :: 'a' :: 'l' :: 's' :: 'e' :: rest
  | .number n, rest => n.text ++ rest
  | .string s, rest => stringText s ++ rest
  | .array [], rest => '[' :: ']' :: rest
  | .array (v :: vs), rest => '[' :: v.write (Value.writeItems vs (']' :: rest))
  | .object [], rest => '{' :: '}' :: rest
  | .object ((key, v) :: fields), rest =>
    '{' :: (stringText key ++ ':' :: v.write (Value.writeFields fields ('}' :: rest)))

def Value.writeItems : List Value → List Char → List Char
  | [], rest => rest
  | v :: vs, rest => ',' :: v.write (Value.writeItems vs rest)

def Value.writeFields : List (String × Value) → List Char → List Char
  | [], rest => rest
  | (key, v) :: fields, rest =>
    ',' :: (stringText key ++ ':' :: v.write (Value.writeFields fields rest))

end

def Value.text (v : Value) : String :=
  String.ofList (v.write [])

/-- A new line at a depth. -/
def lineBreak (depth : Nat) (rest : List Char) : List Char :=
  '\n' :: List.replicate (2 * depth) ' ' ++ rest

mutual

/-- The text of a value at a depth in front of what follows it. -/
def Value.writeIndented (depth : Nat) : Value → List Char → List Char
  | .array (v :: vs), rest =>
    '[' :: lineBreak (depth + 1) (v.writeIndented (depth + 1)
      (Value.writeIndentedItems depth vs rest))
  | .object ((key, v) :: fields), rest =>
    '{' :: lineBreak (depth + 1) (stringText key ++ ':' :: ' ' :: v.writeIndented (depth + 1)
      (Value.writeIndentedFields depth fields rest))
  | v, rest => v.write rest

def Value.writeIndentedItems (depth : Nat) : List Value → List Char → List Char
  | [], rest => lineBreak depth (']' :: rest)
  | v :: vs, rest =>
    ',' :: lineBreak (depth + 1) (v.writeIndented (depth + 1)
      (Value.writeIndentedItems depth vs rest))

def Value.writeIndentedFields (depth : Nat) : List (String × Value) → List Char → List Char
  | [], rest => lineBreak depth ('}' :: rest)
  | (key, v) :: fields, rest =>
    ',' :: lineBreak (depth + 1) (stringText key ++ ':' :: ' ' :: v.writeIndented (depth + 1)
      (Value.writeIndentedFields depth fields rest))

end

def Value.indentedText (v : Value) : String :=
  String.ofList (v.writeIndented 0 [])

end Metering.Json
