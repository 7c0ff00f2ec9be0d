import Metering.Json.Writer

/-!
What is written of a value does not depend on what follows it.
-/
namespace Metering.Json.Value

mutual

/-- A value is written in front of what follows it. -/
theorem write_eq : ∀ (v : Value) (rest : List Char), v.write rest = v.write [] ++ rest
  | .null, _ | .bool true, _ | .bool false, _ | .array [], _ | .object [], _ => rfl
  | .number n, rest => by rw [write, write, List.append_nil]
  | .string s, rest => by rw [write, write, List.append_nil]
  | .array (v :: vs), rest => by
    rw [write, write, write_eq v, writeItems_eq vs, write_eq v (writeItems vs [']']),
      writeItems_eq vs [']']]
    simp
  | .object ((key, v) :: fields), rest => by
    rw [write, write, write_eq v, writeFields_eq fields, write_eq v (writeFields fields ['}']),
      writeFields_eq fields ['}']]
    simp

theorem writeItems_eq : ∀ (vs : List Value) (rest : List Char),
    writeItems vs rest = writeItems vs [] ++ rest
  | [], _ => rfl
  | v :: vs, rest => by
    rw [writeItems, writeItems, write_eq v, writeItems_eq vs rest, write_eq v (writeItems vs [])]
    simp

theorem writeFields_eq : ∀ (fields : List (String × Value)) (rest : List Char),
    writeFields fields rest = writeFields fields [] ++ rest
  | [], _ => rfl
  | (key, v) :: fields, rest => by
    rw [writeFields, writeFields, write_eq v, writeFields_eq fields rest,
      write_eq v (writeFields fields [])]
    simp

end

end Metering.Json.Value
