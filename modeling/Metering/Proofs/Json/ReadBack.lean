import Mathlib.Data.Fintype.Basic
import Mathlib.Tactic.FinCases
import Metering.Proofs.Json.Injective
import Metering.Proofs.Json.Reader
import Metering.Proofs.Text.Digits

/-!
Values read back from their texts. A value that nests no deeper than the reader allows and holds no
float is read from its text as the tree that spells it (`Value.read_text`), whatever its strings hold.
-/
namespace Metering.Json

open Text

/-- The literal of an integer. -/
def Literal.ofInt : Int → Literal
  | .ofNat n => ⟨⟨false, natText n, [], 0⟩, true⟩
  | .negSucc n => ⟨⟨true, natText (n + 1), [], 0⟩, true⟩

namespace Value

mutual

/-- The tree that spells a value. -/
def tree : Value → Tree
  | .null => .null
  | .bool b => .bool b
  | .number n =>
    match Reader.number n.text with
    | some (l, _) => .number l
    | none => .null
  | .string s => .string (some s)
  | .array vs => .array (trees vs)
  | .object fields => .object (fieldTrees fields)

def trees : List Value → List Tree
  | [] => []
  | v :: vs => v.tree :: trees vs

def fieldTrees : List (String × Value) → List (Option String × Tree)
  | [] => []
  | (key, v) :: fields => (some key, v.tree) :: fieldTrees fields

end

theorem trees_eq (vs : List Value) : trees vs = vs.map tree := by
  induction vs with
  | nil => rfl
  | cons v vs ih => rw [trees, ih, List.map_cons]

theorem fieldTrees_eq (fields : List (String × Value)) :
    fieldTrees fields = fields.map fun f => (some f.1, f.2.tree) := by
  induction fields with
  | nil => rfl
  | cons f fields ih =>
    obtain ⟨key, v⟩ := f
    rw [fieldTrees, ih, List.map_cons]

/-- A value with at most so many arrays and objects inside each other, and without floats. -/
inductive Fits : Nat → Value → Prop where
  | null (room : Nat) : Fits room .null
  | bool (room : Nat) (b : Bool) : Fits room (.bool b)
  | integer (room : Nat) (n : Int) : Fits room (.ofInt n)
  | string (room : Nat) (s : String) : Fits room (.string s)
  | array {room : Nat} {vs : List Value} : (∀ v ∈ vs, Fits room v) → Fits (room + 1) (.array vs)
  | object {room : Nat} {fields : List (String × Value)} :
    (∀ f ∈ fields, Fits room f.2) → Fits (room + 1) (.object fields)

end Value

namespace Reader

/-! ### Strings -/

theorem stringChar_escape (c : Char) (rest : List Char) :
    stringChar (escape c ++ rest) = some (some c, rest) := by
  by_cases special : c ∈ escaped
  · simp only [escaped, List.mem_cons, List.mem_map, List.mem_range] at special
    rcases special with rfl | rfl | ⟨n, low, rfl⟩
    · rfl
    · rfl
    · have each : ∀ k : Fin 32,
          stringChar (escape (Char.ofNat k) ++ rest) = some (some (Char.ofNat k), rest) := by
        intro k
        fin_cases k <;> rfl
      exact each ⟨n, low⟩
  · obtain ⟨plain, -, notBackslash⟩ := escape_of_not_mem special
    have high : ¬ c.toNat < 0x20 := by
      intro low
      refine special (List.mem_cons_of_mem _ (List.mem_cons_of_mem _ (List.mem_map.2 ⟨c.toNat, ?_⟩)))
      exact ⟨List.mem_range.2 low, Char.ofNat_toNat c⟩
    rw [plain, List.singleton_append]
    unfold stringChar
    split <;> simp_all

theorem stringRest_cons {fuel : Nat} {content : Option (List Char)} {cs : List Char}
    (h : ∀ rest, cs ≠ '"' :: rest) : stringRest (fuel + 1) content cs =
      (stringChar cs).bind fun r => stringRest fuel (do return (← r.1) :: (← content)) r.2 := by
  rw [stringRest]
  · rfl
  · exact h

theorem stringRest_escapes {fuel : Nat} (cs acc rest : List Char) (enough : cs.length < fuel) :
    stringRest fuel (some acc) (cs.flatMap escape ++ '"' :: rest) =
      some (some (String.ofList (acc.reverse ++ cs)), rest) := by
  induction cs generalizing fuel acc with
  | nil =>
    obtain ⟨fuel, rfl⟩ := Nat.exists_eq_add_of_lt enough
    rw [List.append_nil]
    rfl
  | cons c cs ih =>
    cases fuel with
    | zero => exact absurd enough (Nat.not_lt_zero _)
    | succ fuel =>
      rw [List.flatMap_cons, List.append_assoc, stringRest_cons (escape_ne_quote _ _),
        stringChar_escape]
      show stringRest fuel (some (c :: acc)) _ = _
      rw [ih (c :: acc) (Nat.lt_of_succ_lt_succ enough), List.reverse_cons, List.append_assoc,
        List.singleton_append]

theorem length_le_escapes (cs : List Char) : cs.length ≤ (cs.flatMap escape).length := by
  induction cs with
  | nil => exact Nat.le_refl _
  | cons c cs ih =>
    have one : 0 < (escape c).length := by
      by_cases special : c ∈ escaped
      · obtain ⟨rest, is⟩ := escape_of_mem special
        rw [is]
        exact Nat.succ_pos _
      · rw [(escape_of_not_mem special).1]
        exact Nat.succ_pos _
    rw [List.flatMap_cons, List.length_append, List.length_cons]
    omega

theorem stringFrom_stringText (s : String) (rest : List Char) :
    ∃ cs, stringText s ++ rest = '"' :: cs ∧ stringFrom cs = some (some s, rest) := by
  refine ⟨s.toList.flatMap escape ++ '"' :: rest, by simp [stringText], ?_⟩
  have enough : s.toList.length < (s.toList.flatMap escape ++ '"' :: rest).length + 1 := by
    have := length_le_escapes s.toList
    rw [List.length_append]
    omega
  rw [stringFrom, stringRest_escapes _ _ _ enough, List.reverse_nil, List.nil_append,
    String.ofList_toList]

/-! ### Numbers -/

/-- What may follow a value inside an array or object, or nothing. -/
def EndsValue (rest : List Char) : Prop := ∀ c ∈ rest.head?, c = ',' ∨ c = ']' ∨ c = '}'

theorem wholeDigits_natText (n : Nat) {rest : List Char} (ends : EndsValue rest) :
    wholeDigits (natText n ++ rest) = some (natText n, rest) := by
  obtain ⟨c, cs, first⟩ := List.exists_cons_of_ne_nil (natText_ne_nil n)
  have digits : ∀ d ∈ natText n, d.isDigit = true := fun _ => isDigit_of_mem_natText
  rw [first] at digits ⊢
  rw [List.cons_append, wholeDigits]
  split
  · rename_i zero
    have nothing : n = 0 := head_natText (by rw [first, zero]; rfl)
    subst nothing
    cases first
    rfl
  · rw [if_pos (digits c List.mem_cons_self)]
    have taken : takeDigits (cs ++ rest).length (cs ++ rest) = (cs, rest) := by
      refine takeDigits_append (fun d mem => digits d (List.mem_cons_of_mem _ mem)) ?_ (.inr ?_)
      · rw [List.length_append]
        exact Nat.le_add_right _ _
      · intro d head
        rcases ends d head with rfl | rfl | rfl <;> rfl
    simp only [taken]

theorem fractionDigits_of_ends {rest : List Char} (ends : EndsValue rest) :
    fractionDigits rest = some ([], rest) := by
  unfold fractionDigits
  split
  · exact absurd (ends '.' rfl) (by decide)
  · rfl

theorem exponent_of_ends {rest : List Char} (ends : EndsValue rest) :
    exponent rest = some (none, rest) := by
  cases rest with
  | nil => rfl
  | cons c rest =>
    have notExponent : ¬ (c = 'e' ∨ c = 'E') := by
      rcases ends c rfl with rfl | rfl | rfl <;> decide
    rw [exponent, if_neg notExponent]

/-- What is read after the sign of a number. -/
theorem number_whole {cs whole rest : List Char} (ends : EndsValue rest)
    (read : wholeDigits cs = some (whole, rest)) :
    number ('-' :: cs) = some (⟨⟨true, whole, [], 0⟩, true⟩, rest) ∧
      (cs.head? ≠ some '-' → number cs = some (⟨⟨false, whole, [], 0⟩, true⟩, rest)) := by
  constructor
  · simp [number, read, fractionDigits_of_ends ends, exponent_of_ends ends]
  · intro unsigned
    unfold number
    split
    rename_i sign
    split at sign
    · exact absurd rfl unsigned
    · cases sign
      simp [read, fractionDigits_of_ends ends, exponent_of_ends ends]

theorem number_intText (n : Int) {rest : List Char} (ends : EndsValue rest) :
    number (intText n ++ rest) = some (Literal.ofInt n, rest) := by
  cases n with
  | ofNat n =>
    refine (number_whole ends (wholeDigits_natText n ends)).2 ?_
    obtain ⟨c, cs, first⟩ := List.exists_cons_of_ne_nil (natText_ne_nil n)
    have digit : c.isDigit = true := isDigit_of_mem_natText (first ▸ List.mem_cons_self)
    rw [first]
    intro minus
    cases minus
    cases digit
  | negSucc n => exact (number_whole ends (wholeDigits_natText (n + 1) ends)).1

/-! ### Values -/

theorem tree_ofInt (n : Int) : (Value.ofInt n).tree = .number (Literal.ofInt n) := by
  have read : number (intText n ++ []) = some (Literal.ofInt n, []) :=
    number_intText n fun c mem => absurd mem (by simp)
  rw [List.append_nil] at read
  simp only [Value.ofInt, Value.tree, Number.text, read]

/-- The text of a value begins neither with a blank nor with the end of an array. -/
theorem write_head {room : Nat} {v : Value} (h : v.Fits room) (rest : List Char) :
    ∃ c tail, v.write rest = c :: tail ∧ isBlank c = false ∧ c ≠ ']' := by
  cases h with
  | integer _ n =>
    cases n with
    | ofNat n =>
      obtain ⟨c, cs, first⟩ := List.exists_cons_of_ne_nil (natText_ne_nil n)
      have digit : c.isDigit = true := isDigit_of_mem_natText (first ▸ List.mem_cons_self)
      refine ⟨c, cs ++ rest, ?_, ?_⟩
      · show natText n ++ rest = _
        rw [first]
        rfl
      · exact forall_digit (P := fun c => isBlank c = false ∧ c ≠ ']') (by decide) digit
    | negSucc n => exact ⟨'-', _, rfl, by decide⟩
  | bool _ b => cases b <;> exact ⟨_, _, rfl, by decide⟩
  | @array _ vs _ => cases vs <;> exact ⟨'[', _, rfl, by decide⟩
  | @object _ fields _ => rcases fields with _ | ⟨⟨key, v⟩, fields⟩ <;> exact ⟨'{', _, rfl, by decide⟩
  | _ => exact ⟨_, _, rfl, by decide⟩

theorem skip_cons {c : Char} {cs : List Char} (h : isBlank c = false) : skip (c :: cs) = c :: cs := by
  rw [skip, List.dropWhile_cons, h]
  rfl

/-- Nothing but a number begins with a digit or a minus sign. -/
theorem value_number {fuel depth : Nat} {cs rest : List Char} {l : Literal}
    (head : ∀ c ∈ cs.head?, c.isDigit = true ∨ c = '-') (ne : cs ≠ [])
    (read : number cs = some (l, rest)) :
    value (fuel + 1) depth cs = some (.number l, rest) := by
  have only : value (fuel + 1) depth cs = (number cs).bind fun r => some (.number r.1, r.2) := by
    obtain ⟨c, cs, rfl⟩ := List.exists_cons_of_ne_nil ne
    rcases head c rfl with digit | rfl
    · refine forall_digit (P := fun c => value (fuel + 1) depth (c :: cs) =
        (number (c :: cs)).bind fun r => some (.number r.1, r.2)) ?_ digit
      intro k
      fin_cases k <;> rfl
    · rfl
  rw [only, read]
  rfl

theorem lt_write {room : Nat} {v : Value} (h : v.Fits room) (rest : List Char) :
    rest.length < (v.write rest).length := by
  obtain ⟨c, tail, is, -⟩ := write_head h []
  rw [Value.write_eq, is, List.length_append, List.length_cons]
  omega

theorem le_writeItems (vs : List Value) (rest : List Char) :
    rest.length ≤ (Value.writeItems vs rest).length := by
  rw [Value.writeItems_eq, List.length_append]
  exact Nat.le_add_left _ _

theorem le_writeFields (fields : List (String × Value)) (rest : List Char) :
    rest.length ≤ (Value.writeFields fields rest).length := by
  rw [Value.writeFields_eq, List.length_append]
  exact Nat.le_add_left _ _

/-- After an item comes the end of the array or a comma and the next item. -/
theorem endsValue_writeItems (vs : List Value) (rest : List Char) :
    EndsValue (Value.writeItems vs (']' :: rest)) := by
  cases vs <;> (intro c head; cases head; decide)

theorem endsValue_writeFields (fields : List (String × Value)) (rest : List Char) :
    EndsValue (Value.writeFields fields ('}' :: rest)) := by
  rcases fields with _ | ⟨⟨key, v⟩, fields⟩ <;> (intro c head; cases head; decide)

theorem atDepth_of_le {depth : Nat} {t : Tree} (h : depth ≤ nestingLimit) : atDepth depth t = t :=
  if_neg (Nat.not_lt.2 h)

theorem intText_head (n : Int) (rest : List Char) :
    (∀ c ∈ (intText n ++ rest).head?, c.isDigit = true ∨ c = '-') ∧ intText n ++ rest ≠ [] := by
  cases n with
  | ofNat n =>
    obtain ⟨c, cs, first⟩ := List.exists_cons_of_ne_nil (natText_ne_nil n)
    have digit : c.isDigit = true := isDigit_of_mem_natText (first ▸ List.mem_cons_self)
    rw [intText, first]
    refine ⟨fun d head => ?_, List.cons_ne_nil _ _⟩
    cases head
    exact .inl digit
  | negSucc n => exact ⟨fun c head => .inr (Option.some.inj head).symm, List.cons_ne_nil _ _⟩

section Steps

variable {fuel depth : Nat} {cs cs' rest : List Char} {t : Tree}

theorem value_array {ts : List Tree} {c : Char} (plain : isBlank c = false) (open_ : c ≠ ']')
    (room : depth < nestingLimit) (read : items fuel (depth + 1) (c :: cs) = some (ts, rest)) :
    value (fuel + 1) depth ('[' :: c :: cs) = some (.array ts, rest) := by
  unfold value
  rw [skip_cons (by decide)]
  simp only [skip_cons plain]
  split
  · rename_i same
    exact absurd (List.cons.inj same).1 open_
  · simp only [read, Option.bind_eq_bind, Option.bind_some, Option.pure_def]
    rw [atDepth_of_le room]

theorem value_object {fs : List (Option String × Tree)} (room : depth < nestingLimit)
    (read : fields fuel (depth + 1) ('"' :: cs) = some (fs, rest)) :
    value (fuel + 1) depth ('{' :: '"' :: cs) = some (.object fs, rest) := by
  show ((fields fuel (depth + 1) ('"' :: cs)).bind fun r =>
    some (atDepth (depth + 1) (.object r.1), r.2)) = _
  rw [read]
  show some (atDepth (depth + 1) _, _) = _
  rw [atDepth_of_le room]

theorem items_last (read : value fuel depth cs = some (t, ']' :: rest)) :
    items (fuel + 1) depth cs = some ([t], rest) := by
  rw [items, read]
  rfl

theorem items_comma {ts : List Tree} (read : value fuel depth cs = some (t, ',' :: cs'))
    (others : items fuel depth cs' = some (ts, rest)) :
    items (fuel + 1) depth cs = some (t :: ts, rest) := by
  rw [items, read]
  show ((items fuel depth cs').bind fun r => some (t :: r.1, r.2)) = _
  rw [others]
  rfl

theorem fields_last {key : String} (read : value fuel depth cs = some (t, '}' :: rest)) :
    fields (fuel + 1) depth (stringText key ++ ':' :: cs) = some ([(some key, t)], rest) := by
  obtain ⟨tail, is, named⟩ := stringFrom_stringText key (':' :: cs)
  rw [is]
  show ((stringFrom tail).bind fun r => _) = _
  rw [named]
  show ((value fuel depth cs).bind fun r => _) = _
  rw [read]
  rfl

theorem fields_comma {key : String} {fs : List (Option String × Tree)}
    (read : value fuel depth cs = some (t, ',' :: cs'))
    (others : fields fuel depth cs' = some (fs, rest)) :
    fields (fuel + 1) depth (stringText key ++ ':' :: cs) = some ((some key, t) :: fs, rest) := by
  obtain ⟨tail, is, named⟩ := stringFrom_stringText key (':' :: cs)
  rw [is]
  show ((stringFrom tail).bind fun r => _) = _
  rw [named]
  show ((value fuel depth cs).bind fun r => _) = _
  rw [read]
  show ((fields fuel depth cs').bind fun r => some ((some key, t) :: r.1, r.2)) = _
  rw [others]
  rfl

end Steps

mutual

/-- A value is read from the front of its text. -/
theorem value_write : ∀ (v : Value) {room fuel depth : Nat} {rest : List Char}, v.Fits room →
    depth + room ≤ nestingLimit → (v.write rest).length ≤ fuel + rest.length → EndsValue rest →
      value fuel depth (v.write rest) = some (v.tree, rest)
  | v, room, 0, depth, rest, fits, _, enough, _ => by
    have := lt_write fits rest
    omega
  | .null, _, fuel + 1, _, rest, _, _, _, _ => rfl
  | .bool true, _, fuel + 1, _, rest, _, _, _, _ => rfl
  | .bool false, _, fuel + 1, _, rest, _, _, _, _ => rfl
  | .number n, _, fuel + 1, _, rest, fits, _, _, ends => by
    cases fits with
    | integer _ n =>
      obtain ⟨head, ne⟩ := intText_head n rest
      show value (fuel + 1) _ (intText n ++ rest) = some ((Value.ofInt n).tree, rest)
      rw [tree_ofInt, value_number head ne (number_intText n ends)]
  | .string s, _, fuel + 1, _, rest, _, _, _, _ => by
    obtain ⟨cs, is, read⟩ := stringFrom_stringText s rest
    show value (fuel + 1) _ (stringText s ++ rest) = _
    rw [is]
    show ((stringFrom cs).bind fun r => some (Tree.string r.1, r.2)) = _
    rw [read]
    rfl
  | .array [], _, fuel + 1, depth, rest, fits, within, _, _ => by
    cases fits with
    | array inside =>
      show some (atDepth (depth + 1) (.array []), rest) = _
      rw [atDepth_of_le (by omega)]
      rfl
  | .array (v :: vs), _, fuel + 1, depth, rest, fits, within, enough, _ => by
    cases fits with
    | @array room _ inside =>
      rw [Value.write, List.length_cons] at enough
      have read : items fuel (depth + 1) (v.write (Value.writeItems vs (']' :: rest))) =
          some (Value.trees (v :: vs), rest) :=
        items_write (v :: vs) inside (by omega) rfl (by omega)
      obtain ⟨c, tail, is, plain, open_⟩ :=
        write_head (inside v List.mem_cons_self) (Value.writeItems vs (']' :: rest))
      rw [Value.write]
      rw [is] at read ⊢
      exact value_array plain open_ (by omega) read
  | .object [], _, fuel + 1, depth, rest, fits, within, _, _ => by
    cases fits with
    | object inside =>
      show some (atDepth (depth + 1) (.object []), rest) = _
      rw [atDepth_of_le (by omega)]
      rfl
  | .object ((key, v) :: fields), _, fuel + 1, depth, rest, fits, within, enough, _ => by
    cases fits with
    | @object room _ inside =>
      rw [Value.write, List.length_cons] at enough
      have read : Reader.fields fuel (depth + 1)
          (stringText key ++ ':' :: v.write (Value.writeFields fields ('}' :: rest))) =
            some (Value.fieldTrees ((key, v) :: fields), rest) :=
        fields_write ((key, v) :: fields) inside (by omega) rfl (by omega)
      exact value_object (by omega) read

theorem items_write : ∀ (vs : List Value) {room fuel depth : Nat} {cs rest : List Char},
    (∀ v ∈ vs, v.Fits room) → depth + room ≤ nestingLimit →
      Value.writeItems vs (']' :: rest) = ',' :: cs → cs.length ≤ fuel + rest.length →
        items fuel depth cs = some (Value.trees vs, rest)
  | [], _, _, _, cs, _, _, _, is, _ => by
    cases is
  | v :: vs, room, fuel, depth, cs, rest, inside, within, is, enough => by
    obtain ⟨first, others⟩ := List.forall_mem_cons.1 inside
    cases is
    have shorter := lt_write first (Value.writeItems vs (']' :: rest))
    have left := le_writeItems vs (']' :: rest)
    rw [List.length_cons] at left
    obtain ⟨fuel, rfl⟩ : ∃ n, fuel = n + 1 := ⟨fuel - 1, by omega⟩
    have read : value fuel depth (v.write (Value.writeItems vs (']' :: rest))) =
        some (v.tree, Value.writeItems vs (']' :: rest)) :=
      value_write v first within (by omega) (endsValue_writeItems vs rest)
    cases vs with
    | nil => exact items_last read
    | cons w ws =>
      have next : (Value.writeItems (w :: ws) (']' :: rest)).length =
        (w.write (Value.writeItems ws (']' :: rest))).length + 1 := rfl
      exact items_comma read (items_write (w :: ws) others within rfl (by omega))

theorem fields_write : ∀ (fs : List (String × Value)) {room fuel depth : Nat} {cs rest : List Char},
    (∀ f ∈ fs, f.2.Fits room) → depth + room ≤ nestingLimit →
      Value.writeFields fs ('}' :: rest) = ',' :: cs → cs.length ≤ fuel + rest.length →
        fields fuel depth cs = some (Value.fieldTrees fs, rest)
  | [], _, _, _, cs, _, _, _, is, _ => by
    cases is
  | (key, v) :: fs, room, fuel, depth, cs, rest, inside, within, is, enough => by
    obtain ⟨first, others⟩ : v.Fits room ∧ ∀ f ∈ fs, f.2.Fits room := List.forall_mem_cons.1 inside
    cases is
    have shorter := lt_write first (Value.writeFields fs ('}' :: rest))
    have left := le_writeFields fs ('}' :: rest)
    rw [List.length_cons] at left
    rw [List.length_append, List.length_cons] at enough
    obtain ⟨fuel, rfl⟩ : ∃ n, fuel = n + 1 := ⟨fuel - 1, by omega⟩
    have read : value fuel depth (v.write (Value.writeFields fs ('}' :: rest))) =
        some (v.tree, Value.writeFields fs ('}' :: rest)) :=
      value_write v first within (by omega) (endsValue_writeFields fs rest)
    match fs with
    | [] => exact fields_last read
    | (key', w) :: fs' =>
      have next : (Value.writeFields ((key', w) :: fs') ('}' :: rest)).length =
        (stringText key' ++ ':' :: w.write (Value.writeFields fs' ('}' :: rest))).length + 1 := rfl
      exact fields_comma read (fields_write ((key', w) :: fs') others within rfl (by omega))

end

end Reader

/-- A value is read back from its text. -/
theorem Value.read_text {v : Value} (h : v.Fits nestingLimit) : Tree.read? v.text = some v.tree := by
  have read : Reader.value (2 * (v.write []).length + 1) 0 (v.write []) = some (v.tree, []) :=
    Reader.value_write v h (by omega) (by rw [List.length_nil]; omega)
      (fun c head => absurd head (by simp))
  rw [Tree.read?, Value.text, String.toList_ofList]
  simp only [read]
  rfl

end Metering.Json
