import Metering.Proofs.Json.Writer

/-!
Texts that tell what they were written from. The escapes of characters are words none of which begins
another one, so a string ends where its text says (`stringText_delimits`), and so do the values that
are made of strings (`write_inj`). Numbers are left out: what is no number is written as null.
-/
namespace Metering.Json

open Text

/-- A code whose words tell where they end. -/
def Delimits {α : Type} (code : α → List Char) : Prop :=
  ∀ a b rest rest', code a ++ rest = code b ++ rest' → a = b ∧ rest = rest'

/-- Words that do not begin other words tell where they end. -/
theorem delimits_of_free {α : Type} {code : α → List Char}
    (free : ∀ a b, code a <+: code b → a = b) : Delimits code := by
  intro a b rest rest' same
  have either : code a <+: code b ∨ code b <+: code a :=
    List.prefix_or_prefix_of_prefix ⟨rest, same⟩ (List.prefix_append _ _)
  obtain rfl : a = b := by
    rcases either with h | h
    · exact free a b h
    · exact (free b a h).symm
  exact ⟨rfl, List.append_cancel_left same⟩

/-- The characters that are escaped. -/
def escaped : List Char := '"' :: '\\' :: (List.range 32).map Char.ofNat

theorem escape_of_not_mem {c : Char} (h : c ∉ escaped) : escape c = [c] ∧ c ≠ '"' ∧ c ≠ '\\' := by
  have quote : c ≠ '"' := fun is => h (is ▸ by decide)
  have backslash : c ≠ '\\' := fun is => h (is ▸ by decide)
  have high : ¬ c.toNat < 0x20 := by
    intro low
    refine h (List.mem_cons_of_mem _ (List.mem_cons_of_mem _ (List.mem_map.2 ⟨c.toNat, ?_, ?_⟩)))
    · exact List.mem_range.2 low
    · exact Char.ofNat_toNat c
  have apart (d : Char) (low : d.toNat < 0x20) : c ≠ d := fun is => high (is ▸ low)
  refine ⟨?_, quote, backslash⟩
  simp only [escape, quote, backslash, high, apart '\x08' (by decide), apart '\x0c' (by decide),
    apart '\n' (by decide), apart '\r' (by decide), apart '\t' (by decide), if_false]

theorem escape_of_mem {c : Char} (h : c ∈ escaped) : ∃ rest, escape c = '\\' :: rest := by
  have all : (escaped.all fun c => (escape c).head? == some '\\') = true := by decide +kernel
  exact List.head?_eq_some_iff.1 (beq_iff_eq.1 (List.all_eq_true.1 all c h))

theorem eq_of_escape_free {c d : Char} (h : escape c <+: escape d) : c = d := by
  have among : (escaped.all fun c => escaped.all fun d =>
      !(escape c).isPrefixOf (escape d) || c == d) = true := by decide +kernel
  by_cases hc : c ∈ escaped
  · by_cases hd : d ∈ escaped
    · have free := List.all_eq_true.1 (List.all_eq_true.1 among c hc) d hd
      rw [List.isPrefixOf_iff_prefix.2 h, Bool.not_true, Bool.false_or] at free
      exact beq_iff_eq.1 free
    · obtain ⟨rest, is⟩ := escape_of_mem hc
      obtain ⟨plain, -, ne⟩ := escape_of_not_mem hd
      rw [is, plain, List.cons_prefix_cons] at h
      exact absurd h.1.symm ne
  · obtain ⟨plain, -, ne⟩ := escape_of_not_mem hc
    by_cases hd : d ∈ escaped
    · obtain ⟨rest, is⟩ := escape_of_mem hd
      rw [is, plain, List.cons_prefix_cons] at h
      exact absurd h.1 ne
    · rw [plain, (escape_of_not_mem hd).1, List.cons_prefix_cons] at h
      exact h.1

theorem escape_delimits : Delimits escape := delimits_of_free fun _ _ => eq_of_escape_free

/-- No escape begins with the quote that ends a string. -/
theorem escape_ne_quote (c : Char) (rest rest' : List Char) : escape c ++ rest ≠ '"' :: rest' := by
  intro h
  by_cases mem : c ∈ escaped
  · obtain ⟨tail, is⟩ := escape_of_mem mem
    rw [is, List.cons_append, List.cons.injEq] at h
    exact absurd h.1 (by decide)
  · obtain ⟨is, ne, -⟩ := escape_of_not_mem mem
    rw [is, List.cons_append, List.cons.injEq] at h
    exact ne h.1

theorem escapes_inj {cs ds rest rest' : List Char}
    (h : cs.flatMap escape ++ '"' :: rest = ds.flatMap escape ++ '"' :: rest') :
    cs = ds ∧ rest = rest' := by
  induction cs generalizing ds with
  | nil =>
    cases ds with
    | nil => exact ⟨rfl, (List.cons.inj h).2⟩
    | cons d ds =>
      rw [List.flatMap_cons, List.append_assoc] at h
      exact absurd h.symm (escape_ne_quote _ _ _)
  | cons c cs ih =>
    cases ds with
    | nil =>
      rw [List.flatMap_cons, List.append_assoc] at h
      exact absurd h (escape_ne_quote _ _ _)
    | cons d ds =>
      rw [List.flatMap_cons, List.flatMap_cons, List.append_assoc, List.append_assoc] at h
      obtain ⟨rfl, others⟩ := escape_delimits _ _ _ _ h
      obtain ⟨rfl, same⟩ := ih others
      exact ⟨rfl, same⟩

theorem stringText_delimits : Delimits stringText := by
  intro s s' rest rest' h
  simp only [stringText, List.cons_append, List.append_assoc, List.cons.injEq, true_and,
    List.nil_append] at h
  obtain ⟨chars, same⟩ := escapes_inj h
  exact ⟨String.toList_inj.1 chars, same⟩

namespace Value

mutual

/-- Whether a value holds no number. -/
def isTextual : Value → Bool
  | .null | .bool _ | .string _ => true
  | .number _ => false
  | .array vs => areTextual vs
  | .object fields => fieldsTextual fields

def areTextual : List Value → Bool
  | [] => true
  | v :: vs => v.isTextual && areTextual vs

def fieldsTextual : List (String × Value) → Bool
  | [] => true
  | (_, v) :: fields => v.isTextual && fieldsTextual fields

end

theorem areTextual_iff {vs : List Value} : areTextual vs = true ↔ ∀ v ∈ vs, v.isTextual = true := by
  induction vs with
  | nil => simp [areTextual]
  | cons v vs ih => rw [areTextual, Bool.and_eq_true, ih, List.forall_mem_cons]

theorem fieldsTextual_iff {fields : List (String × Value)} :
    fieldsTextual fields = true ↔ ∀ f ∈ fields, f.2.isTextual = true := by
  induction fields with
  | nil => simp [fieldsTextual]
  | cons f fields ih => rw [fieldsTextual, Bool.and_eq_true, ih, List.forall_mem_cons]

/-- The character that the text of a value begins with; numbers differ. -/
def lead : Value → Char
  | .null => 'n'
  | .bool true => 't'
  | .bool false => 'f'
  | .number _ => '0'
  | .string _ => '"'
  | .array _ => '['
  | .object _ => '{'

theorem write_lead {v : Value} (h : v.isTextual = true) (rest : List Char) :
    ∃ tail, v.write rest = v.lead :: tail := by
  cases v with
  | bool b => cases b <;> exact ⟨_, rfl⟩
  | number n => cases h
  | array vs => cases vs <;> exact ⟨_, rfl⟩
  | object fields => rcases fields with _ | ⟨⟨key, v⟩, fields⟩ <;> exact ⟨_, rfl⟩
  | _ => exact ⟨_, rfl⟩

theorem lead_eq {v w : Value} {rest rest' : List Char} (hv : v.isTextual = true)
    (hw : w.isTextual = true) (h : v.write rest = w.write rest') : v.lead = w.lead := by
  obtain ⟨tail, is⟩ := write_lead hv rest
  obtain ⟨tail', is'⟩ := write_lead hw rest'
  rw [is, is', List.cons.injEq] at h
  exact h.1

/-- A text of an item is never taken for the end of an array. -/
theorem write_ne_bracket {v : Value} (h : v.isTextual = true) (rest rest' : List Char) :
    v.write rest ≠ ']' :: rest' := by
  intro bracket
  obtain ⟨tail, is⟩ := write_lead h rest
  rw [is, List.cons.injEq] at bracket
  cases v with
  | bool b => cases b <;> simp [lead] at bracket
  | _ => simp [lead] at bracket

mutual

/-- A value without numbers is told by its text, whatever follows. -/
theorem write_inj : ∀ {v w : Value} {rest rest' : List Char}, v.isTextual = true → w.isTextual = true →
    v.write rest = w.write rest' → v = w ∧ rest = rest'
  | .null, w, rest, rest', hv, hw, h => by
    have leads := lead_eq hv hw h
    cases w with
    | null => simpa [write] using h
    | bool b => cases b <;> simp [lead] at leads
    | _ => simp [lead] at leads
  | .bool b, w, rest, rest', hv, hw, h => by
    have leads := lead_eq hv hw h
    cases w with
    | bool b' => cases b <;> cases b' <;> simp_all [lead, write]
    | _ => cases b <;> simp [lead] at leads
  | .number n, _, _, _, hv, _, _ => by cases hv
  | .string s, w, rest, rest', hv, hw, h => by
    have leads := lead_eq hv hw h
    cases w with
    | string s' =>
      obtain ⟨rfl, same⟩ := stringText_delimits _ _ _ _ (by simpa only [write] using h)
      exact ⟨rfl, same⟩
    | bool b => cases b <;> simp [lead] at leads
    | _ => simp [lead] at leads
  | .array vs, w, rest, rest', hv, hw, h => by
    have leads := lead_eq hv hw h
    cases w with
    | array ws =>
      rw [isTextual] at hv hw
      cases vs with
      | nil =>
        cases ws with
        | nil => simpa [write] using h
        | cons w ws =>
          rw [areTextual, Bool.and_eq_true] at hw
          exact absurd (List.cons.inj h).2.symm (write_ne_bracket hw.1 _ _)
      | cons v vs =>
        rw [areTextual, Bool.and_eq_true] at hv
        cases ws with
        | nil => exact absurd (List.cons.inj h).2 (write_ne_bracket hv.1 _ _)
        | cons w ws =>
          rw [areTextual, Bool.and_eq_true] at hw
          obtain ⟨rfl, others⟩ := write_inj hv.1 hw.1 (List.cons.inj h).2
          obtain ⟨rfl, same⟩ := writeItems_inj hv.2 hw.2 others
          exact ⟨rfl, same⟩
    | bool b => cases b <;> simp [lead] at leads
    | _ => simp [lead] at leads
  | .object fields, w, rest, rest', hv, hw, h => by
    have leads := lead_eq hv hw h
    cases w with
    | object fields' =>
      rw [isTextual] at hv hw
      match fields, fields' with
      | [], [] => simpa [write] using h
      | [], (key, w) :: _ => simp [write, stringText] at h
      | (key, v) :: _, [] => simp [write, stringText] at h
      | (key, v) :: fields, (key', w) :: fields' =>
        simp only [write, List.cons.injEq, true_and] at h
        rw [fieldsTextual, Bool.and_eq_true] at hv hw
        obtain ⟨rfl, value⟩ := stringText_delimits _ _ _ _ h
        obtain ⟨rfl, others⟩ := write_inj hv.1 hw.1 (List.cons.inj value).2
        obtain ⟨rfl, same⟩ := writeFields_inj hv.2 hw.2 others
        exact ⟨rfl, same⟩
    | bool b => cases b <;> simp [lead] at leads
    | _ => simp [lead] at leads

theorem writeItems_inj : ∀ {vs ws : List Value} {rest rest' : List Char}, areTextual vs = true →
    areTextual ws = true → writeItems vs (']' :: rest) = writeItems ws (']' :: rest') →
      vs = ws ∧ rest = rest'
  | [], ws, rest, rest', _, _, h => by
    cases ws with
    | nil => simpa [writeItems] using h
    | cons w ws => simp [writeItems] at h
  | v :: vs, ws, rest, rest', hv, hw, h => by
    cases ws with
    | nil => simp [writeItems] at h
    | cons w ws =>
      simp only [writeItems, List.cons.injEq, true_and] at h
      rw [areTextual, Bool.and_eq_true] at hv hw
      obtain ⟨rfl, others⟩ := write_inj hv.1 hw.1 h
      obtain ⟨rfl, same⟩ := writeItems_inj hv.2 hw.2 others
      exact ⟨rfl, same⟩

theorem writeFields_inj : ∀ {fields fields' : List (String × Value)} {rest rest' : List Char},
    fieldsTextual fields = true → fieldsTextual fields' = true →
      writeFields fields ('}' :: rest) = writeFields fields' ('}' :: rest') →
        fields = fields' ∧ rest = rest'
  | [], fields', rest, rest', _, _, h => by
    match fields' with
    | [] => simpa [writeFields] using h
    | (key, w) :: _ => simp [writeFields] at h
  | (key, v) :: fields, fields', rest, rest', hv, hw, h => by
    match fields' with
    | [] => simp [writeFields] at h
    | (key', w) :: fields' =>
      simp only [writeFields, List.cons.injEq, true_and] at h
      rw [fieldsTextual, Bool.and_eq_true] at hv hw
      obtain ⟨rfl, value⟩ := stringText_delimits _ _ _ _ h
      obtain ⟨rfl, others⟩ := write_inj hv.1 hw.1 (List.cons.inj value).2
      obtain ⟨rfl, same⟩ := writeFields_inj hv.2 hw.2 others
      exact ⟨rfl, same⟩

end

theorem text_inj {v w : Value} (hv : v.isTextual = true) (hw : w.isTextual = true)
    (h : v.text = w.text) : v = w :=
  (write_inj hv hw (String.ofList_injective h)).1

end Value

end Metering.Json
