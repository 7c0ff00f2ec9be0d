import Mathlib.Data.List.Induction
import Mathlib.Data.Nat.Digits.Defs
import Metering.Text.Blank
import Metering.Text.Digits

/-!
Digits and the numbers that they spell: a number is read back from its text, and digits that do not
begin with zero are the text of the number read from them (`natText_readDigits`).
-/
namespace Metering.Text

/-- What holds of the ten digits holds of every digit. -/
theorem forall_digit {P : Char → Prop} (ten : ∀ k : Fin 10, P (Char.ofNat (48 + k))) {c : Char}
    (digit : c.isDigit = true) : P c := by
  have bounds : 48 ≤ c.toNat ∧ c.toNat ≤ 57 := by
    simpa [Char.isDigit, UInt32.le_iff_toNat_le] using digit
  have is : Char.ofNat (48 + (c.toNat - 48)) = c := by
    rw [Nat.add_sub_of_le bounds.1, Char.ofNat_toNat]
  exact is ▸ ten ⟨c.toNat - 48, by omega⟩

/-- A digit is the text of its value. -/
theorem natText_digitValue {c : Char} (digit : c.isDigit = true) :
    digitValue c < 10 ∧ natText (digitValue c) = [c] :=
  forall_digit (P := fun c => digitValue c < 10 ∧ natText (digitValue c) = [c]) (by decide) digit

theorem isDigit_of_mem_takeDigits {limit : Nat} {cs : List Char} {c : Char}
    (h : c ∈ (takeDigits limit cs).1) : c.isDigit = true := by
  induction limit generalizing cs with
  | zero => exact absurd h List.not_mem_nil
  | succ limit ih =>
    cases cs with
    | nil => exact absurd h List.not_mem_nil
    | cons d cs =>
      unfold takeDigits at h
      split at h
      · rename_i digit
        rcases List.mem_cons.1 h with rfl | h
        · exact digit
        · exact ih h
      · exact absurd h List.not_mem_nil

/-- Digits are the text of the number that they spell, unless they begin with zero. -/
theorem natText_readDigits {ds : List Char} (digits : ∀ c ∈ ds, c.isDigit = true)
    (ne : ds ≠ []) (head : ds.head? ≠ some '0') :
    0 < readDigits ds ∧ natText (readDigits ds) = ds := by
  induction ds using List.reverseRecOn with
  | nil => exact absurd rfl ne
  | append_singleton ds c ih =>
    obtain ⟨small, text⟩ := natText_digitValue (digits c (by simp))
    rw [readDigits_append_singleton]
    by_cases first : ds = []
    · subst first
      have value : 0 < digitValue c := by
        refine Nat.pos_of_ne_zero fun zero => head ?_
        rw [zero] at text
        have : c = '0' := (List.cons.inj text).1.symm
        rw [this]
        rfl
      refine ⟨Nat.lt_of_lt_of_le value (Nat.le_add_left _ _), ?_⟩
      show natText (10 * 0 + digitValue c) = [c]
      rw [Nat.mul_zero, Nat.zero_add]
      exact text
    · have head : ds.head? ≠ some '0' := by
        obtain ⟨d, others, rfl⟩ := List.exists_cons_of_ne_nil first
        exact head
      obtain ⟨positive, before⟩ := ih (fun d mem => digits d (by simp [mem])) first head
      refine ⟨by omega, ?_⟩
      show Nat.toDigits 10 _ = _
      rw [← Nat.toDigits_append_toDigits (by decide) positive small]
      exact congrArg₂ (· ++ ·) before text

theorem isBlank_digit {c : Char} (digit : c.isDigit = true) : isBlank c = false :=
  forall_digit (P := fun c => isBlank c = false) (by decide) digit

theorem isDigit_of_mem_natText {n : Nat} {c : Char} (h : c ∈ natText n) : c.isDigit = true :=
  Nat.isDigit_of_mem_toDigits (by decide) (by decide) h

theorem readDigits_natText (n : Nat) : readDigits (natText n) = n :=
  Nat.ofDigitChars_ten_toDigits

theorem natText_ne_nil (n : Nat) : natText n ≠ [] :=
  Nat.toDigits_ne_nil

/-- Only zero has a text that begins with zero. -/
theorem head_natText {n : Nat} (h : (natText n).head? = some '0') : n = 0 := by
  induction n using Nat.strongRecOn with
  | _ n ih =>
    by_cases small : n < 10
    · have digit : ∀ k : Fin 10, (natText k).head? = some '0' → k = 0 := by decide
      exact congrArg Fin.val (digit ⟨n, small⟩ h)
    · have split : natText n = natText (n / 10) ++ natText (n % 10) := by
        show Nat.toDigits 10 n = Nat.toDigits 10 (n / 10) ++ Nat.toDigits 10 (n % 10)
        rw [Nat.toDigits_append_toDigits (by decide) (by omega) (Nat.mod_lt _ (by decide)),
          Nat.div_add_mod]
      obtain ⟨c, cs, first⟩ := List.exists_cons_of_ne_nil (natText_ne_nil (n / 10))
      rw [split, first] at h
      have zero := ih (n / 10) (by omega) (by rw [first]; exact h)
      omega

end Metering.Text
