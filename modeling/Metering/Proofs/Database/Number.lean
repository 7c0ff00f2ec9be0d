import Metering.Database.Document
import Metering.Proofs.Json.Literal
import Metering.Proofs.Quantity.Finite
import Metering.Quantity

/-!
Numbers in the data of events, which live ingestion reads as JSON numbers and the database as texts.
Both take the same of every whole number that 64 bits hold (`Literal.readsAlike_of_fits`). Of other
numbers they need not: a JSON number is read with two roundings, a text with one.
-/
namespace Metering

open Text Decimal

namespace Json.Literal

/-- Whether 64 bits hold a whole number, with a sign bit for one below zero. -/
def fits (l : Literal) : Bool :=
  l.isInteger && readDigits l.numeral.whole ≤
    if l.numeral.negative then Number.maxSigned + 1 else Number.maxUnsigned

/-- The database has the text of the number, and reads the number back from the text. -/
def ReadsAlike (l : Literal) : Prop :=
  ∀ n, Number.ofLiteral? l = some n →
    Document.literalText l = n.text ∧ Quantity.read? (trimBlanks n.text) = some n.toFloat

instance (l : Literal) : Decidable l.ReadsAlike :=
  match read : Number.ofLiteral? l with
  | none => isTrue fun _ is => absurd (read.symm.trans is) (by simp)
  | some n =>
    decidable_of_iff (Document.literalText l = n.text ∧
        Quantity.read? (trimBlanks n.text) = some n.toFloat)
      ⟨fun same _ is => Option.some.inj (read.symm.trans is) ▸ same, fun same => same n read⟩

end Json.Literal

namespace Text

theorem dropBlanks_eq_self {cs : List Char} (plain : ∀ c ∈ cs, isBlank c = false) :
    dropBlanks cs = cs := by
  cases cs with
  | nil => rfl
  | cons c cs => simp [dropBlanks, plain c List.mem_cons_self]

theorem trimBlanks_eq_self {cs : List Char} (plain : ∀ c ∈ cs, isBlank c = false) :
    trimBlanks cs = cs := by
  rw [trimBlanks, dropBlanks_eq_self plain, dropBlanks_eq_self, List.reverse_reverse]
  intro c mem
  exact plain c (List.mem_reverse.1 mem)

/-- The text of an integer holds no blanks. -/
theorem trimBlanks_signed (negative : Bool) (n : Nat) :
    trimBlanks ((if negative then ['-'] else []) ++ natText n) =
      (if negative then ['-'] else []) ++ natText n := by
  refine trimBlanks_eq_self fun c mem => ?_
  rcases List.mem_append.1 mem with sign | digit
  · cases negative with
    | true =>
      rw [List.mem_singleton.1 sign]
      decide
    | false => exact absurd sign List.not_mem_nil
  · exact isBlank_digit (isDigit_of_mem_natText digit)

end Text

namespace Decimal

theorem takeSign_digits (negative : Bool) {d : Char} (digit : d.isDigit = true) (ds : List Char) :
    takeSign ((if negative then ['-'] else []) ++ d :: ds) = (negative, d :: ds) := by
  cases negative with
  | true => rfl
  | false =>
    have minus : d ≠ '-' := fun is => by simp [is] at digit
    have plus : d ≠ '+' := fun is => by simp [is] at digit
    show takeSign (d :: ds) = _
    unfold takeSign
    split
    · exact absurd (List.cons.inj ‹_›).1 minus
    · exact absurd (List.cons.inj ‹_›).1 plus
    · rfl

/-- The words for floats without digits begin with letters. -/
theorem takeWord_digits {d : Char} (digit : d.isDigit = true) (ds word : List Char)
    (letter : word.head? = some 'i' ∨ word.head? = some 'n') : takeWord word (d :: ds) = false := by
  have lower : d.toLower ≠ 'i' ∧ d.toLower ≠ 'n' :=
    forall_digit (P := fun d => d.toLower ≠ 'i' ∧ d.toLower ≠ 'n') (by decide) digit
  rw [takeWord, beq_eq_false_iff_ne]
  intro same
  have first := congrArg List.head? same
  rcases letter with i | n
  · rw [i] at first
    exact lower.1 (Option.some.inj first)
  · rw [n] at first
    exact lower.2 (Option.some.inj first)

/-- Digits after an optional minus sign are a numeral. -/
theorem readFloat?_digits (negative : Bool) {ds : List Char} (digits : ∀ c ∈ ds, c.isDigit = true)
    (ne : ds ≠ []) :
    readFloat? ((if negative then ['-'] else []) ++ ds) =
      some (Numeral.toFloat ⟨negative, ds, [], 0⟩) := by
  obtain ⟨d, others, rfl⟩ := List.exists_cons_of_ne_nil ne
  have digit := digits d List.mem_cons_self
  have taken : takeDigits (d :: others).length (d :: others ++ []) = (d :: others, []) :=
    takeDigits_append digits (Nat.le_refl _) (.inl rfl)
  rw [List.append_nil] at taken
  have inf := takeWord_digits digit others "inf".toList (.inl (by decide))
  have infinity := takeWord_digits digit others "infinity".toList (.inl (by decide))
  have nan := takeWord_digits digit others "nan".toList (.inr (by decide))
  simp only [readFloat?, takeSign_digits negative digit, inf, infinity, nan, taken]
  simp

/-- A float of 64 bits is read without an exponent. -/
theorem toFloat_natText (negative : Bool) {n : Nat} (small : n < 2 ^ 64) :
    Numeral.toFloat ⟨negative, natText n, [], 0⟩ =
      if negative then -Float.ofNat n else Float.ofNat n := by
  have length : (Nat.toDigits 10 n).length ≤ 20 :=
    (Nat.length_toDigits_le_iff (by decide) (by decide)).2 (Nat.lt_trans small (by decide))
  show Decimal.toFloat negative (readDigits (natText n ++ [])) 0 = _
  rw [List.append_nil, readDigits_natText]
  have magnitude : (if n = 0 then (0 : Float) else
      let leading := (0 : Int) + (Nat.toDigits 10 n).length
      if leading < -400 then 0
      else if 400 < leading then Float.ofScientific 1 false 400
      else if (0 : Int) < 0 then Float.ofScientific n true 0
      else Float.ofScientific n false 0) = Float.ofNat n := by
    split
    · rename_i zero
      rw [zero]
      rfl
    · simp only
      rw [if_neg (by omega), if_neg (by omega), if_neg (by decide)]
      rfl
  show (if negative then -_ else _) = _
  exact congrArg (fun x : Float => if negative then -x else x) magnitude

/-- The text of an integer is read as the float of the integer, which is finite. -/
theorem read_signed (negative : Bool) {n : Nat} (small : n < 2 ^ 64) :
    (Quantity.read? (trimBlanks ((if negative then ['-'] else []) ++ natText n)) : Option Float) =
      some (if negative then -Float.ofNat n else Float.ofNat n) := by
  have finite : (if negative then -Float.ofNat n else Float.ofNat n).isFinite = true := by
    cases negative with
    | true => exact Binary64.isFinite_neg_ofNat small
    | false => exact Binary64.isFinite_ofNat small
  rw [trimBlanks_signed]
  show (readFloat? _).filter Float.isFinite = _
  rw [readFloat?_digits negative (fun _ => isDigit_of_mem_natText) Nat.toDigits_ne_nil,
    toFloat_natText negative small]
  simp [finite]

end Decimal

namespace Json

/-- The text of a whole number, of which the sign is written apart. -/
theorem Number.text_signed (negative : Bool) {n : Nat} (negates : negative = true → 0 < n) :
    (Number.integer (if negative then -n else n)).text =
      (if negative then ['-'] else []) ++ natText n := by
  cases negative with
  | false => rfl
  | true =>
    obtain ⟨k, rfl⟩ := Nat.exists_eq_succ_of_ne_zero (Nat.ne_of_gt (negates rfl))
    rfl

theorem Number.toFloat_signed (negative : Bool) {n : Nat} (negates : negative = true → 0 < n) :
    (Number.integer (if negative then -n else n)).toFloat =
      if negative then -Float.ofNat n else Float.ofNat n := by
  cases negative with
  | false =>
    have notBelow : ¬ (n : Int) < 0 := by omega
    simp only [Number.toFloat, Bool.false_eq_true, if_false, if_neg notBelow, Int.natAbs_natCast]
  | true =>
    have positive := negates rfl
    have below : -(n : Int) < 0 := by omega
    simp only [Number.toFloat, if_true, if_pos below, Int.natAbs_neg, Int.natAbs_natCast]

namespace Literal

/-- A zero below zero is a float for both readers, since no integer has its sign. -/
theorem readsAlike_negativeZero (exponent : Int) :
    (Literal.mk ⟨true, natText 0, [], exponent⟩ true).ReadsAlike := by
  intro x read
  have is : Number.ofLiteral? (Literal.mk ⟨true, natText 0, [], exponent⟩ true) =
      some (.float (-0)) := rfl
  rw [is] at read
  cases read
  have zero : Numeral.toFloat ⟨true, natText 0, [], exponent⟩ = -0 := rfl
  have written : floatText? (-0) = some ['-', '0', '.', '0'] := by decide +kernel
  constructor
  · simp only [Document.literalText, Number.text, zero, written]
    rfl
  · simp only [Number.text, written]
    rfl

/-- Whole numbers are the same for both readers of data. -/
theorem readsAlike_of_fits {l : Literal} (plain : l.IsPlain) (fits : l.fits = true) :
    l.ReadsAlike := by
  obtain ⟨⟨negative, whole, fraction, exponent⟩, isInteger⟩ := l
  simp only [Literal.fits, Bool.and_eq_true, decide_eq_true_eq] at fits
  obtain ⟨rfl, bound⟩ := fits
  obtain ⟨none, spelled⟩ := plain rfl
  simp only at none spelled bound
  subst none
  generalize readDigits whole = n at spelled bound
  subst spelled
  by_cases negativeZero : negative = true ∧ n = 0
  · obtain ⟨rfl, rfl⟩ := negativeZero
    exact readsAlike_negativeZero exponent
  have negates : negative = true → 0 < n := by
    intro is
    exact Nat.pos_of_ne_zero fun zero => negativeZero ⟨is, zero⟩
  have small : n < 2 ^ 64 := by
    refine Nat.lt_of_le_of_lt bound ?_
    split <;> decide
  intro x read
  have integer : x = .integer (if negative then -n else n) := by
    simp only [Number.ofLiteral?, readDigits_natText] at read
    cases negative with
    | false =>
      rw [if_pos ⟨trivial, by decide, bound⟩] at read
      exact (Option.some.inj read).symm
    | true =>
      rw [if_neg (by simp), if_pos ⟨trivial, rfl, negates rfl, bound⟩] at read
      exact (Option.some.inj read).symm
  have text : Document.literalText ⟨⟨negative, natText n, [], exponent⟩, true⟩ =
      (if negative then ['-'] else []) ++ natText n := by
    simp only [Document.literalText, readDigits_natText]
    rw [if_pos ⟨trivial, negativeZero⟩]
  rw [integer, Number.text_signed negative negates, Number.toFloat_signed negative negates]
  exact ⟨text, read_signed negative small⟩

-- A fraction may read alike too, but `3e23` does not.
example : (Literal.mk ⟨false, ['1'], ['5'], 0⟩ false).ReadsAlike ∧
    ¬ (Literal.mk ⟨false, ['3'], [], 23⟩ false).ReadsAlike := by
  decide +kernel

end Literal

end Json

end Metering
