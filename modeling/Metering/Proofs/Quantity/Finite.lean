import Mathlib.Algebra.Group.Nat.Defs
import Metering.Quantity

/-!
Which natural numbers are finite as floats: all that 64 bits hold, and far more. Rounding leaves 53
bits of a number and scales them by a power of two; as long as the power stays below the greatest
exponent of a float, packing the bits and unpacking them again gives a finite float
(`Binary64.isFinite_ofNat`).
-/
namespace Metering.Binary64

open Float.Model (Format UnpackedFloat totalExponent)
open Float.Model.UnpackedFloat

/-- Zero, or 53 bits with an exponent that is bounded. -/
inductive Within (k : Int) : UnpackedFloat → Prop
  | zero (s : Sign) : Within k (.zero s)
  | finite (s : Sign) {m : Nat} {e : Int} (pos : 0 < m) (short : m < 2 ^ 53) (low : e ≤ k) :
    Within k (.finite s m e pos)

namespace Within

variable {j k : Int} {f : UnpackedFloat}

theorem isFinite (h : Within k f) : f.isFinite = true := by
  cases h with
  | zero => rfl
  | finite => rfl

theorem mono (h : Within j f) (le : j ≤ k) : Within k f := by
  cases h with
  | zero s => exact .zero s
  | finite s pos short low => exact .finite s pos short (Int.le_trans low le)

theorem neg (h : Within k f) : Within k f.neg := by
  cases h with
  | zero s => exact .zero _
  | finite s pos short low => exact .finite _ pos short low

end Within

/-- A shift by some places drops as many of the last bits. -/
theorem mantissa_shiftRight (em : ExtendedMantissa) (n : Nat) :
    (em >>> n).mantissa = em.mantissa / 2 ^ n := by
  induction n with
  | zero => simp [HShiftRight.hShiftRight, Nat.repeat]
  | succ n ih =>
    show (em >>> n).shiftRightOne.mantissa = _
    rw [ExtendedMantissa.shiftRightOne, ih, Nat.div_div_eq_div_mul, Nat.pow_succ]

theorem mantissa_ofMantissaAndAccuracy (m : Nat) (a : Accuracy) :
    (ExtendedMantissa.ofMantissaAndAccuracy m a).mantissa = m := by
  unfold ExtendedMantissa.ofMantissaAndAccuracy
  split <;> rfl

theorem roundedMantissa_le (em : ExtendedMantissa) : em.roundedMantissa ≤ em.mantissa + 1 := by
  unfold ExtendedMantissa.roundedMantissa Accuracy.roundToNearestEven
  split <;> omega

/-- The exponent that a number is shifted to leaves 53 bits of it. -/
theorem shift_spec (m : Nat) (e : Int) (a : Accuracy) :
    (shiftToTargetExponent Format.binary64 m e a).1.mantissa < 2 ^ 53 ∧
      (shiftToTargetExponent Format.binary64 m e a).2 ≤
        max e (max (m.log2 + 1 + e - 53) (-1074)) := by
  have target : Format.binary64.targetExponent (totalExponent m e) =
      max (m.log2 + 1 + e - 53) (-1074) := rfl
  simp only [shiftToTargetExponent, shiftToExponent, target]
  constructor
  · rw [mantissa_shiftRight, mantissa_ofMantissaAndAccuracy,
      Nat.div_lt_iff_lt_mul (Nat.two_pow_pos _), ← Nat.pow_add]
    exact Nat.lt_of_lt_of_le Nat.lt_log2_self (Nat.pow_le_pow_right (by decide) (by omega))
  · omega

theorem log2_le_of_le_two_pow {m n : Nat} (h : m ≤ 2 ^ n) : m.log2 ≤ n := by
  by_cases zero : m = 0
  · simp [zero]
  · exact (Nat.pow_le_pow_iff_right (by decide)).1 (Nat.le_trans (Nat.log2_self_le zero) h)

/-- Rounding may carry into one bit more, which takes one more shift. -/
theorem within_round (s : Sign) (m : Nat) (e : Int) (a : Accuracy) :
    Within (max e (max (m.log2 + 1 + e - 53) (-1074)) + 1)
      (roundWithAccuracy Format.binary64 s m e a) := by
  obtain ⟨short, low⟩ := shift_spec m e a
  unfold roundWithAccuracy
  generalize shiftToTargetExponent Format.binary64 m e a = first at short low ⊢
  obtain ⟨em, e₁⟩ := first
  have rounded : em.roundedMantissa ≤ 2 ^ 53 := Nat.le_trans (roundedMantissa_le em) short
  have carried := log2_le_of_le_two_pow rounded
  obtain ⟨short', low'⟩ := shift_spec em.roundedMantissa e₁ .exact
  dsimp only at low ⊢
  generalize shiftToTargetExponent Format.binary64 em.roundedMantissa e₁ .exact = second
    at short' low' ⊢
  by_cases zero : second.1.mantissa = 0
  · rw [dif_pos zero]
    exact .zero s
  · rw [dif_neg zero]
    exact .finite s _ short' (by omega)

/-- Bits are unpacked as a finite number unless all bits of the exponent are set. -/
theorem within_unpack {k : Int} (b : BitVec Format.binary64.numBits)
    (low : max ((unpackExponent b).toNat - 1075 : Int) (-1074) ≤ k)
    (notAll : (unpackExponent b).toNat ≠ 2047) : Within k (unpack Format.binary64 b) := by
  have bias : ((Format.binary64.exponentBias : Int) +
      Format.binary64.mantissaBitsWithoutImplicit) = 1075 := rfl
  have notAll : unpackExponent b ≠ -1#11 := fun is => notAll (by rw [is]; rfl)
  delta UnpackedFloat.unpack
  dsimp only
  rw [if_neg notAll, bias]
  by_cases none : unpackExponent b = 0#11
  · have least : (unpackExponent b).toNat = 0 := by rw [none]; rfl
    rw [if_pos none]
    by_cases zero : unpackMantissa b = 0#52
    · rw [dif_pos zero]
      exact .zero _
    · rw [dif_neg zero]
      exact .finite _ _ (Nat.lt_trans (unpackMantissa b).isLt (by decide)) (by omega)
  · rw [if_neg none]
    exact .finite _ _ (BitVec.isLt _) (by omega)

theorem within_unpack_packComponents {k : Int} (s : Sign) (e : BitVec 11) (m : BitVec 52)
    (low : max (e.toNat - 1075 : Int) (-1074) ≤ k) (notAll : e.toNat ≠ 2047) :
    Within k (unpack Format.binary64 (packComponents Format.binary64 s e m)) := by
  have same : unpackExponent (packComponents Format.binary64 s e m) = e :=
    unpackExponent_packComponents
  refine within_unpack _ ?_ ?_
  · rwa [same]
  · rwa [same]

/-- Packed and unpacked again, a number keeps its bound. -/
theorem within_unpack_pack {k : Int} {f : UnpackedFloat} (h : Within k f) (least : -1074 ≤ k)
    (most : k ≤ 970) : Within k (Float.Model.pack f).unpack := by
  show Within k (unpack Format.binary64 (pack Format.binary64 f))
  cases h with
  | zero s => cases s <;> exact .zero _
  | @finite s m e pos short low =>
    have biased : (e + Format.binary64.exponentBias +
        Format.binary64.mantissaBitsWithoutImplicit).toNat = (e + 1075).toNat := by
      show (e + 1023 + 52).toNat = _
      omega
    have fits : ¬ 2 ^ Format.binary64.exponentBits ≤ (e + 1075).toNat + 1 := by
      show ¬ 2048 ≤ _
      omega
    delta UnpackedFloat.pack
    dsimp only
    rw [biased, if_neg fits]
    split
    · refine within_unpack_packComponents s _ _ ?_ ?_
      · rw [BitVec.toNat_ofNat]
        omega
      · rw [BitVec.toNat_ofNat]
        omega
    · refine within_unpack_packComponents s _ _ ?_ (by decide)
      show max ((0 : Int) - 1075) (-1074) ≤ k
      omega

/-- A product is as great as the bits and the exponents of its factors together. -/
theorem within_mul (bits : Nat) (s s' : Sign) {m m' : Nat} {e e' : Int} (pos : 0 < m)
    (pos' : 0 < m') (h : m * m' ≤ 2 ^ bits) :
    Within (max (e + e') (max (bits + 1 + (e + e') - 53) (-1074)) + 1)
      (UnpackedFloat.mul Format.binary64 (.finite s m e pos) (.finite s' m' e' pos')) := by
  have log := log2_le_of_le_two_pow h
  exact (within_round (s * s') (m * m') (e + e') .exact).mono (by omega)

/-- The bits of a product are as many as those of both factors. -/
theorem Within.mul {j k : Int} {f g : UnpackedFloat} (hf : Within j f) (hg : Within k g)
    (least : -1074 ≤ j + k) : Within (j + k + 55) (UnpackedFloat.mul Format.binary64 f g) := by
  cases hf with
  | zero s => cases hg <;> exact .zero _
  | @finite s m e pos short low =>
    cases hg with
    | zero => exact .zero _
    | @finite s' m' e' pos' short' low' =>
      have bits : m * m' ≤ 2 ^ 106 :=
        Nat.le_trans (Nat.mul_le_mul (Nat.le_of_lt short) (Nat.le_of_lt short')) (by decide)
      exact (within_mul 106 s s' pos pos' bits).mono (by omega)

/-- Before it is rounded a natural number is shifted, which keeps its magnitude. -/
theorem within_ofNat {n : Nat} (small : n < 2 ^ 64) :
    Within 13 (UnpackedFloat.ofNat Format.binary64 n) := by
  unfold UnpackedFloat.ofNat UnpackedFloat.ofInt UnpackedFloat.normalize
  split
  · rename_i negative
    exact absurd (Int.compare_eq_lt.1 negative) (by omega)
  · exact .zero _
  · have shifted (places : Nat) : ((n : Int).toNat <<< places).log2 ≤ 64 + places := by
      refine log2_le_of_le_two_pow ?_
      rw [Nat.shiftLeft_eq, Nat.pow_add]
      exact Nat.mul_le_mul_right _ (by omega)
    simp only [UnpackedFloat.round, decreaseExponent]
    refine (within_round _ _ _ _).mono ?_
    have bits := shifted (0 - Format.binary64.targetExponent (totalExponent (n : Int).toNat 0)).toNat
    omega

/-- A natural number is scaled by the power of ten that is one. -/
theorem within_ofScientific {n : Nat} (small : n < 2 ^ 64) :
    Within 67 (ofScientific Format.binary64 n 0) := by
  unfold ofScientific
  by_cases zero : n = 0
  · rw [dif_pos zero]
    exact .zero _
  · have notGreat : ¬ (0 : Int) > 2 ^ Format.binary64.exponentBits := by
      show ¬ (0 : Int) > 2 ^ 11
      decide
    have notSmall : ¬ (0 : Int) < -(2 ^ Format.binary64.exponentBits + n.log2) := by
      show ¬ (0 : Int) < -(2 ^ 11 + n.log2)
      omega
    rw [dif_neg zero, if_neg notGreat, if_neg notSmall, if_pos (Int.le_refl 0)]
    refine (within_mul 117 _ _ _ _ ?_).mono ?_
    · show n <<< 53 * 1 ≤ 2 ^ 117
      rw [Nat.shiftLeft_eq]
      omega
    · show max (-(53 : Int) + 0) (max (117 + 1 + (-53 + 0) - 53) (-1074)) + 1 ≤ 67
      decide

/-- Up to 53 bits are multiplied by one, more of them are scaled. -/
theorem within_float {n : Nat} (small : n < 2 ^ 64) : Within 67 (Float.ofNat n).toModel.unpack := by
  show Within 67 (Float.ofScientific n false 0).toModel.unpack
  unfold Float.ofScientific
  split
  · have first : Within 13 (Float.Model.ofUInt64 n.toUInt64).unpack :=
      within_unpack_pack (within_ofNat n.toUInt64.toNat_lt) (by decide) (by decide)
    have one : Within (-52) (Float.exactlyRepresentablePowersOfTen[0]).toModel.unpack :=
      .finite .positive (m := 2 ^ 52) (by decide) (by decide) (by decide)
    have product := (first.mul one (by decide)).mono (k := 67) (by decide)
    exact within_unpack_pack product (by decide) (by decide)
  · exact within_unpack_pack (within_ofScientific small) (by decide) (by decide)

/-- A natural number of 64 bits is a finite float. -/
theorem isFinite_ofNat {n : Nat} (small : n < 2 ^ 64) : (Float.ofNat n).isFinite = true :=
  (within_float small).isFinite

theorem isFinite_neg_ofNat {n : Nat} (small : n < 2 ^ 64) : (-Float.ofNat n).isFinite = true :=
  (within_unpack_pack (within_float small).neg (by decide) (by decide)).isFinite

end Metering.Binary64
