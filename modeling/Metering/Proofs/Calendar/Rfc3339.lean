import Mathlib.Data.Nat.Digits.Defs
import Metering.Calendar.Rfc3339
import Metering.Proofs.Calendar.Months

/-!
Instants told by their texts. The fields of a text have fixed widths but for the year, which ends where
its digits do, and the fraction, which ends the text; so no two instants are written the same
(`Instant.toText_injective`).
-/
namespace Metering

open Calendar Text

namespace Text

theorem decimalDigits_inj {width m n : Nat} (hm : m < 10 ^ width) (hn : n < 10 ^ width)
    (h : decimalDigits width m = decimalDigits width n) : m = n := by
  have read := congrArg readDigits h
  rw [readDigits_decimalDigits, readDigits_decimalDigits] at read
  exact (Nat.mod_eq_of_lt hm).symm.trans (read.trans (Nat.mod_eq_of_lt hn))

/-- A field of a fixed width is told by its text, whatever follows. -/
theorem decimalDigits_append_inj {width m n : Nat} {rest rest' : List Char} (hm : m < 10 ^ width)
    (hn : n < 10 ^ width) (h : decimalDigits width m ++ rest = decimalDigits width n ++ rest') :
    m = n ∧ rest = rest' := by
  obtain ⟨digits, same⟩ := List.append_inj h (by rw [decimalDigits_length, decimalDigits_length])
  exact ⟨decimalDigits_inj hm hn digits, same⟩

theorem readDigits_paddedText (width n : Nat) : readDigits (paddedText width n) = n := by
  rw [paddedText]
  split
  · rename_i fits
    rw [readDigits_decimalDigits]
    exact Nat.mod_eq_of_lt fits
  · exact Nat.ofDigitChars_ten_toDigits

theorem isDigit_of_mem_paddedText {width n : Nat} {c : Char} (h : c ∈ paddedText width n) :
    c.isDigit = true := by
  rw [paddedText] at h
  split at h
  · exact isDigit_of_mem_decimalDigits h
  · exact Nat.isDigit_of_mem_toDigits (by decide) (by decide) h

/-- Digits end where something else follows. -/
theorem digits_append_inj {cs ds rest rest' : List Char} {c : Char} (hcs : ∀ d ∈ cs, d.isDigit = true)
    (hds : ∀ d ∈ ds, d.isDigit = true) (hc : c.isDigit = false)
    (h : cs ++ c :: rest = ds ++ c :: rest') : cs = ds ∧ rest = rest' := by
  have taken {cs rest : List Char} (hcs : ∀ d ∈ cs, d.isDigit = true) :
      (cs ++ c :: rest).takeWhile Char.isDigit = cs := by
    rw [List.takeWhile_append_of_pos hcs, List.takeWhile_cons, hc]
    exact List.append_nil cs
  obtain rfl : cs = ds := by
    have both := congrArg (List.takeWhile Char.isDigit) h
    rwa [taken hcs, taken hds] at both
  exact ⟨rfl, (List.cons.inj (List.append_cancel_left h)).2⟩

end Text

namespace Rfc3339

/-- A year of four digits is not taken for one with a sign. -/
theorem decimalDigits_ne_sign {n : Nat} {sign : Char} (hs : sign.isDigit = false)
    (rest rest' : List Char) : decimalDigits 4 n ++ rest ≠ sign :: rest' := by
  intro h
  cases digits : decimalDigits 4 n with
  | nil =>
    have length := decimalDigits_length 4 n
    rw [digits] at length
    cases length
  | cons c cs =>
    have mem : c ∈ decimalDigits 4 n := digits ▸ List.mem_cons_self
    rw [digits, List.cons_append, List.cons.injEq] at h
    rw [← h.1, isDigit_of_mem_decimalDigits mem] at hs
    cases hs

/-- Years of fewer or more digits have a sign. -/
theorem yearText_signed {y : Int} (h : ¬ (0 ≤ y ∧ y ≤ 9999)) :
    ∃ sign, yearText y = sign :: paddedText 4 y.natAbs ∧ sign.isDigit = false ∧
      (sign = '-' ↔ y < 0) := by
  refine ⟨_, if_neg h, ?_, ?_⟩ <;> split <;> simp_all

/-- A year is told by its text and the dash after it. -/
theorem yearText_append_inj {y y' : Int} {rest rest' : List Char}
    (h : yearText y ++ '-' :: rest = yearText y' ++ '-' :: rest') : y = y' ∧ rest = rest' := by
  by_cases four : 0 ≤ y ∧ y ≤ 9999
  · have own : yearText y = decimalDigits 4 y.toNat := if_pos four
    rw [own] at h
    by_cases four' : 0 ≤ y' ∧ y' ≤ 9999
    · have own' : yearText y' = decimalDigits 4 y'.toNat := if_pos four'
      rw [own'] at h
      obtain ⟨same, others⟩ := decimalDigits_append_inj (by omega) (by omega) h
      exact ⟨by omega, (List.cons.inj others).2⟩
    · obtain ⟨sign, own', unsigned, -⟩ := yearText_signed four'
      rw [own'] at h
      exact absurd h (decimalDigits_ne_sign unsigned _ _)
  · obtain ⟨sign, own, unsigned, negative⟩ := yearText_signed four
    rw [own] at h
    by_cases four' : 0 ≤ y' ∧ y' ≤ 9999
    · have own' : yearText y' = decimalDigits 4 y'.toNat := if_pos four'
      rw [own'] at h
      exact absurd h.symm (decimalDigits_ne_sign unsigned _ _)
    · obtain ⟨sign', own', -, negative'⟩ := yearText_signed four'
      rw [own', List.cons_append, List.cons_append, List.cons.injEq] at h
      obtain ⟨rfl, digits⟩ := h
      obtain ⟨padded, others⟩ := digits_append_inj (fun _ mem => isDigit_of_mem_paddedText mem)
        (fun _ mem => isDigit_of_mem_paddedText mem) (by decide) digits
      have size := congrArg readDigits padded
      rw [readDigits_paddedText, readDigits_paddedText] at size
      have same := negative.symm.trans negative'
      exact ⟨by omega, others⟩

/-- A fraction that is not zero is written with as many digits as are exact. -/
theorem fractionText_pos {n : Nat} (h : n ≠ 0) : ∃ width scale,
    fractionText n = '.' :: decimalDigits width (n / scale) ∧ n / scale * scale = n ∧
      scale * 10 ^ width = 1000000000 := by
  rw [fractionText, if_neg h]
  split
  · exact ⟨3, 1000000, rfl, by omega, rfl⟩
  · split
    · exact ⟨6, 1000, rfl, by omega, rfl⟩
    · exact ⟨9, 1, by rw [Nat.div_one], by omega, rfl⟩

theorem fractionText_inj {m n : Nat} (hm : m < 1000000000) (hn : n < 1000000000)
    (h : fractionText m = fractionText n) : m = n := by
  by_cases zero : m = 0
  · by_cases zero' : n = 0
    · omega
    · obtain ⟨width, scale, is, -, -⟩ := fractionText_pos zero'
      rw [zero, is] at h
      cases h
  · obtain ⟨width, scale, is, exact_m, all⟩ := fractionText_pos zero
    by_cases zero' : n = 0
    · rw [zero', is] at h
      cases h
    · obtain ⟨width', scale', is', exact_n, all'⟩ := fractionText_pos zero'
      rw [is, is', List.cons.injEq] at h
      obtain rfl : width = width' := by
        have length := congrArg List.length h.2
        rwa [decimalDigits_length, decimalDigits_length] at length
      obtain rfl : scale = scale' :=
        Nat.eq_of_mul_eq_mul_right (Nat.pow_pos (by decide)) (all.trans all'.symm)
      have same := decimalDigits_inj (Nat.div_lt_of_lt_mul (by omega))
        (Nat.div_lt_of_lt_mul (by omega)) h.2
      rw [← exact_m, ← exact_n, same]

/-- The nanoseconds of a day that have passed at an instant. -/
theorem nanosOfDay_eq (t : Instant) :
    0 ≤ t.nanos - t.startOfDay.nanos ∧ t.nanos - t.startOfDay.nanos < 86400000000000 := by
  simp only [Instant.startOfDay, Instant.ofDayNumber, Instant.dayNumber]
  omega

theorem localText_inj {t u : Instant} (h : localText t = localText u) : t = u := by
  obtain ⟨first, past⟩ := nanosOfDay_eq t
  obtain ⟨first', past'⟩ := nanosOfDay_eq u
  obtain ⟨-, december, -, end_of_month⟩ := Date.isValid_ofDayNumber t.dayNumber
  obtain ⟨-, december', -, end_of_month'⟩ := Date.isValid_ofDayNumber u.dayNumber
  have longest := monthLength_le (Date.ofDayNumber t.dayNumber).year (Date.ofDayNumber t.dayNumber).month
  have longest' :=
    monthLength_le (Date.ofDayNumber u.dayNumber).year (Date.ofDayNumber u.dayNumber).month
  -- the fields are taken off one by one, from the year to the fraction
  simp only [localText, List.append_assoc, List.cons_append] at h
  obtain ⟨year, h⟩ := yearText_append_inj h
  obtain ⟨month, h⟩ := decimalDigits_append_inj (by omega) (by omega) h
  obtain ⟨day, h⟩ := decimalDigits_append_inj (by omega) (by omega) (List.cons.inj h).2
  obtain ⟨hour, h⟩ := decimalDigits_append_inj (by omega) (by omega) (List.cons.inj h).2
  obtain ⟨minute, h⟩ := decimalDigits_append_inj (by omega) (by omega) (List.cons.inj h).2
  obtain ⟨second, h⟩ := decimalDigits_append_inj (by omega) (by omega) (List.cons.inj h).2
  have fraction := fractionText_inj (by omega) (by omega) h
  have dates : Date.ofDayNumber t.dayNumber = Date.ofDayNumber u.dayNumber := by
    cases hd : Date.ofDayNumber t.dayNumber
    cases hd' : Date.ofDayNumber u.dayNumber
    rw [hd, hd'] at year month day
    simp_all
  have days : t.dayNumber = u.dayNumber := by
    rw [← Date.dayNumber_ofDayNumber t.dayNumber, dates, Date.dayNumber_ofDayNumber]
  have midnight : t.startOfDay = u.startOfDay := congrArg Instant.ofDayNumber days
  rw [midnight] at first past fraction second minute hour
  have nanos : t.nanos = u.nanos := by omega
  exact congrArg Instant.mk nanos

end Rfc3339

theorem Instant.toText_injective {t u : Instant} (h : t.toText = u.toText) : t = u :=
  Rfc3339.localText_inj (List.append_cancel_right (String.ofList_injective h))

end Metering
