import Metering.Proofs.Calendar.Rfc3339
import Metering.Proofs.Text.Digits

/-!
Instants read back from their texts. A text gives an instant of the calendar, and every instant of the
calendar is read from the text that it is written as (`Instant.readLenient_toText`): the year with or
without a sign, and the fraction with as many digits as are written.
-/
namespace Metering

open Calendar Text

namespace Rfc3339

theorem dropBlanks_digit {ds rest : List Char} (digits : ∀ c ∈ ds, c.isDigit = true) (ne : ds ≠ []) :
    dropBlanks (ds ++ rest) = ds ++ rest := by
  obtain ⟨c, cs, rfl⟩ := List.exists_cons_of_ne_nil ne
  rw [List.cons_append, dropBlanks, List.dropWhile_cons, isBlank_digit (digits c List.mem_cons_self)]
  rfl

theorem decimalDigits_ne_nil {width n : Nat} (h : 0 < width) : decimalDigits width n ≠ [] := by
  rw [← List.length_pos_iff, decimalDigits_length]
  exact h

theorem paddedText_ne_nil {width n : Nat} (h : 0 < width) : paddedText width n ≠ [] := by
  rw [paddedText]
  split
  · exact decimalDigits_ne_nil h
  · exact natText_ne_nil n

theorem shortField_decimalDigits {n : Nat} (h : n < 100) (rest : List Char) :
    shortField (decimalDigits 2 n ++ rest) = some (n, rest) := by
  have digits : ∀ c ∈ decimalDigits 2 n, c.isDigit = true := fun _ => isDigit_of_mem_decimalDigits
  have length := decimalDigits_length 2 n
  have taken : takeDigits 2 (decimalDigits 2 n ++ rest) = (decimalDigits 2 n, rest) :=
    takeDigits_append digits (Nat.le_of_eq length) (.inl length)
  have ne : decimalDigits 2 n ≠ [] := decimalDigits_ne_nil (by decide)
  rw [shortField, dropBlanks_digit digits ne, taken]
  show (if decimalDigits 2 n = [] then none else some (readDigits (decimalDigits 2 n), rest)) = _
  rw [if_neg ne, readDigits_decimalDigits]
  exact congrArg (fun n => some (n, rest)) (Nat.mod_eq_of_lt h)

/-- A sign and the digits after it, as many as there are. -/
theorem lenientYear_sign {ds : List Char} (digits : ∀ c ∈ ds, c.isDigit = true) (ne : ds ≠ [])
    (rest : List Char) :
    lenientYear ('-' :: (ds ++ '-' :: rest)) = some (-1 * (readDigits ds : Int), '-' :: rest) ∧
      lenientYear ('+' :: (ds ++ '-' :: rest)) = some (1 * (readDigits ds : Int), '-' :: rest) := by
  have taken : takeDigits (ds ++ '-' :: rest).length (ds ++ '-' :: rest) = (ds, '-' :: rest) := by
    refine takeDigits_append digits ?_ (.inr fun c head => ?_)
    · rw [List.length_append]
      exact Nat.le_add_right _ _
    · cases head
      rfl
  constructor
  · show (let r := takeDigits _ _; if r.1 = [] then none else some (-1 * (readDigits r.1 : Int), r.2)) = _
    rw [taken]
    exact if_neg ne
  · show (let r := takeDigits _ _; if r.1 = [] then none else some (1 * (readDigits r.1 : Int), r.2)) = _
    rw [taken]
    exact if_neg ne

/-- Four digits that are not followed by more. -/
theorem lenientYear_four {n : Nat} (h : n < 10000) (rest : List Char) :
    lenientYear (decimalDigits 4 n ++ rest) = some ((n : Int), rest) := by
  have digits : ∀ c ∈ decimalDigits 4 n, c.isDigit = true := fun _ => isDigit_of_mem_decimalDigits
  have length := decimalDigits_length 4 n
  have ne : decimalDigits 4 n ≠ [] := decimalDigits_ne_nil (by decide)
  have taken : takeDigits 4 (decimalDigits 4 n ++ rest) = (decimalDigits 4 n, rest) :=
    takeDigits_append digits (Nat.le_of_eq length) (.inl length)
  have size : readDigits (decimalDigits 4 n) = n :=
    (readDigits_decimalDigits 4 n).trans (Nat.mod_eq_of_lt h)
  have unsigned (sign : Char) (hs : sign.isDigit = false) (cs : List Char) :
      decimalDigits 4 n ++ rest ≠ sign :: cs := decimalDigits_ne_sign hs rest cs
  rw [lenientYear, dropBlanks_digit digits ne]
  split
  · rename_i cs is
    exact absurd is (unsigned '-' rfl cs)
  · rename_i cs is
    exact absurd is (unsigned '+' rfl cs)
  · simp only [taken, if_neg ne, size, Int.one_mul]

theorem lenientYear_yearText (y : Int) (rest : List Char) :
    lenientYear (yearText y ++ '-' :: rest) = some (y, '-' :: rest) := by
  by_cases four : 0 ≤ y ∧ y ≤ 9999
  · have own : yearText y = decimalDigits 4 y.toNat := if_pos four
    rw [own, lenientYear_four (by omega), Int.toNat_of_nonneg four.1]
  · have own : yearText y = (if y < 0 then '-' else '+') :: paddedText 4 y.natAbs := if_neg four
    have digits : ∀ c ∈ paddedText 4 y.natAbs, c.isDigit = true :=
      fun _ => isDigit_of_mem_paddedText
    obtain ⟨minus, plus⟩ := lenientYear_sign digits (paddedText_ne_nil (by decide)) rest
    rw [readDigits_paddedText] at minus plus
    rw [own, List.cons_append]
    split
    · rw [minus]
      congr 2
      omega
    · rw [plus]
      congr 2
      omega

/-- A fraction ends where its digits do. -/
theorem fraction_decimalDigits {width m : Nat} (pos : 0 < width) (le : width ≤ 9)
    (small : m < 10 ^ width) :
    fraction ('.' :: decimalDigits width m ++ ['Z']) = some (m * 10 ^ (9 - width), ['Z']) := by
  have taken : takeDigits 9 (decimalDigits width m ++ ['Z']) = (decimalDigits width m, ['Z']) := by
    refine takeDigits_append (fun _ => isDigit_of_mem_decimalDigits) ?_ (.inr fun c head => ?_)
    · rw [decimalDigits_length]
      exact le
    · cases head
      rfl
  have size : readDigits (decimalDigits width m) = m :=
    (readDigits_decimalDigits width m).trans (Nat.mod_eq_of_lt small)
  rw [List.cons_append, fraction]
  simp only [taken, if_neg (decimalDigits_ne_nil pos), size, decimalDigits_length]
  rfl

theorem fraction_fractionText {n : Nat} (h : n < 1000000000) :
    fraction (fractionText n ++ ['Z']) = some (n, ['Z']) := by
  unfold fractionText
  split
  · rename_i zero
    rw [zero]
    rfl
  · split
    · rw [fraction_decimalDigits (by decide) (by decide) (by omega)]
      congr 2
      omega
    · split
      · rw [fraction_decimalDigits (by decide) (by decide) (by omega)]
        congr 2
        omega
      · rw [fraction_decimalDigits (by decide) (by decide) (by omega)]
        congr 2
        omega

theorem expect_dropBlanks {c : Char} (plain : isBlank c = false) (cs : List Char) :
    expect c (dropBlanks (c :: cs)) = some cs := by
  rw [dropBlanks, List.dropWhile_cons, plain]
  exact if_pos rfl

/-- The fields are read from the front of a text one by one. -/
theorem lenientFields_text {d : Date} {hour minute second nanos : Nat} (hd : d.IsValid)
    (hh : hour < 24) (hm : minute < 60) (hs : second < 60) (hn : nanos < 1000000000) :
    lenientFields (yearText d.year ++ '-' :: (decimalDigits 2 d.month ++ '-' ::
      (decimalDigits 2 d.day ++ 'T' :: (decimalDigits 2 hour ++ ':' :: (decimalDigits 2 minute ++
        ':' :: (decimalDigits 2 second ++ (fractionText nanos ++ ['Z']))))))) =
      some (⟨d, hour, minute, second, nanos, 0⟩, []) := by
  obtain ⟨-, december, -, end_of_month⟩ := hd
  have longest := monthLength_le d.year d.month
  have month := shortField_decimalDigits (n := d.month) (by omega)
  have day := shortField_decimalDigits (n := d.day) (by omega)
  have hour := shortField_decimalDigits (n := hour) (by omega)
  have minute := shortField_decimalDigits (n := minute) (by omega)
  have second := shortField_decimalDigits (n := second) (by omega)
  have dash := expect_dropBlanks (show isBlank '-' = false from rfl)
  have colon := expect_dropBlanks (show isBlank ':' = false from rfl)
  simp only [lenientFields, lenientYear_yearText, Option.bind_eq_bind, Option.bind_some, dash, month,
    day, dateTimeSeparator, true_or, if_true, hour, colon, minute, second, fraction_fractionText hn]
  rfl

/-- What is read from the text of an instant. -/
theorem lenientFields_localText (t : Instant) :
    ∃ f, lenientFields (localText t ++ ['Z']) = some (f, []) ∧ f.date = Date.ofDayNumber t.dayNumber ∧
      f.hour < 24 ∧ f.minute < 60 ∧ f.second < 60 ∧ f.offset = 0 ∧
        f.nanosOfDay = t.nanos - t.startOfDay.nanos := by
  obtain ⟨first, past⟩ := nanosOfDay_eq t
  generalize passed : t.nanos - t.startOfDay.nanos = n at first past ⊢
  have hour : n.toNat / 1000000000 / 3600 < 24 := by omega
  have minute : n.toNat / 1000000000 / 60 % 60 < 60 := Nat.mod_lt _ (by decide)
  have second : n.toNat / 1000000000 % 60 < 60 := Nat.mod_lt _ (by decide)
  have nanos : n.toNat % 1000000000 < 1000000000 := Nat.mod_lt _ (by decide)
  refine ⟨⟨Date.ofDayNumber t.dayNumber, _, _, _, n.toNat % 1000000000, 0⟩, ?_, rfl, hour, minute,
    second, rfl, ?_⟩
  · simp only [localText, passed, List.append_assoc, List.cons_append]
    exact lenientFields_text (Date.isValid_ofDayNumber t.dayNumber) hour minute second nanos
  · simp only [Fields.nanosOfDay]
    omega

end Rfc3339

namespace Instant

/-- A text is read as an instant of the calendar. -/
theorem inRange_of_readLenient {s : String} {t : Instant} (h : readLenient? s = some t) :
    t.InRange := by
  rw [readLenient?] at h
  unfold Rfc3339.complete? at h
  split at h
  · unfold Rfc3339.Fields.instant? at h
    split at h
    · simp only [Option.ite_none_right_eq_some, Option.some.injEq] at h
      exact h.2 ▸ h.1.2
    · exact absurd h (by simp)
  · exact absurd h (by simp)

/-- An instant of the calendar is read back from its text. -/
theorem readLenient_toText {t : Instant} (h : t.InRange) : readLenient? t.toText = some t := by
  obtain ⟨f, read, date, hour, minute, second, offset, ofDay⟩ := Rfc3339.lenientFields_localText t
  have wall : ofDayNumber f.date.dayNumber + (⟨f.nanosOfDay⟩ : Span) = t := by
    rw [date, Date.dayNumber_ofDayNumber]
    refine Instant.ext ?_
    show t.startOfDay.nanos + f.nanosOfDay = t.nanos
    omega
  have zone : t - Span.seconds 0 = t := Instant.ext (by simp [Span.seconds])
  rw [readLenient?, toText, String.toList_ofList, read]
  show f.instant? = some t
  rw [Rfc3339.Fields.instant?, if_pos, wall, offset]
  · simp only [zone]
    exact if_pos ⟨h, h⟩
  · refine ⟨?_, hour, minute, Nat.le_of_lt second, ?_⟩
    · rw [date]
      exact Date.isValid_ofDayNumber _
    · rw [offset]
      decide

/-- The instants of the calendar are those that texts are read as. -/
theorem inRange_iff {t : Instant} : t.InRange ↔ ∃ s, readLenient? s = some t :=
  ⟨fun h => ⟨_, readLenient_toText h⟩, fun ⟨_, read⟩ => inRange_of_readLenient read⟩

end Instant

end Metering
