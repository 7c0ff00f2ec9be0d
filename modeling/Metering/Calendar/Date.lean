/-!
The proleptic Gregorian calendar: dates as year, month and day, and as a count of days from
1 January 1970. The main statement is `Date.dayNumber_ofDayNumber`: the count that a date was made
from is the count of that date.
-/
namespace Metering.Calendar

def isLeapYear (year : Int) : Bool :=
  year % 4 == 0 && (year % 100 != 0 || year % 400 == 0)

/-- The number of days from 1 January 1970 to 1 January of a year. -/
def yearStart (year : Int) : Int :=
  365 * (year - 1970) + (year - 1) / 4 - (year - 1) / 100 + (year - 1) / 400 - 477

def monthLengths (year : Int) : List Nat :=
  [31, if isLeapYear year then 29 else 28, 31, 30, 31, 30, 31, 31, 30, 31, 30, 31]

def monthLength (year : Int) (month : Nat) : Nat :=
  (monthLengths year).getD (month - 1) 0

/-- The year that holds a day. The estimate from the mean length of a year misses by one at most. -/
def yearOfDay (day : Int) : Int :=
  let estimate := day * 400 / 146097 + 1970
  if day < yearStart estimate then estimate - 1
  else if yearStart (estimate + 1) ≤ day then estimate + 1
  else estimate

/-- The month and the day of the month, both from one, of a day counted from zero in its year. -/
def splitDayOfYear : List Nat → Nat → Nat → Nat × Nat
  | [], month, day => (month, day + 1)
  | length :: rest, month, day =>
    if day < length ∨ rest = [] then (month, day + 1)
    else splitDayOfYear rest (month + 1) (day - length)

/-- How many days some months have together. -/
def totalDays : List Nat → Nat
  | [] => 0
  | length :: rest => length + totalDays rest

structure Date where
  year : Int
  month : Nat
  day : Nat
deriving DecidableEq, Repr

def Date.ofDayNumber (n : Int) : Date :=
  let year := yearOfDay n
  let split := splitDayOfYear (monthLengths year) 1 (n - yearStart year).toNat
  ⟨year, split.1, split.2⟩

def Date.dayNumber (d : Date) : Int :=
  yearStart d.year + (totalDays ((monthLengths d.year).take (d.month - 1)) + (d.day - 1) : Nat)

/-- The month and the day exist. -/
def Date.IsValid (d : Date) : Prop :=
  1 ≤ d.month ∧ d.month ≤ 12 ∧ 1 ≤ d.day ∧ d.day ≤ monthLength d.year d.month

instance (d : Date) : Decidable d.IsValid :=
  inferInstanceAs (Decidable (_ ∧ _))

/-- The day of the week, from Sunday as zero. -/
def weekday (n : Int) : Nat :=
  ((n + 4) % 7).toNat

/-- The first day on or after day `day` of a month that falls on a weekday. -/
def firstWeekdayFrom (year : Int) (month day weekdayWanted : Nat) : Int :=
  let n := Date.dayNumber ⟨year, month, day⟩
  n + (((weekdayWanted : Int) - weekday n) % 7)

/-- The first day of the month after the month of a date. -/
def Date.nextMonth (d : Date) : Date :=
  if d.month = 12 then ⟨d.year + 1, 1, 1⟩ else ⟨d.year, d.month + 1, 1⟩

theorem isLeapYear_iff (year : Int) :
    isLeapYear year = true ↔ year % 4 = 0 ∧ (year % 100 ≠ 0 ∨ year % 400 = 0) := by
  simp [isLeapYear]

theorem totalDays_monthLengths (year : Int) :
    (totalDays (monthLengths year) : Int) = yearStart (year + 1) - yearStart year := by
  have h := isLeapYear_iff year
  unfold yearStart
  by_cases hl : isLeapYear year = true
  · have := h.1 hl
    simp [monthLengths, totalDays, hl]
    omega
  · have : ¬ (year % 4 = 0 ∧ (year % 100 ≠ 0 ∨ year % 400 = 0)) := fun hc => hl (h.2 hc)
    simp only [Bool.not_eq_true] at hl
    simp [monthLengths, totalDays, hl]
    omega

/-- A year starts within two days of where the mean length of a year puts it. -/
theorem yearStart_bounds (year : Int) :
    146097 * (year - 1970) - 400 ≤ 400 * yearStart year ∧
      400 * yearStart year ≤ 146097 * (year - 1970) + 500 := by
  have key : ∀ r : Fin 400, 97 * r.1 + 400 * (r.1 / 100) ≤ 400 * (r.1 / 4) + 591 ∧
      400 * (r.1 / 4) ≤ 97 * r.1 + 400 * (r.1 / 100) + 288 := by decide +kernel
  obtain ⟨r, hr⟩ : ∃ r : Fin 400, ((r.1 : Nat) : Int) = (year - 1) % 400 :=
    ⟨⟨((year - 1) % 400).toNat, by omega⟩, by simp; omega⟩
  obtain ⟨k1, k2⟩ := key r
  have e4 : (year - 1) / 4 = 100 * ((year - 1) / 400) + ((r.1 / 4 : Nat) : Int) := by omega
  have e100 : (year - 1) / 100 = 4 * ((year - 1) / 400) + ((r.1 / 100 : Nat) : Int) := by omega
  unfold yearStart
  omega

theorem yearStart_yearOfDay_le (n : Int) : yearStart (yearOfDay n) ≤ n := by
  unfold yearOfDay
  dsimp only
  have h1 := yearStart_bounds (n * 400 / 146097 + 1970 - 1)
  split
  · omega
  · split <;> omega

theorem lt_yearStart_yearOfDay (n : Int) : n < yearStart (yearOfDay n + 1) := by
  unfold yearOfDay
  dsimp only
  have h1 := yearStart_bounds (n * 400 / 146097 + 1970 + 1 + 1)
  split
  · rw [Int.sub_add_cancel]
    assumption
  · split <;> omega

theorem splitDayOfYear_spec (lengths : List Nat) (month day : Nat) (h : day < totalDays lengths) :
    month ≤ (splitDayOfYear lengths month day).1 ∧
      1 ≤ (splitDayOfYear lengths month day).2 ∧
      (splitDayOfYear lengths month day).1 - month < lengths.length ∧
      totalDays (lengths.take ((splitDayOfYear lengths month day).1 - month)) +
        ((splitDayOfYear lengths month day).2 - 1) = day ∧
      (splitDayOfYear lengths month day).2 ≤
        lengths.getD ((splitDayOfYear lengths month day).1 - month) 0 := by
  induction lengths generalizing month day with
  | nil => simp [totalDays] at h
  | cons length rest ih =>
    unfold splitDayOfYear
    split
    · rename_i hc
      have hlt : day < length := by
        rcases hc with hc | rfl
        · exact hc
        · simpa [totalDays] using h
      simp [totalDays]
      omega
    · rename_i hc
      have hge : length ≤ day := by omega
      have hrest : day - length < totalDays rest := by
        simp only [totalDays] at h
        omega
      obtain ⟨h1, h2, h3, h4, h5⟩ := ih (month + 1) (day - length) hrest
      generalize splitDayOfYear rest (month + 1) (day - length) = r at h1 h2 h3 h4 h5 ⊢
      obtain ⟨k, hk⟩ : ∃ k, r.1 = month + 1 + k := ⟨r.1 - (month + 1), by omega⟩
      have e1 : r.1 - month = k + 1 := by omega
      have e2 : r.1 - (month + 1) = k := by omega
      rw [e1]
      rw [e2] at h3 h4 h5
      refine ⟨by omega, h2, by simpa using h3, ?_, by simpa using h5⟩
      simp only [List.take_succ_cons, totalDays]
      omega

theorem dayOfYear_lt (n : Int) :
    (n - yearStart (yearOfDay n)).toNat < totalDays (monthLengths (yearOfDay n)) := by
  have h1 := yearStart_yearOfDay_le n
  have h2 := lt_yearStart_yearOfDay n
  have h3 := totalDays_monthLengths (yearOfDay n)
  omega

theorem Date.dayNumber_ofDayNumber (n : Int) : (Date.ofDayNumber n).dayNumber = n := by
  have h1 := yearStart_yearOfDay_le n
  obtain ⟨_, _, _, h4, _⟩ := splitDayOfYear_spec _ 1 _ (dayOfYear_lt n)
  simp only [Date.ofDayNumber, Date.dayNumber]
  rw [h4]
  omega

/-- A count of days gives a date that exists. -/
theorem Date.isValid_ofDayNumber (n : Int) : (Date.ofDayNumber n).IsValid := by
  obtain ⟨h1, h2, h3, _, h5⟩ := splitDayOfYear_spec _ 1 _ (dayOfYear_lt n)
  have hlen : (monthLengths (yearOfDay n)).length = 12 := rfl
  exact ⟨h1, by simp only [Date.ofDayNumber]; omega, h2, h5⟩

end Metering.Calendar
