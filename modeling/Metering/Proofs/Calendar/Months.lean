import Metering.Calendar.Date

/-!
Months counted through. The first days of months form an increasing sequence (`monthStart_lt_succ`), and
a date lies between the first day of its month and that of the next.
-/
namespace Metering.Calendar

theorem totalDays_take_succ (lengths : List Nat) (n : Nat) :
    totalDays (lengths.take (n + 1)) = totalDays (lengths.take n) + lengths.getD n 0 := by
  induction lengths generalizing n with
  | nil => simp [totalDays]
  | cons length rest ih =>
    cases n with
    | zero => simp [totalDays]
    | succ n =>
      rw [List.take_succ_cons, List.take_succ_cons, totalDays, totalDays, ih n,
        List.getD_cons_succ, Nat.add_assoc]

theorem monthLength_pos (year : Int) {month : Nat} (first : 1 ≤ month) (last : month ≤ 12) :
    28 ≤ monthLength year month := by
  have cases : month = 1 ∨ month = 2 ∨ month = 3 ∨ month = 4 ∨ month = 5 ∨ month = 6 ∨ month = 7 ∨
      month = 8 ∨ month = 9 ∨ month = 10 ∨ month = 11 ∨ month = 12 := by omega
  rcases cases with rfl | rfl | rfl | rfl | rfl | rfl | rfl | rfl | rfl | rfl | rfl | rfl <;>
    simp only [monthLength, monthLengths] <;> first | decide | (split <;> decide)

theorem monthLength_le (year : Int) (month : Nat) : monthLength year month ≤ 31 := by
  have all : ∀ length ∈ monthLengths year, length ≤ 31 := by
    cases leap : isLeapYear year <;> simp [monthLengths, leap]
  rw [monthLength, List.getD_eq_getElem?_getD]
  cases found : (monthLengths year)[month - 1]? with
  | none => exact Nat.zero_le _
  | some length => exact all length (List.mem_of_getElem? found)

/-- The number of a month, counted from January of the year 0. -/
def Date.monthNumber (d : Date) : Int := d.year * 12 + (d.month - 1)

/-- The first day of a month by its number. -/
def firstOfMonth (n : Int) : Date := ⟨n / 12, (n % 12).toNat + 1, 1⟩

def monthStart (n : Int) : Int := (firstOfMonth n).dayNumber

theorem monthNumber_firstOfMonth (n : Int) : (firstOfMonth n).monthNumber = n := by
  simp only [Date.monthNumber, firstOfMonth]
  omega

theorem firstOfMonth_monthNumber {d : Date} (valid : d.IsValid) :
    firstOfMonth d.monthNumber = ⟨d.year, d.month, 1⟩ := by
  obtain ⟨first, last, -, -⟩ := valid
  have year : d.monthNumber / 12 = d.year := by
    simp only [Date.monthNumber]
    omega
  have month : (d.monthNumber % 12).toNat + 1 = d.month := by
    simp only [Date.monthNumber]
    omega
  rw [firstOfMonth, year, month]

/-- The month after a date starts where the month of the date ends. -/
theorem dayNumber_nextMonth {d : Date} (valid : d.IsValid) :
    d.nextMonth.dayNumber = (Date.mk d.year d.month 1).dayNumber + monthLength d.year d.month := by
  obtain ⟨first, last, -, -⟩ := valid
  unfold Date.nextMonth
  split
  · rename_i december
    have total := totalDays_monthLengths d.year
    have split := totalDays_take_succ (monthLengths d.year) 11
    have all : (monthLengths d.year).take 12 = monthLengths d.year := rfl
    have eleven : (12 : Nat) - 1 = 11 := rfl
    simp only [Date.dayNumber, monthLength, december, all, eleven, Nat.sub_self, List.take_zero,
      totalDays] at split ⊢
    omega
  · rename_i other
    have split := totalDays_take_succ (monthLengths d.year) (d.month - 1)
    have next : d.month + 1 - 1 = d.month - 1 + 1 := by omega
    simp only [Date.dayNumber, monthLength, next]
    omega

theorem nextMonth_eq {d : Date} (valid : d.IsValid) :
    d.nextMonth = firstOfMonth (d.monthNumber + 1) := by
  obtain ⟨first, last, -, -⟩ := valid
  unfold Date.nextMonth
  split
  · rename_i december
    simp only [firstOfMonth, Date.monthNumber, Date.mk.injEq]
    refine ⟨?_, ?_, trivial⟩ <;> omega
  · rename_i other
    simp only [firstOfMonth, Date.monthNumber, Date.mk.injEq]
    refine ⟨?_, ?_, trivial⟩ <;> omega

theorem isValid_firstOfMonth (n : Int) : (firstOfMonth n).IsValid := by
  have first : 1 ≤ (n % 12).toNat + 1 := by omega
  have last : (n % 12).toNat + 1 ≤ 12 := by omega
  have days := monthLength_pos (n / 12) first last
  exact ⟨first, last, Nat.le_refl 1, Nat.le_trans (show 1 ≤ 28 by decide) days⟩

theorem monthStart_lt_succ (n : Int) : monthStart n < monthStart (n + 1) := by
  have valid := isValid_firstOfMonth n
  have next := dayNumber_nextMonth valid
  have number := nextMonth_eq valid
  rw [monthNumber_firstOfMonth] at number
  have days := monthLength_pos (firstOfMonth n).year valid.1 valid.2.1
  have start : (Date.mk (firstOfMonth n).year (firstOfMonth n).month 1).dayNumber =
      (firstOfMonth n).dayNumber := rfl
  rw [start, number] at next
  simp only [monthStart]
  omega

theorem monthStart_monthNumber {d : Date} (valid : d.IsValid) :
    monthStart d.monthNumber = (Date.mk d.year d.month 1).dayNumber := by
  rw [monthStart, firstOfMonth_monthNumber valid]

theorem monthStart_le_dayNumber {d : Date} (valid : d.IsValid) :
    monthStart d.monthNumber ≤ d.dayNumber := by
  rw [monthStart_monthNumber valid]
  simp only [Date.dayNumber]
  omega

theorem dayNumber_lt_monthStart {d : Date} (valid : d.IsValid) :
    d.dayNumber < monthStart (d.monthNumber + 1) := by
  have next := dayNumber_nextMonth valid
  obtain ⟨-, -, low, high⟩ := id valid
  rw [monthStart, ← nextMonth_eq valid, next]
  simp only [Date.dayNumber]
  omega

end Metering.Calendar
