import TagLint.Calendar.Reading
import Mathlib.Algebra.BigOperators.Intervals
import Mathlib.Algebra.Order.BigOperators.Group.Finset
import Mathlib.Data.List.GetD
import Mathlib.Tactic.IntervalCases
/-!
The Gregorian calendar by counting: a year has the days of its twelve months, and the number of a
day is the number of days in the years, in the months and on the days before it. `dayNumber_eq`
says that the closed formula for the days before a year counts the same, and `micros_eq` says the
same of the points in time that clocks show.
-/

namespace TagLint.Calendar.Gregorian

/-- Every fourth year is a leap year, but of the years that end a century only every fourth. -/
def IsLeapYear (year : Nat) : Prop := if 100 ∣ year then 400 ∣ year else 4 ∣ year

instance (year : Nat) : Decidable (IsLeapYear year) :=
  inferInstanceAs (Decidable (if 100 ∣ year then 400 ∣ year else 4 ∣ year))

/-- The lengths of the months of a year, from January to December. -/
def monthLengths (year : Nat) : List Nat :=
  [31, if IsLeapYear year then 29 else 28, 31, 30, 31, 30, 31, 31, 30, 31, 30, 31]

/-- The number of days before a day, counted from the first of January of the year 1. -/
def dayNumber (year month day : Nat) : Nat :=
  ∑ y ∈ Finset.Ico 1 year, (monthLengths y).sum + ((monthLengths year).take (month - 1)).sum +
    (day - 1)

/-- A year up to 9999 has this day in this month. -/
def HasDay (year month day : Nat) : Prop :=
  (1 ≤ year ∧ year ≤ 9999) ∧ (1 ≤ month ∧ month ≤ 12) ∧
    1 ≤ day ∧ day ≤ (monthLengths year).getD (month - 1) 0

/-- The number of days of all years up to 9999. -/
def length : Nat := dayNumber 10000 1 1

/-! ## Years -/

theorem isLeap_iff (year : Nat) : isLeap year = true ↔ IsLeapYear year := by
  unfold isLeap IsLeapYear
  simp only [Bool.and_eq_true, Bool.or_eq_true, beq_iff_eq, bne_iff_ne, ne_eq]
  split <;> omega

theorem sum_monthLengths (year : Nat) : (monthLengths year).sum = yearLength year := by
  unfold monthLengths yearLength
  by_cases h : IsLeapYear year
  · simp [(isLeap_iff year).mpr h, h]
  · simp [show isLeap year = false by simpa using mt (isLeap_iff year).mp h, h]

/-- One step of the closed formula: each fourth number, but no hundredth other than each four
hundredth, adds a day. -/
theorem daysBeforeYear_succ {year : Nat} (h : 1 ≤ year) :
    Date.daysBeforeYear (year + 1) = Date.daysBeforeYear year + yearLength year := by
  have hleap := isLeap_iff year
  unfold IsLeapYear at hleap
  unfold Date.daysBeforeYear yearLength
  dsimp only
  by_cases hl : isLeap year = true
  · have hyes := hleap.mp hl
    rw [if_pos hl]
    split at hyes <;> omega
  · have hno := mt hleap.mpr hl
    rw [if_neg hl]
    split at hno <;> omega

theorem daysBeforeYear_eq {year : Nat} (h : 1 ≤ year) :
    Date.daysBeforeYear year = ∑ y ∈ Finset.Ico 1 year, (monthLengths y).sum := by
  induction year, h using Nat.le_induction with
  | base => rfl
  | succ year h ih =>
    rw [daysBeforeYear_succ h, ih, Finset.sum_Ico_succ_top h, sum_monthLengths]

/-! ## Months and days -/

theorem monthLength_succ (year month : Nat) :
    monthLength year (month + 1) = (monthLengths year).getD month 0 := by
  have hleap := isLeap_iff year
  unfold monthLength monthLengths
  by_cases hm : month < 12
  · interval_cases month <;> simp [hleap]
  · have hlong : 12 ≤ month := Nat.le_of_not_lt hm
    rw [List.getD_eq_default _ _ (by simpa using hlong)]
    split <;> first | rfl | omega

theorem getD_monthLengths_le (year i : Nat) : (monthLengths year).getD i 0 ≤ 31 := by
  unfold monthLengths
  by_cases hi : i < 12
  · interval_cases i <;> simp
    split <;> omega
  · rw [List.getD_eq_default _ _ (by simpa using hi)]
    omega

theorem isDate_iff (year month day : Nat) : IsDate year month day ↔ HasDay year month day := by
  unfold IsDate HasDay lastYear
  cases month with
  | zero =>
    have hnone : monthLength year 0 = 0 := rfl
    omega
  | succ month =>
    rw [monthLength_succ, Nat.add_sub_cancel]
    by_cases hm : month < 12
    · omega
    · rw [List.getD_eq_default _ _ (by simpa [monthLengths] using hm)]
      omega

theorem daysBeforeMonth_succ (year month : Nat) :
    Date.daysBeforeMonth year (month + 1) = ((monthLengths year).take month).sum := by
  induction month with
  | zero => rfl
  | succ month ih =>
    rw [Date.daysBeforeMonth, ih, monthLength_succ, List.take_add_one, List.sum_append,
      List.getD_eq_getElem?_getD]
    cases (monthLengths year)[month]? with
    | none => rfl
    | some n => simp

theorem dayNumber_eq (d : Date) : d.dayNumber = dayNumber d.year d.month d.day := by
  obtain ⟨⟨hyear, -⟩, ⟨hmonth, -⟩, -⟩ := (isDate_iff _ _ _).mp d.isDate
  have hbefore := daysBeforeMonth_succ d.year (d.month - 1)
  rw [Nat.sub_add_cancel hmonth] at hbefore
  unfold Date.dayNumber dayNumber
  rw [daysBeforeYear_eq hyear, hbefore]

/-! ## The whole calendar -/

theorem dayNumber_one_one {year : Nat} (h : 1 ≤ year) :
    dayNumber year 1 1 = Date.daysBeforeYear year := by
  rw [daysBeforeYear_eq h]
  rfl

theorem length_eq : length = Date.calendarLength := by
  have hyear : 10000 = lastYear + 1 := rfl
  unfold length Date.calendarLength
  rw [dayNumber_one_one (by omega), hyear]

/-- What stands before a day in its month, and what stands before the month, is less than a
year. -/
theorem dayNumber_lt_length {year month day : Nat} (h : HasDay year month day) :
    dayNumber year month day < length := by
  obtain ⟨⟨hfirst, hlast⟩, ⟨hmonth, hmonth'⟩, hday, hday'⟩ := h
  have hwithin : ((monthLengths year).take (month - 1)).sum + (day - 1) <
      (monthLengths year).sum := by
    have hsplit := List.sum_take_add_sum_drop (monthLengths year) (month - 1)
    have hlen : month - 1 < (monthLengths year).length := by
      simp only [monthLengths, List.length_cons, List.length_nil]
      omega
    rw [List.drop_eq_getElem_cons hlen, List.sum_cons] at hsplit
    rw [List.getD_eq_getElem _ _ hlen] at hday'
    omega
  have hyears : ∑ y ∈ Finset.Ico 1 (year + 1), (monthLengths y).sum ≤
      ∑ y ∈ Finset.Ico 1 10000, (monthLengths y).sum :=
    Finset.sum_le_sum_of_subset (Finset.Ico_subset_Ico_right (by omega))
  have hlength : length = ∑ y ∈ Finset.Ico 1 10000, (monthLengths y).sum := by
    unfold length
    rw [dayNumber_one_one (by omega), daysBeforeYear_eq (by omega)]
  rw [Finset.sum_Ico_succ_top hfirst] at hyears
  unfold dayNumber
  omega

/-! ## Points in time -/

/-- The number of microseconds from the beginning of the calendar in universal time to the point in
time at which a clock shows this. -/
def micros (r : Reading) : Int :=
  (((dayNumber r.date.year r.date.month r.date.day * 24 + r.hour) * 60 + r.minute) * 60 +
      r.second) * 1000000 + r.micro - r.ahead.getD 0

theorem micros_eq (r : Reading) : r.instant.micros = micros r := by
  unfold Reading.instant Instant.ofClock micros Instant.microsPerDay
  rw [dayNumber_eq]
  push_cast
  omega

end TagLint.Calendar.Gregorian
