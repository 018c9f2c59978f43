/-!
Dates of the Gregorian calendar, extended to all years from 1 to 9999, and their day numbers. Day 0
is the first of January of the year 1.
-/

namespace TagLint.Calendar

/-- The first and the last year of the calendar. -/
def lastYear : Nat := 9999

/-- A year has a 29th of February if 4 divides it, unless 100 divides it and 400 does not. -/
def isLeap (year : Nat) : Bool := year % 4 == 0 && (year % 100 != 0 || year % 400 == 0)

/-- The number of days of a month, zero for a month that does not exist. -/
def monthLength (year month : Nat) : Nat :=
  match month with
  | 1 | 3 | 5 | 7 | 8 | 10 | 12 => 31
  | 4 | 6 | 9 | 11 => 30
  | 2 => if isLeap year then 29 else 28
  | _ => 0

/-- The number of days of a year. -/
def yearLength (year : Nat) : Nat := if isLeap year then 366 else 365

/-- Whether the calendar has such a day. -/
def IsDate (year month day : Nat) : Prop :=
  1 ≤ year ∧ year ≤ lastYear ∧ 1 ≤ day ∧ day ≤ monthLength year month

instance (year month day : Nat) : Decidable (IsDate year month day) :=
  inferInstanceAs (Decidable (_ ∧ _))

/-- A day of the calendar. -/
structure Date where
  year : Nat
  month : Nat
  day : Nat
  isDate : IsDate year month day
deriving DecidableEq

namespace Date

/-- The date with these parts, if there is one. -/
def ofParts? (year month day : Nat) : Option Date :=
  if h : IsDate year month day then some ⟨year, month, day, h⟩ else none

/-- The number of days before a year begins. -/
def daysBeforeYear (year : Nat) : Nat :=
  let y := year - 1
  y * 365 + y / 4 - y / 100 + y / 400

/-- The number of days of a year before a month begins. -/
def daysBeforeMonth (year : Nat) : (month : Nat) → Nat
  | 0 | 1 => 0
  | month + 2 => daysBeforeMonth year (month + 1) + monthLength year (month + 1)

/-- The number of days from the first day of the calendar to this one. -/
def dayNumber (d : Date) : Nat :=
  daysBeforeYear d.year + daysBeforeMonth d.year d.month + (d.day - 1)

/-- The number of days that the calendar has. -/
def calendarLength : Nat := daysBeforeYear (lastYear + 1)

/-- The year that a day number falls in, and the days of that year before it. Four centuries have
146097 days, one 36524 and a leap day every fourth, four years 1461, one 365 and a leap day every
fourth; the extra day at the end of a period belongs to its last part. -/
def yearOfDay (n : Nat) : Nat × Nat :=
  let era := n / 146097
  let n := n % 146097
  let century := min (n / 36524) 3
  let n := n - century * 36524
  let four := n / 1461
  let n := n % 1461
  let one := min (n / 365) 3
  (era * 400 + century * 100 + four * 4 + one + 1, n - one * 365)

/-- The month and the day that stand so many days after the first of `month`, looking at no more
than `left` further months. -/
def monthOfDay (year : Nat) : (left month days : Nat) → Nat × Nat
  | 0, month, days => (month, days + 1)
  | left + 1, month, days =>
    if days < monthLength year month then (month, days + 1)
    else monthOfDay year left (month + 1) (days - monthLength year month)

/-- The date with this day number, if the calendar reaches so far. -/
def ofDayNumber? (n : Nat) : Option Date :=
  let (year, days) := yearOfDay n
  let (month, day) := monthOfDay year 11 1 days
  ofParts? year month day

end Date

end TagLint.Calendar
