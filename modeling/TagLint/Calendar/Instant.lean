import TagLint.Calendar.Date
import TagLint.Text.Basic
/-!
Points in time, as the number of microseconds since the first day of the calendar began in
universal time. Points outside the calendar exist as numbers, but they cannot be written down.
-/

namespace TagLint.Calendar

/-- A point in time. -/
structure Instant where
  micros : Int
deriving DecidableEq, Repr

namespace Instant

/-- The number of microseconds in a day. -/
def microsPerDay : Nat := 86400000000

/-- The number of microseconds in a minute. -/
def microsPerMinute : Nat := 60000000

/-- The point in time that a clock shows `minutesEast` minutes east of universal time. -/
def ofClock (d : Date) (hour minute second micro : Nat) (minutesEast : Int) : Instant :=
  let ofDay := ((hour * 60 + minute) * 60 + second) * 1000000 + micro
  ⟨(d.dayNumber * microsPerDay + ofDay : Nat) - minutesEast * microsPerMinute⟩

/-- The instant so many whole days later. -/
def addDays (t : Instant) (days : Int) : Instant := ⟨t.micros + days * microsPerDay⟩

/-- The instant so many whole minutes later. -/
def addMinutes (t : Instant) (minutes : Int) : Instant := ⟨t.micros + minutes * microsPerMinute⟩

/-- Whether the calendar has a date for this instant. -/
def inCalendar (t : Instant) : Bool :=
  0 ≤ t.micros && t.micros < (Date.calendarLength * microsPerDay : Nat)

/-- Whether `s` comes after `t`. -/
def isAfter (s t : Instant) : Bool := t.micros < s.micros

/-- The date and the time of day of an instant, in hours, minutes, seconds and microseconds. -/
def clock? (t : Instant) : Option (Date × Nat × Nat × Nat × Nat) :=
  if t.micros < 0 then none
  else
    let n := t.micros.toNat
    (Date.ofDayNumber? (n / microsPerDay)).map fun d =>
      let m := n % microsPerDay
      let s := m / 1000000
      (d, s / 3600, s / 60 % 60, s % 60, m % 1000000)

/-- The written form in universal time, `year-month-dayThour:minute:second` with the given ending
made from the microseconds; nothing for an instant outside the calendar. -/
def render (ending : Nat → Text) (t : Instant) : Text :=
  match t.clock? with
  | none => []
  | some (d, hour, minute, second, micro) =>
    Text.ofNatPadded 4 d.year ++ ['-'] ++ Text.ofNatPadded 2 d.month ++ ['-'] ++
      Text.ofNatPadded 2 d.day ++ ['T'] ++ Text.ofNatPadded 2 hour ++ [':'] ++
      Text.ofNatPadded 2 minute ++ [':'] ++ Text.ofNatPadded 2 second ++ ending micro ++
      "+00:00".toList

/-- The written form with six places of the second. -/
def renderMicros : Instant → Text := render fun micro => '.' :: Text.ofNatPadded 6 micro

/-- The written form in whole seconds; a started second is cut off. -/
def renderSeconds : Instant → Text := render fun _ => []

end Instant

end TagLint.Calendar
