import TagLint.Calendar.Instant
/-!
What a clock shows: a date, a time of day, and how far the clock is ahead of universal time. A clock
that does not say how far it is ahead shows universal time.
-/

namespace TagLint.Calendar

/-- A reading of a clock. `ahead` is how far the clock is ahead of universal time, in
microseconds. -/
structure Reading where
  date : Date
  hour : Fin 24
  minute : Fin 60
  second : Fin 60
  micro : Fin 1000000
  ahead : Option Int := none

/-- The point in time at which a clock shows this. -/
def Reading.instant (r : Reading) : Instant :=
  ⟨(Instant.ofClock r.date r.hour r.minute r.second r.micro 0).micros - r.ahead.getD 0⟩

end TagLint.Calendar
