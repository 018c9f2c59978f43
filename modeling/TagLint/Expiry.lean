import TagLint.Calendar.Instant
import TagLint.Failure
import TagLint.Finding
/-!
Expiry tags. The payload is a date `YYYY-MM-DD` and at most one zone; the tag expires with the last
millisecond of that day in that zone, put off by a number of days of grace.
-/

namespace TagLint

open Calendar

/-- How expiry tags are judged. -/
structure Expiry.Policy where
  enabled : Bool := true
  warnOnInvalid : Bool := true
  graceDays : Int := 0
deriving DecidableEq, Repr

/-- An expiry payload that makes sense. -/
structure Expiry where
  expiresAt : Instant
  zone : Text
  dateText : Text
deriving DecidableEq, Repr

namespace Expiry

/-- The zones that are known, with how many hours they are ahead of universal time. -/
def zones : List (Text × Int) := [("UTC".toList, 0), ("KST".toList, 9)]

/-- The first year that is accepted: the first with more than two digits. -/
def firstYear : Nat := 100

/-- The value of ASCII decimal digits, if all are such. -/
def digits? (t : Text) : Option Nat :=
  if t.all Char.isDigit then some (t.foldl (fun n c => n * 10 + (c.toNat - 48)) 0) else none

/-- The date that a text of the form `YYYY-MM-DD` names; one line feed may follow. -/
def date? (t : Text) : Option Date :=
  match Tag.withoutFinalBreak t with
  | [y1, y2, y3, y4, '-', m1, m2, '-', d1, d2] => do
    let year ← digits? [y1, y2, y3, y4]
    let month ← digits? [m1, m2]
    let day ← digits? [d1, d2]
    if year < firstYear then none else Date.ofParts? year month day
  | _ => none

/-- The last millisecond of a day in a zone so many hours ahead. -/
def endOfDay (d : Date) (hours : Int) : Instant :=
  Instant.ofClock d 23 59 59 999000 (hours * 60)

/-- When a tag with this date and this zone expires. -/
def instant? (dateText zone : Text) : Option Instant := do
  let d ← date? dateText
  let hours ← zones.lookup zone
  return endOfDay d hours

/-- The expiry that date and zone make; the zone is given in capital letters. -/
def make? (dateText zone : Text) : Option Expiry :=
  (instant? dateText zone).map fun t => { expiresAt := t, zone, dateText }

/-- The meaning of a payload, if it has one: a date in universal time, or a date and a zone. -/
def ofPayload? (payload : Text) : Option Expiry :=
  match Text.words payload with
  | [d] => make? d "UTC".toList
  | [d, z] => make? d (Text.upper z)
  | _ => none

/-- The wording for a payload without a meaning. -/
def invalidReason : Text := "format invalid. Use YYYY-MM-DD [TZ]".toList

/-- The longest span that can be added to an instant, in days. -/
def longestSpan : Int := 999999999

/-- The instant put off by days of grace, which count only if positive. It fails if the span or the
new instant is out of range. -/
def addGrace (t : Instant) (days : Int) : Except Failure Instant :=
  if days ≤ 0 then .ok t
  else if longestSpan < days then .error .outOfRange
  else
    let s := t.addDays days
    if s.inCalendar then .ok s else .error .outOfRange

/-- The instant put off by days of grace as a clock counts them that runs so many minutes ahead of
universal time. It fails too if the clock or universal time leaves the calendar. -/
def addGraceOnClock (t : Instant) (minutesEast days : Int) : Except Failure Instant := do
  let shown ← addGrace (t.addMinutes minutesEast) days
  let s := shown.addMinutes (-minutesEast)
  if s.inCalendar then .ok s else .error .outOfRange

/-- Marks a payload whose template has not been filled in. -/
def placeholder : Text := ['$', '{']

/-- The wording for a payload without a meaning, with the tag's name. -/
def invalidMessage : Text := "@AI:EXPIRY ".toList ++ invalidReason

/-- The wording for an expired tag. -/
def expiredMessage (e : Expiry) : Text :=
  "@AI:EXPIRY expired on ".toList ++ e.dateText ++ [' '] ++ e.zone

/-- What there is to say about one tag at a point in time. -/
def judge (policy : Policy) (now : Instant) (tag : Tag) : Except Failure (Option Finding) :=
  if tag.kind ≠ .expiry then .ok none
  else if (Text.find? placeholder tag.payload).isSome then .ok none
  else
    match ofPayload? tag.payload with
    | none =>
      .ok (if policy.warnOnInvalid then some (Finding.ofTag tag invalidMessage) else none)
    | some e => do
      let deadline ← addGrace e.expiresAt policy.graceDays
      return if now.isAfter deadline then some (Finding.ofTag tag (expiredMessage e)) else none

/-- The findings about the expiry tags among these, in order. -/
def findings (policy : Policy) (now : Instant) (tags : List Tag) : Except Failure (List Finding) :=
  if policy.enabled then do
    let found ← tags.mapM (judge policy now)
    return found.filterMap id
  else .ok []

end Expiry

end TagLint
