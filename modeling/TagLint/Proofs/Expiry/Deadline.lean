import TagLint.Proofs.Expiry.Payload
import TagLint.Proofs.Inspection
import TagLint.Proofs.Text.Search
import TagLint.Settings.Load
/-!
Deadlines that leave the calendar. The end of a day can always be counted, in every known zone, but
grace can put it off beyond the last day of the calendar. `findings_eq_error_iff` says that this is
the only way in which the judgement of expiry tags fails, whatever the payloads, the grace and the
clock.
-/

namespace TagLint.Expiry

open Calendar

/-- The tag is an expiry tag whose template has been filled in, and this is the term that it sets.
-/
structure IsDue (tag : Tag) (e : Term) : Prop where
  kind : tag.kind = .expiry
  filled : ¬ placeholder <:+: tag.payload
  sets : Sets tag.payload e

/-- The days of grace put the term off beyond the last day of the calendar. -/
def Term.Overflows (e : Term) (graceDays : Int) : Prop :=
  0 < graceDays ∧
    (Gregorian.length : Int) ≤ Gregorian.dayNumber e.year e.month e.day + graceDays

/-! ## The room that grace has -/

theorem length_le_longestSpan : (Gregorian.length : Int) ≤ longestSpan := by
  have hlength : Gregorian.length = 3652059 := by
    rw [Gregorian.length_eq]
    rfl
  unfold longestSpan
  omega

theorem hours_of_mem_zones {zone : Text} {hours : Int} (h : (zone, hours) ∈ zones) :
    0 ≤ hours ∧ hours ≤ 9 := by
  rcases List.mem_cons.mp h with h | h
  · cases h
    omega
  · cases List.mem_singleton.mp h
    omega

/-- The last millisecond of a day in a known zone is one of the same day in universal time, so the
day alone decides whether a deadline is in the calendar. -/
theorem Term.deadline_lt_iff {e : Term} (he : e.IsProper) (graceDays : Int) :
    e.deadline graceDays < Gregorian.length * 86400 * 1000000 ↔ ¬ e.Overflows graceDays := by
  have hhours := hours_of_mem_zones he.zone
  have hday := Gregorian.dayNumber_lt_length he.hasDay
  unfold Term.deadline Term.Overflows
  omega

theorem Term.graceFits_iff {e : Term} (he : e.IsProper) (graceDays : Int) :
    GraceFits e.expiry.expiresAt graceDays ↔ ¬ e.Overflows graceDays := by
  have hhours := hours_of_mem_zones he.zone
  have hspan := length_le_longestSpan
  unfold GraceFits Term.expiry Term.deadline Term.Overflows Instant.addDays Instant.inCalendar
    Instant.microsPerDay
  rw [← Gregorian.length_eq]
  simp only [Bool.and_eq_true, decide_eq_true_eq]
  push_cast
  omega

/-! ## Failures -/

theorem addGrace_eq_error {t : Instant} {days : Int} {failure : Failure}
    (h : addGrace t days = .error failure) : failure = .outOfRange := by
  unfold addGrace at h
  dsimp only at h
  split at h
  · cases h
  split at h
  · cases h
    rfl
  split at h
  · cases h
  · cases h
    rfl

theorem judge_eq_error {policy : Policy} {now : Instant} {tag : Tag} {failure : Failure}
    (h : judge policy now tag = .error failure) : tag.kind = .expiry ∧ failure = .outOfRange := by
  unfold judge at h
  split at h
  · cases h
  rename_i hkind
  refine ⟨not_not.mp hkind, ?_⟩
  split at h
  · cases h
  split at h
  · cases h
  · rcases Traverse.bind_eq_error.mp h with h | ⟨deadline, -, h⟩
    · exact addGrace_eq_error h
    · cases h

theorem not_infix_iff (payload : Text) :
    Text.find? placeholder payload = none ↔ ¬ placeholder <:+: payload := by
  rw [← Text.isSome_find?_iff, Bool.not_eq_true, Option.isSome_eq_false_iff,
    Option.isNone_iff_eq_none]

theorem isInRange_iff {policy : Policy} {tag : Tag} (hkind : tag.kind = .expiry) :
    IsInRange policy tag ↔ ∀ e, IsDue tag e → ¬ e.Overflows policy.graceDays := by
  unfold IsInRange
  rw [not_infix_iff]
  constructor
  · intro h e he
    have hread := (ofPayload?_eq_some_iff tag.payload _).mpr ⟨e, he.sets, rfl⟩
    exact (Term.graceFits_iff he.sets.toIsProper _).mp (h he.filled _ hread)
  · intro h hfilled x hx
    obtain ⟨e, he, rfl⟩ := (ofPayload?_eq_some_iff tag.payload x).mp hx
    exact (Term.graceFits_iff he.toIsProper _).mpr (h e ⟨hkind, hfilled, he⟩)

theorem judge_eq_error_iff (policy : Policy) (now : Instant) (tag : Tag) (failure : Failure) :
    judge policy now tag = .error failure ↔
      failure = .outOfRange ∧ ∃ e, IsDue tag e ∧ e.Overflows policy.graceDays := by
  constructor
  · intro h
    obtain ⟨hkind, hfailure⟩ := judge_eq_error h
    refine ⟨hfailure, ?_⟩
    by_contra hnone
    have hrange : IsInRange policy tag := by
      rw [isInRange_iff hkind]
      exact fun e he hover => hnone ⟨e, he, hover⟩
    have hok : ∃ found, judge policy now tag = .ok found :=
      (exists_judge_eq_ok_iff hkind).mpr hrange
    obtain ⟨found, hfound⟩ := hok
    rw [hfound] at h
    cases h
  · rintro ⟨rfl, e, he, hover⟩
    cases hjudge : judge policy now tag with
    | ok found =>
      have hrange := (exists_judge_eq_ok_iff he.kind).mp ⟨found, hjudge⟩
      exact absurd hover ((isInRange_iff he.kind).mp hrange e he)
    | error failure => rw [(judge_eq_error hjudge).2]

theorem findings_eq_error {policy : Policy} {now : Instant} {tags : List Tag} {failure : Failure}
    (h : findings policy now tags = .error failure) :
    policy.enabled = true ∧ ∃ tag ∈ tags, judge policy now tag = .error failure := by
  unfold findings at h
  split at h
  · rename_i henabled
    rcases Traverse.bind_eq_error.mp h with h | ⟨found, -, h⟩
    · exact ⟨henabled, Traverse.exists_of_mapM_eq_error h⟩
    · cases h
  · cases h

/-- The judgement of expiry tags fails exactly if it is made at all and days of grace put the term
of some tag off beyond the last day of the calendar. Neither the clock nor any other payload makes
it fail. -/
theorem findings_eq_error_iff (policy : Policy) (now : Reading) (tags : List Tag)
    (failure : Failure) :
    findings policy now.instant tags = .error failure ↔
      failure = .outOfRange ∧ policy.enabled = true ∧
        ∃ tag ∈ tags, ∃ e, IsDue tag e ∧ e.Overflows policy.graceDays := by
  constructor
  · intro h
    obtain ⟨henabled, tag, htag, hjudge⟩ := findings_eq_error h
    obtain ⟨hfailure, hover⟩ := (judge_eq_error_iff _ _ _ _).mp hjudge
    exact ⟨hfailure, henabled, tag, htag, hover⟩
  · rintro ⟨rfl, henabled, tag, htag, hover⟩
    have hjudge := (judge_eq_error_iff policy now.instant tag _).mpr ⟨rfl, hover⟩
    cases hfind : findings policy now.instant tags with
    | ok fs =>
      have hall := (exists_findings_eq_ok_iff policy now.instant tags).mp ⟨fs, hfind⟩ henabled
      obtain ⟨found, hfound⟩ := hall tag htag
      rw [hjudge] at hfound
      cases hfound
    | error failure =>
      obtain ⟨-, other, -, hother⟩ := findings_eq_error hfind
      rw [(judge_eq_error hother).2]

/-- The first moment of the year 2026 in universal time. -/
def newYear : Reading where
  date := ⟨2026, 1, 1, by decide⟩
  hour := 0
  minute := 0
  second := 0
  micro := 0
  ahead := some 0

/-- The last microsecond of the third of January of the year 2025 in universal time, as a clock
shows it nine hours ahead. -/
def sampleClock : Reading where
  date := ⟨2025, 1, 4, by decide⟩
  hour := 8
  minute := 59
  second := 59
  micro := 999999
  ahead := some 32400000000

/-- An expiry tag with this payload at the start of a line comment. -/
def sampleTag (payload : Text) : Tag where
  kind := .expiry
  payload := payload
  raw := "@AI:EXPIRY ".toList ++ payload
  line := 0
  start := 2
  stop := 13 + payload.length

/-- A single day of grace, as the settings give it, puts off the last day of the calendar beyond it,
and so do more days than there are in the calendar with any day. -/
theorem findings_eq_error_of_lastDay :
    Settings.clampDays (.text ['1']) 0 = .ok 1 ∧
      findings { graceDays := 1 } newYear.instant [sampleTag "9999-12-31".toList] =
        .error .outOfRange ∧
      Settings.clampDays (.integer 1000000000) 0 = .ok 1000000000 ∧
      findings { graceDays := 1000000000 } newYear.instant [sampleTag "2020-01-01 KST".toList] =
        .error .outOfRange := by
  refine ⟨?_, ?_, ?_, ?_⟩ <;> decide +kernel

end TagLint.Expiry
