import TagLint.Proofs.Expiry.Deadline
/-!
What is said about expiry tags, by the calendar. `Verdict` decides on each tag by itself, from the
written form of its payload, the count of the days and the point in time that the clock shows.
`findings_eq_verdicts` says that the findings are the verdicts on the tags, one after the other, as
long as no deadline leaves the calendar.
-/

namespace TagLint.Expiry

open Calendar

/-- What there is to say about a tag at a point in time, in microseconds. Nothing about a tag of
another kind or with a template that has not been filled in; about a payload that sets no term, a
warning if such are wanted; and about a term, a warning if it is over. A warning stands where the
tag does. -/
inductive Verdict (policy : Policy) (now : Int) (tag : Tag) : Option Finding → Prop
  | skipped (h : tag.kind ≠ .expiry ∨ placeholder <:+: tag.payload) :
    Verdict policy now tag none
  | malformed (hkind : tag.kind = .expiry) (hfilled : ¬ placeholder <:+: tag.payload)
    (hnone : ∀ e, ¬ Sets tag.payload e) :
    Verdict policy now tag
      (if policy.warnOnInvalid then some {
        line := tag.line
        start := tag.start
        stop := tag.stop
        message := "@AI:EXPIRY format invalid. Use YYYY-MM-DD [TZ]".toList
        kind := .expiry }
      else none)
  | dated (e : Term) (he : IsDue tag e) :
    Verdict policy now tag
      (if e.deadline policy.graceDays < now then some {
        line := tag.line
        start := tag.start
        stop := tag.stop
        message := "@AI:EXPIRY expired on ".toList ++ e.dateText ++ [' '] ++ e.zone
        kind := .expiry }
      else none)

variable {policy : Policy} {tag : Tag}

/-! ## One verdict for each tag -/

theorem Term.deadline_eq (e : Term) (graceDays : Int) :
    e.deadline graceDays = e.deadline 0 + max graceDays 0 * 86400 * 1000000 := by
  unfold Term.deadline
  omega

theorem Sets.unique {payload : Text} {e e' : Term} (h : Sets payload e) (h' : Sets payload e') :
    e.dateText = e'.dateText ∧ e.zone = e'.zone ∧
      ∀ graceDays, e.deadline graceDays = e'.deadline graceDays := by
  have hread := (ofPayload?_eq_some_iff payload e.expiry).mpr ⟨e, h, rfl⟩
  have hread' := (ofPayload?_eq_some_iff payload e'.expiry).mpr ⟨e', h', rfl⟩
  have hsame : e.expiry = e'.expiry := Option.some.inj (hread.symm.trans hread')
  unfold Term.expiry at hsame
  obtain ⟨hdeadline, hzone, hdate⟩ := Expiry.mk.inj hsame
  refine ⟨hdate, hzone, fun graceDays => ?_⟩
  rw [e.deadline_eq, e'.deadline_eq, Instant.mk.inj hdeadline]

theorem Verdict.unique {now : Int} {o o' : Option Finding} (h : Verdict policy now tag o)
    (h' : Verdict policy now tag o') : o = o' := by
  cases h with
  | skipped h =>
    cases h' with
    | skipped => rfl
    | malformed hkind hfilled => exact absurd h (not_or.mpr ⟨not_not.mpr hkind, hfilled⟩)
    | dated e he => exact absurd h (not_or.mpr ⟨not_not.mpr he.kind, he.filled⟩)
  | malformed hkind hfilled hnone =>
    cases h' with
    | skipped h' => exact absurd h' (not_or.mpr ⟨not_not.mpr hkind, hfilled⟩)
    | malformed => rfl
    | dated e he => exact absurd he.sets (hnone e)
  | dated e he =>
    cases h' with
    | skipped h' => exact absurd h' (not_or.mpr ⟨not_not.mpr he.kind, he.filled⟩)
    | malformed hkind hfilled hnone => exact absurd he.sets (hnone e)
    | dated e' he' =>
      obtain ⟨hdate, hzone, hdeadline⟩ := he.sets.unique he'.sets
      rw [hdate, hzone, hdeadline]

/-! ## The judgement -/

theorem micros_of_addGrace {t s : Instant} {days : Int} (h : addGrace t days = .ok s) :
    s.micros = t.micros + max days 0 * 86400 * 1000000 := by
  unfold addGrace at h
  dsimp only at h
  split at h
  · cases h
    omega
  split at h
  · cases h
  split at h
  · cases h
    unfold Instant.addDays Instant.microsPerDay
    dsimp only
    omega
  · cases h

theorem ofTag_eq_of_kind (hkind : tag.kind = .expiry) (message : Text) :
    Finding.ofTag tag message =
      { line := tag.line, start := tag.start, stop := tag.stop, message, kind := .expiry } := by
  unfold Finding.ofTag
  rw [hkind]

/-- A judgement that is made is the verdict. -/
theorem verdict_of_judge {now : Instant} {o : Option Finding} (h : judge policy now tag = .ok o) :
    Verdict policy now.micros tag o := by
  unfold judge at h
  split at h
  · rename_i hkind
    cases h
    exact .skipped (Or.inl hkind)
  rename_i hkind
  rw [not_not] at hkind
  split at h
  · rename_i hplace
    cases h
    exact .skipped (Or.inr ((Text.isSome_find?_iff _ _).mp hplace))
  rename_i hplace
  rw [Text.isSome_find?_iff] at hplace
  split at h
  · rename_i hpayload
    cases h
    rw [ofTag_eq_of_kind hkind]
    refine .malformed hkind hplace fun e he => ?_
    have hread := (ofPayload?_eq_some_iff tag.payload e.expiry).mpr ⟨e, he, rfl⟩
    rw [hpayload] at hread
    cases hread
  · rename_i x hpayload
    obtain ⟨e, he, rfl⟩ := (ofPayload?_eq_some_iff tag.payload x).mp hpayload
    obtain ⟨deadline, hdeadline, h⟩ := Traverse.bind_eq_ok.mp h
    have hmicros : deadline.micros = e.deadline policy.graceDays := by
      rw [micros_of_addGrace hdeadline, e.deadline_eq]
      rfl
    have hmessage : expiredMessage e.expiry =
        "@AI:EXPIRY expired on ".toList ++ e.dateText ++ [' '] ++ e.zone := rfl
    have hverdict : Verdict policy now.micros tag _ := .dated e ⟨hkind, hplace, he⟩
    rw [← hmicros, ← hmessage, ← ofTag_eq_of_kind hkind] at hverdict
    unfold Instant.isAfter at h
    cases h
    simpa only [decide_eq_true_eq] using hverdict

theorem deadline_lt_of_findings_eq_ok {now : Reading} {tags : List Tag} {fs : List Finding}
    (h : findings policy now.instant tags = .ok fs) (henabled : policy.enabled = true) :
    ∀ tag ∈ tags, ∀ e, IsDue tag e →
      e.deadline policy.graceDays < Gregorian.length * 86400 * 1000000 := by
  intro tag htag e he
  rw [Term.deadline_lt_iff he.sets.toIsProper]
  intro hover
  have herror := (findings_eq_error_iff policy now tags .outOfRange).mpr
    ⟨rfl, henabled, tag, htag, e, he, hover⟩
  rw [h] at herror
  cases herror

/-- The findings about expiry tags are the verdicts on the tags, in their order, as long as every
deadline is in the calendar; and they depend on the clock only through the point in time that it
shows. -/
theorem findings_eq_verdicts (now : Reading) {tags : List Tag} (henabled : policy.enabled = true)
    (hcalendar : ∀ tag ∈ tags, ∀ e, IsDue tag e →
      e.deadline policy.graceDays < Gregorian.length * 86400 * 1000000) :
    ∃ found, List.Forall₂ (Verdict policy (Gregorian.micros now)) tags found ∧
      (∀ other, List.Forall₂ (Verdict policy (Gregorian.micros now)) tags other → other = found) ∧
      findings policy now.instant tags = .ok (found.filterMap id) ∧
      ∀ now' : Reading, Gregorian.micros now' = Gregorian.micros now →
        findings policy now'.instant tags = .ok (found.filterMap id) := by
  have hsucceeds : ∃ fs, findings policy now.instant tags = .ok fs := by
    cases hfind : findings policy now.instant tags with
    | ok fs => exact ⟨fs, rfl⟩
    | error failure =>
      obtain ⟨-, -, tag, htag, e, he, hover⟩ := (findings_eq_error_iff _ _ _ _).mp hfind
      have hin := (Term.deadline_lt_iff he.sets.toIsProper _).mp (hcalendar tag htag e he)
      exact absurd hover hin
  obtain ⟨fs, hfs⟩ := hsucceeds
  have hsteps := hfs
  unfold findings at hsteps
  rw [if_pos henabled] at hsteps
  obtain ⟨found, hfound, hpure⟩ := Traverse.bind_eq_ok.mp hsteps
  cases hpure
  have hverdicts : List.Forall₂ (Verdict policy (Gregorian.micros now)) tags found := by
    rw [← Gregorian.micros_eq]
    exact ((Traverse.mapM_eq_ok_iff _ _ _).mp hfound).imp fun _ _ h => verdict_of_judge h
  have hunique : Relator.RightUnique (Verdict policy (Gregorian.micros now)) :=
    fun _ _ _ => Verdict.unique
  refine ⟨found, hverdicts, fun other hother => ?_, hfs, fun now' hsame => ?_⟩
  · exact hunique.forall₂ hother hverdicts
  · have hinstant : now'.instant = now.instant := by
      have hmicros : now'.instant.micros = now.instant.micros := by
        rw [Gregorian.micros_eq, Gregorian.micros_eq, hsame]
      exact congrArg Instant.mk hmicros
    rw [hinstant, hfs]

/-- Terms on both sides of that point in time, a template, a day that does not exist, and a tag of
another kind. -/
def sampleTags : List Tag :=
  [sampleTag "2025-01-01 utc".toList, sampleTag "2025-01-02".toList,
    sampleTag "$\x7bDAY\x7d".toList, sampleTag "2025-02-29".toList,
    { sampleTag "2000-01-01".toList with kind := .sync }]

theorem findings_eq_verdicts_sample :
    (∀ tag ∈ sampleTags, ∀ e, IsDue tag e →
      e.deadline 2 < Gregorian.length * 86400 * 1000000) ∧
    ∃ found, List.Forall₂ (Verdict { graceDays := 2 } (Gregorian.micros sampleClock))
        sampleTags found ∧
      findings { graceDays := 2 } sampleClock.instant sampleTags = .ok (found.filterMap id) ∧
      (found.filterMap id).map (·.message) =
        ["@AI:EXPIRY expired on 2025-01-01 UTC".toList,
          "@AI:EXPIRY format invalid. Use YYYY-MM-DD [TZ]".toList] := by
  have hfindings : findings { graceDays := 2 } sampleClock.instant sampleTags =
      .ok [Finding.ofTag (sampleTag "2025-01-01 utc".toList)
          "@AI:EXPIRY expired on 2025-01-01 UTC".toList,
        Finding.ofTag (sampleTag "2025-02-29".toList)
          "@AI:EXPIRY format invalid. Use YYYY-MM-DD [TZ]".toList] := by
    decide +kernel
  have hcalendar := deadline_lt_of_findings_eq_ok hfindings rfl
  obtain ⟨found, hverdicts, -, hfound, -⟩ := findings_eq_verdicts sampleClock rfl hcalendar
  refine ⟨hcalendar, found, hverdicts, hfound, ?_⟩
  rw [hfindings] at hfound
  rw [← Except.ok.inj hfound]
  rfl

end TagLint.Expiry
