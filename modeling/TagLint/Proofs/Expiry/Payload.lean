import TagLint.Expiry
import TagLint.Proofs.ByPath
import TagLint.Proofs.Calendar.Gregorian
import TagLint.Proofs.Tag.Key
import TagLint.Proofs.Text.Decimal
import TagLint.Proofs.Text.Pieces
/-!
What an expiry payload says. `Sets` states the written form of a payload: one word for a day of the
calendar, with four digits for its year and two each for month and day, and at most one more word
for a zone. `ofPayload?_eq_some_iff` says that these payloads are read and no others, and that the
end of the day comes out as counted by the calendar.
-/

namespace TagLint.Expiry

open Calendar

/-- What a payload sets: a day, as it is written and in numbers, and a zone with how many hours it
is ahead of universal time. -/
structure Term where
  dateText : Text
  year : Nat
  month : Nat
  day : Nat
  zone : Text
  hours : Int

/-- The written form of a day. -/
def writtenDate (year month day : Nat) : Text :=
  Text.ofNatPadded 4 year ++ '-' :: (Text.ofNatPadded 2 month ++ '-' :: Text.ofNatPadded 2 day)

/-- The zone is known, and the day is one of the calendar, but not of the first hundred years, and
is written with four digits for its year and two each for its month and itself. -/
structure Term.IsProper (e : Term) : Prop where
  zone : (e.zone, e.hours) ∈ zones
  dateText : e.dateText = writtenDate e.year e.month e.day
  hasDay : Gregorian.HasDay e.year e.month e.day
  year : 100 ≤ e.year

/-- The payload consists of the date and the zone of a proper term; the zone may be in any letter
case, and without one it is universal time. -/
structure Sets (payload : Text) (e : Term) : Prop extends e.IsProper where
  words : Text.words payload = [e.dateText] ∧ e.zone = "UTC".toList ∨
    ∃ z, Text.words payload = [e.dateText, z] ∧ e.zone = Text.upper z

/-- The last millisecond of the day in the zone, put off by the days of grace if they are positive,
in microseconds. -/
def Term.deadline (e : Term) (graceDays : Int) : Int :=
  ((Gregorian.dayNumber e.year e.month e.day : Int) + 1) * 86400 * 1000000 - 1000 -
    e.hours * 3600 * 1000000 + max graceDays 0 * 86400 * 1000000

/-! ## Numerals -/

theorem digits?_append_singleton (t : Text) (c : Char) (n : Nat) :
    digits? (t ++ [c]) = some n ↔
      ∃ m, digits? t = some m ∧ c.isDigit = true ∧ n = m * 10 + (c.toNat - 48) := by
  unfold digits?
  simp only [List.all_append, List.foldl_append, List.all_cons, List.all_nil, Bool.and_true,
    List.foldl_cons, List.foldl_nil, Bool.and_eq_true, Option.ite_none_right_eq_some,
    Option.some.injEq]
  constructor
  · rintro ⟨⟨ht, hc⟩, hn⟩
    exact ⟨_, ⟨ht, rfl⟩, hc, hn.symm⟩
  · rintro ⟨m, ⟨ht, rfl⟩, hc, hn⟩
    exact ⟨⟨ht, hc⟩, hn.symm⟩

theorem digits?_singleton (c : Char) (n : Nat) :
    digits? [c] = some n ↔ [c] = Text.ofNatPadded 1 n := by
  have happend := digits?_append_singleton [] c n
  rw [List.nil_append] at happend
  rw [happend]
  have hdigit := @Text.eq_digitChar_iff c n
  by_cases hn : n < 10
  · rw [Text.ofNatPadded_of_lt hn, List.singleton_inj]
    constructor
    · rintro ⟨m, hm, hc, hval⟩
      obtain rfl : 0 = m := Option.some.inj hm
      exact (hdigit.mpr ⟨hc, by omega⟩).2
    · intro hc
      obtain ⟨hisDigit, hval⟩ := hdigit.mp ⟨hn, hc⟩
      exact ⟨0, rfl, hisDigit, by omega⟩
  · have hlong := Text.length_ofNatPadded_one_of_le (Nat.le_of_not_lt hn)
    constructor
    · rintro ⟨m, hm, hc, hval⟩
      obtain rfl : 0 = m := Option.some.inj hm
      have hrange := (Text.isDigit_iff c).mp hc
      omega
    · intro hc
      rw [← hc, List.length_singleton] at hlong
      omega

/-- Digits have the value whose numeral of that width they are. -/
theorem digits?_eq_some_iff {t : Text} (ht : t ≠ []) (n : Nat) :
    digits? t = some n ↔ t = Text.ofNatPadded t.length n := by
  induction t using List.reverseRecOn generalizing n with
  | nil => exact absurd rfl ht
  | append_singleton t c ih =>
    by_cases hempty : t = []
    · subst hempty
      exact digits?_singleton c n
    have hwidth : 1 ≤ t.length := List.length_pos_iff.mpr hempty
    have hdigit := @Text.eq_digitChar_iff c (n % 10)
    rw [digits?_append_singleton, List.length_append, List.length_singleton,
      Text.ofNatPadded_succ hwidth, List.append_singleton_inj, ← ih hempty]
    constructor
    · rintro ⟨m, hm, hc, hval⟩
      have hrange := (Text.isDigit_iff c).mp hc
      have hrest : n / 10 = m := by omega
      exact ⟨by rw [hrest, hm], (hdigit.mpr ⟨hc, by omega⟩).2⟩
    · rintro ⟨hm, hc⟩
      obtain ⟨hisDigit, hval⟩ := hdigit.mp ⟨Nat.mod_lt n (by omega), hc⟩
      exact ⟨n / 10, hm, hisDigit, by omega⟩

/-! ## Days -/

theorem withoutFinalBreak_of_mem_words {payload w : Text} (h : w ∈ Text.words payload) :
    Tag.withoutFinalBreak w = w :=
  Tag.withoutFinalBreak_of_not_isBlank fun c hc =>
    Text.not_isBlank_of_mem_words h c (List.mem_of_getLast? hc)

/-- A word is read as a day exactly when it is the written form of that day, and the day is not of
the first hundred years. -/
theorem date?_eq_some_iff {t : Text} (ht : Tag.withoutFinalBreak t = t) (d : Date) :
    date? t = some d ↔ t = writtenDate d.year d.month d.day ∧ 100 ≤ d.year := by
  unfold date? writtenDate
  rw [ht]
  constructor
  · intro h
    split at h
    · rename_i y1 y2 y3 y4 m1 m2 d1 d2
      obtain ⟨year, hyear, h⟩ := Option.bind_eq_some_iff.mp h
      obtain ⟨month, hmonth, h⟩ := Option.bind_eq_some_iff.mp h
      obtain ⟨day, hday, h⟩ := Option.bind_eq_some_iff.mp h
      rw [digits?_eq_some_iff (List.cons_ne_nil _ _)] at hyear hmonth hday
      split at h
      · cases h
      · rename_i hfirst
        unfold Date.ofParts? at h
        split at h
        · cases h
          refine ⟨?_, Nat.le_of_not_lt hfirst⟩
          show [y1, y2, y3, y4] ++ '-' :: ([m1, m2] ++ '-' :: [d1, d2]) = _
          rw [hyear, hmonth, hday]
          rfl
        · cases h
    · cases h
  · rintro ⟨rfl, hfirst⟩
    obtain ⟨⟨-, hlast⟩, ⟨-, hmonth⟩, -, hday⟩ := (Gregorian.isDate_iff _ _ _).mp d.isDate
    have hlong := Gregorian.getD_monthLengths_le d.year (d.month - 1)
    obtain ⟨y1, y2, y3, y4, hy⟩ := Text.exists_ofNatPadded_four (n := d.year) (by omega)
    obtain ⟨m1, m2, hm⟩ := Text.exists_ofNatPadded_two (n := d.month) (by omega)
    obtain ⟨d1, d2, hd⟩ := Text.exists_ofNatPadded_two (n := d.day) (by omega)
    have hyear := (digits?_eq_some_iff (List.cons_ne_nil y1 _) d.year).mpr hy.symm
    have hmonth := (digits?_eq_some_iff (List.cons_ne_nil m1 _) d.month).mpr hm.symm
    have hday := (digits?_eq_some_iff (List.cons_ne_nil d1 _) d.day).mpr hd.symm
    rw [hy, hm, hd]
    show (digits? [y1, y2, y3, y4] >>= fun year => digits? [m1, m2] >>= fun month =>
      digits? [d1, d2] >>= fun day =>
        if year < firstYear then none else Date.ofParts? year month day) = some d
    rw [hyear, hmonth, hday]
    show (if d.year < firstYear then none else Date.ofParts? d.year d.month d.day) = some d
    rw [if_neg (show ¬ d.year < firstYear from Nat.not_lt.mpr hfirst)]
    unfold Date.ofParts?
    rw [dif_pos d.isDate]

/-! ## Payloads -/

theorem lookup_zones_eq_some_iff (zone : Text) (hours : Int) :
    zones.lookup zone = some hours ↔ (zone, hours) ∈ zones := by
  constructor
  · exact ByPath.mem_of_find?
  · intro h
    rcases List.mem_cons.mp h with h | h
    · cases h
      rfl
    · cases List.mem_singleton.mp h
      rfl

/-- The end of a day as the calendar counts it. -/
theorem endOfDay_eq (d : Date) (hours : Int) (dateText zone : Text) :
    endOfDay d hours =
      ⟨Term.deadline
        { dateText, year := d.year, month := d.month, day := d.day, zone, hours } 0⟩ := by
  unfold endOfDay Instant.ofClock Term.deadline Instant.microsPerDay Instant.microsPerMinute
  rw [Gregorian.dayNumber_eq]
  rw [Instant.mk.injEq]
  push_cast
  omega

theorem make?_eq_some_iff {dateText zone : Text} (x : Expiry) :
    make? dateText zone = some x ↔
      ∃ d hours, date? dateText = some d ∧ (zone, hours) ∈ zones ∧
        x = { expiresAt := endOfDay d hours, zone, dateText } := by
  unfold make? instant?
  rw [Option.map_eq_some_iff]
  constructor
  · rintro ⟨t, ht, rfl⟩
    obtain ⟨d, hd, ht⟩ := Option.bind_eq_some_iff.mp ht
    obtain ⟨hours, hhours, ht⟩ := Option.bind_eq_some_iff.mp ht
    cases ht
    exact ⟨d, hours, hd, (lookup_zones_eq_some_iff _ _).mp hhours, rfl⟩
  · rintro ⟨d, hours, hd, hhours, rfl⟩
    rw [hd, (lookup_zones_eq_some_iff _ _).mpr hhours]
    exact ⟨endOfDay d hours, rfl, rfl⟩

/-- What is read from a payload that sets this. -/
def Term.expiry (e : Term) : Expiry where
  expiresAt := ⟨e.deadline 0⟩
  zone := e.zone
  dateText := e.dateText

/-- A word of a payload and a zone are read exactly as the proper term whose date and zone they
are. -/
theorem make?_eq_some_iff_term {payload dateText : Text} (ht : dateText ∈ Text.words payload)
    (zone : Text) (x : Expiry) :
    make? dateText zone = some x ↔
      ∃ e : Term, e.IsProper ∧ e.dateText = dateText ∧ e.zone = zone ∧ x = e.expiry := by
  have hdate := date?_eq_some_iff (withoutFinalBreak_of_mem_words ht)
  rw [make?_eq_some_iff]
  constructor
  · rintro ⟨d, hours, hd, hzone, rfl⟩
    obtain ⟨hwritten, hfirst⟩ := (hdate d).mp hd
    have hday := (Gregorian.isDate_iff _ _ _).mp d.isDate
    refine ⟨⟨dateText, d.year, d.month, d.day, zone, hours⟩, ⟨hzone, hwritten, hday, hfirst⟩,
      rfl, rfl, ?_⟩
    unfold Term.expiry
    rw [← endOfDay_eq d hours dateText zone]
  · rintro ⟨e, he, rfl, rfl, rfl⟩
    have hd := (Gregorian.isDate_iff _ _ _).mpr he.hasDay
    refine ⟨⟨e.year, e.month, e.day, hd⟩, e.hours, ?_, he.zone, ?_⟩
    · exact (hdate _).mpr ⟨he.dateText, he.year⟩
    · unfold Term.expiry
      rw [endOfDay_eq ⟨e.year, e.month, e.day, hd⟩ e.hours e.dateText e.zone]

/-- A payload is read exactly if it sets a term, and then as that term. -/
theorem ofPayload?_eq_some_iff (payload : Text) (x : Expiry) :
    ofPayload? payload = some x ↔ ∃ e, Sets payload e ∧ x = e.expiry := by
  unfold ofPayload?
  split
  · rename_i t hwords
    have ht : t ∈ Text.words payload := by simp [hwords]
    rw [make?_eq_some_iff_term ht]
    constructor
    · rintro ⟨e, he, rfl, hz, rfl⟩
      exact ⟨e, ⟨he, Or.inl ⟨hwords, hz⟩⟩, rfl⟩
    · rintro ⟨e, he, rfl⟩
      rcases he.words with ⟨hw, hz⟩ | ⟨z, hw, hz⟩ <;> rw [hwords] at hw <;> cases hw
      exact ⟨e, he.toIsProper, rfl, hz, rfl⟩
  · rename_i t z hwords
    have ht : t ∈ Text.words payload := by simp [hwords]
    rw [make?_eq_some_iff_term ht]
    constructor
    · rintro ⟨e, he, rfl, hz, rfl⟩
      exact ⟨e, ⟨he, Or.inr ⟨z, hwords, hz⟩⟩, rfl⟩
    · rintro ⟨e, he, rfl⟩
      rcases he.words with ⟨hw, hz⟩ | ⟨z', hw, hz⟩ <;> rw [hwords] at hw <;> cases hw
      exact ⟨e, he.toIsProper, rfl, hz, rfl⟩
  · rename_i hnone hntwo
    constructor
    · intro h
      cases h
    · rintro ⟨e, he, -⟩
      rcases he.words with ⟨hw, -⟩ | ⟨z, hw, -⟩
      · exact absurd hw (hnone _)
      · exact absurd hw (hntwo _ _)

end TagLint.Expiry
