import TagLint.Proofs.Expiry.Payload
import TagLint.Proofs.Text.LetterCase
/-!
Which expiry payloads are accepted, as a grammar of their words. The first word is a day in digits,
and the second, if there is one, is a zone in any letter case. `accepts_iff_inForm` says that these
payloads are accepted and that besides them only those are whose zone is KST with a character for
its S that is no ASCII letter.
-/

namespace TagLint.Expiry

open Calendar

/-- A text of so many digits. -/
structure IsNumeral (width : Nat) (t : Text) : Prop where
  length : t.length = width
  digits : ∀ c ∈ t, c.isDigit = true

/-- Four digits, two digits and two digits with hyphens between them, which name a day of the
calendar that is not of the first hundred years. -/
def IsDayText (t : Text) : Prop :=
  ∃ y m d, t = y ++ '-' :: (m ++ '-' :: d) ∧ IsNumeral 4 y ∧ IsNumeral 2 m ∧ IsNumeral 2 d ∧
    Gregorian.HasDay (Text.value y) (Text.value m) (Text.value d) ∧ 100 ≤ Text.value y

/-- The payload is a day and at most one word behind it, which is a known zone in any case of its
ASCII letters; without that word the zone is universal time. -/
structure InForm (payload date zone : Text) : Prop where
  words : Text.words payload = [date] ∧ zone = "UTC".toList ∨
    ∃ z, Text.words payload = [date, z] ∧ z.map Char.toUpper = zone
  date : IsDayText date
  zone : zone = "UTC".toList ∨ zone = "KST".toList

/-- The letters of KST in any case, but the S, or the S and the T, written as one of the characters
outside ASCII that become these letters in upper case. -/
inductive IsStrayZone : Text → Prop
  | long {k t : Char} : k.toUpper = 'K' → t.toUpper = 'T' → IsStrayZone [k, Text.longS, t]
  | joined {k st : Char} : k.toUpper = 'K' → st = Text.longSTLigature ∨ st = Text.stLigature →
      IsStrayZone [k, st]

/-- The payload is a day and a stray zone, which counts as KST. -/
structure InStrayForm (payload date zone : Text) : Prop where
  words : ∃ z, Text.words payload = [date, z] ∧ IsStrayZone z
  date : IsDayText date
  zone : zone = "KST".toList

/-- The payload is accepted, with this word for its date and this zone. -/
def Accepts (payload date zone : Text) : Prop :=
  ∃ x, ofPayload? payload = some x ∧ x.dateText = date ∧ x.zone = zone

variable {payload date zone : Text}

/-! ## Days in digits -/

theorem eq_ofNatPadded_iff {t : Text} (ht : t ≠ []) (n : Nat) :
    t = Text.ofNatPadded t.length n ↔ (∀ c ∈ t, c.isDigit = true) ∧ Text.value t = n := by
  rw [← digits?_eq_some_iff ht, digits?, Text.foldl_eq_value, Option.ite_none_right_eq_some,
    List.all_eq_true, Option.some.injEq]

theorem IsNumeral.eq_ofNatPadded {width : Nat} {t : Text} (h : IsNumeral width t)
    (hwidth : 1 ≤ width) : t = Text.ofNatPadded width (Text.value t) := by
  have ht : t ≠ [] := List.ne_nil_of_length_pos (h.length ▸ hwidth)
  have heq := (eq_ofNatPadded_iff ht _).mpr ⟨h.digits, rfl⟩
  rwa [h.length] at heq

theorem isNumeral_ofNatPadded {width n : Nat} (hwidth : 1 ≤ width) (hn : n < 10 ^ width) :
    IsNumeral width (Text.ofNatPadded width n) ∧ Text.value (Text.ofNatPadded width n) = n := by
  have hlen := Text.length_ofNatPadded hwidth hn
  have hne : Text.ofNatPadded width n ≠ [] := List.ne_nil_of_length_pos (by omega)
  obtain ⟨hdigits, hvalue⟩ := (eq_ofNatPadded_iff hne n).mp (by rw [hlen])
  exact ⟨⟨hlen, hdigits⟩, hvalue⟩

/-- A day in digits is the written form of a day of the calendar. -/
theorem isDayText_iff {t : Text} :
    IsDayText t ↔ ∃ year month day,
      t = writtenDate year month day ∧ Gregorian.HasDay year month day ∧ 100 ≤ year := by
  constructor
  · rintro ⟨y, m, d, rfl, hy, hm, hd, hday, hyear⟩
    refine ⟨_, _, _, ?_, hday, hyear⟩
    rw [writtenDate, ← hy.eq_ofNatPadded (by omega), ← hm.eq_ofNatPadded (by omega),
      ← hd.eq_ofNatPadded (by omega)]
  · rintro ⟨year, month, day, rfl, hday, hyear⟩
    have hlong := Gregorian.getD_monthLengths_le year (month - 1)
    have ⟨⟨_, hlast⟩, ⟨_, hmonth⟩, _, hdays⟩ := hday
    obtain ⟨hy, hyval⟩ := @isNumeral_ofNatPadded 4 year (by omega) (by omega)
    obtain ⟨hm, hmval⟩ := @isNumeral_ofNatPadded 2 month (by omega) (by omega)
    obtain ⟨hd, hdval⟩ := @isNumeral_ofNatPadded 2 day (by omega) (by omega)
    refine ⟨_, _, _, rfl, hy, hm, hd, ?_, ?_⟩
    · rw [hyval, hmval, hdval]
      exact hday
    · rw [hyval]
      exact hyear

/-! ## Zones in any letter case -/

theorem exists_mem_zones_iff :
    (∃ hours, (zone, hours) ∈ zones) ↔ zone = "UTC".toList ∨ zone = "KST".toList := by
  simp [zones, exists_or]

theorem upper_eq_utc_iff (z : Text) :
    Text.upper z = "UTC".toList ↔ z.map Char.toUpper = "UTC".toList :=
  Text.upper_eq_iff_of_plain (by decide) z

theorem upper_eq_kst_iff (z : Text) :
    Text.upper z = "KST".toList ↔ z.map Char.toUpper = "KST".toList ∨ IsStrayZone z := by
  have hk := Text.upper_eq_cons_iff_of_plain (d := 'K') (by decide) z "ST".toList
  have hs := fun rest => Text.upper_eq_s_cons_iff rest ['T']
  have ht := fun rest => Text.upper_eq_iff_of_plain (w := ['T']) (by decide) rest
  constructor
  · intro h
    obtain ⟨k, zs, rfl, hkup, hst⟩ := hk.mp h
    obtain ⟨s, zt, rfl, ⟨hsup | rfl, hzt⟩ | ⟨-, hzt⟩ | ⟨hst, hzt⟩⟩ := (hs zs).mp hst
    · refine Or.inl ?_
      rw [List.map_cons, List.map_cons, hkup, hsup, (ht zt).mp hzt]
      rfl
    · obtain ⟨t, rest, rfl, htup, hrest⟩ := List.map_eq_cons_iff.mp ((ht zt).mp hzt)
      rw [List.map_eq_nil_iff.mp hrest]
      exact Or.inr (.long hkup htup)
    -- sharp s stands for two letters S, and the word has but one
    · cases hzt
    · rw [Text.upper_eq_nil_iff.mp (List.cons.inj hzt).2]
      exact Or.inr (.joined hkup hst)
  · rintro (h | ⟨hkup, htup⟩ | ⟨hkup, hst⟩)
    · exact Text.upper_eq_of_map_toUpper (by decide) h
    · have hrest := (ht [_]).mpr (congrArg (fun c => [c]) htup)
      exact hk.mpr ⟨_, _, rfl, hkup, (hs _).mpr ⟨_, _, rfl, Or.inl ⟨Or.inr rfl, hrest⟩⟩⟩
    · exact hk.mpr ⟨_, _, rfl, hkup, (hs _).mpr ⟨_, [], rfl, Or.inr (Or.inr ⟨hst, rfl⟩)⟩⟩

/-- A stray zone is no known zone in any case of its ASCII letters. -/
theorem IsStrayZone.map_toUpper_ne {z : Text} (h : IsStrayZone z) :
    ¬ (z.map Char.toUpper = "UTC".toList ∨ z.map Char.toUpper = "KST".toList) := by
  have hlong : Text.longS.toUpper ≠ 'T' ∧ Text.longS.toUpper ≠ 'S' := by decide
  intro hz
  cases h with
  | long hk ht => simp [hlong] at hz
  | joined hk hst => simp at hz

/-! ## Payloads -/

theorem accepts_iff :
    Accepts payload date zone ↔
      IsDayText date ∧ (zone = "UTC".toList ∨ zone = "KST".toList) ∧
        (Text.words payload = [date] ∧ zone = "UTC".toList ∨
          ∃ z, Text.words payload = [date, z] ∧ zone = Text.upper z) := by
  unfold Accepts
  simp only [ofPayload?_eq_some_iff, isDayText_iff, ← exists_mem_zones_iff]
  constructor
  · rintro ⟨x, ⟨e, he, rfl⟩, rfl, rfl⟩
    exact ⟨⟨_, _, _, he.dateText, he.hasDay, he.year⟩, ⟨_, he.zone⟩, he.words⟩
  · rintro ⟨⟨year, month, day, hdate, hday, hyear⟩, ⟨hours, hzone⟩, hwords⟩
    have hsets : Sets payload ⟨date, year, month, day, zone, hours⟩ :=
      ⟨⟨hzone, hdate, hday, hyear⟩, hwords⟩
    exact ⟨_, ⟨_, hsets, rfl⟩, rfl, rfl⟩

/-- Accepted are the payloads of the one form and of the other. -/
theorem accepts_iff_or :
    Accepts payload date zone ↔ InForm payload date zone ∨ InStrayForm payload date zone := by
  rw [accepts_iff]
  constructor
  · rintro ⟨hdate, hzone, hwords | ⟨z, hwords, hz⟩⟩
    · exact Or.inl ⟨Or.inl hwords, hdate, hzone⟩
    · rcases hzone with rfl | rfl
      · exact Or.inl ⟨Or.inr ⟨z, hwords, (upper_eq_utc_iff z).mp hz.symm⟩, hdate, Or.inl rfl⟩
      · rcases (upper_eq_kst_iff z).mp hz.symm with hz | hz
        · exact Or.inl ⟨Or.inr ⟨z, hwords, hz⟩, hdate, Or.inr rfl⟩
        · exact Or.inr ⟨⟨z, hwords, hz⟩, hdate, rfl⟩
  · rintro (h | h)
    · refine ⟨h.date, h.zone, ?_⟩
      rcases h.words with hwords | ⟨z, hwords, hz⟩
      · exact Or.inl hwords
      · have hcapitals : zone ⊆ Text.capitals := by
          rcases h.zone with rfl | rfl <;> decide
        exact Or.inr ⟨z, hwords, (Text.upper_eq_of_map_toUpper hcapitals hz).symm⟩
    · obtain ⟨z, hwords, hz⟩ := h.words
      obtain rfl := h.zone
      exact ⟨h.date, Or.inr rfl, Or.inr ⟨z, hwords, ((upper_eq_kst_iff z).mpr (Or.inr hz)).symm⟩⟩

theorem InStrayForm.not_inForm {date' zone' : Text} (h : InStrayForm payload date zone) :
    ¬ InForm payload date' zone' := by
  intro hform
  obtain ⟨z, hwords, hz⟩ := h.words
  rcases hform.words with ⟨hone, -⟩ | ⟨z', htwo, hz'⟩
  · rw [hwords] at hone
    cases hone
  · rw [hwords] at htwo
    cases htwo
    exact hz.map_toUpper_ne (hz' ▸ hform.zone)

/-- A payload is accepted, with its first word as the date and the zone in capital letters, if it
has the form; the only others accepted are those in the stray form, and they do not have it. -/
theorem accepts_iff_inForm (payload : Text) :
    (∀ date zone, Accepts payload date zone ↔
      InForm payload date zone ∨ InStrayForm payload date zone) ∧
    (((∃ x, ofPayload? payload = some x) ↔ ∃ date zone, InForm payload date zone) ↔
      ¬ ∃ date zone, InStrayForm payload date zone) := by
  refine ⟨fun _ _ => accepts_iff_or, ?_⟩
  have hsome : (∃ x, ofPayload? payload = some x) ↔ ∃ date zone, Accepts payload date zone := by
    constructor
    · rintro ⟨x, hx⟩
      exact ⟨_, _, x, hx, rfl, rfl⟩
    · rintro ⟨_, _, x, hx, -⟩
      exact ⟨x, hx⟩
  rw [hsome]
  constructor
  · rintro hform ⟨date, zone, hstray⟩
    obtain ⟨date', zone', h⟩ := hform.mp ⟨date, zone, accepts_iff_or.mpr (Or.inr hstray)⟩
    exact hstray.not_inForm h
  · intro hstray
    refine exists_congr fun date => exists_congr fun zone => accepts_iff_or.trans ?_
    exact or_iff_left fun h => hstray ⟨date, zone, h⟩

/-- A day in Korea, the zone in small letters. -/
def samplePayload : Text := " 2025-02-28\tkst ".toList

theorem inForm_samplePayload :
    InForm samplePayload "2025-02-28".toList "KST".toList where
  words := Or.inr ⟨"kst".toList, by decide, by decide⟩
  date := isDayText_iff.mpr ⟨2025, 2, 28, by decide, (Gregorian.isDate_iff _ _ _).mp (by decide),
    by decide⟩
  zone := Or.inr rfl

theorem accepts_samplePayload :
    Accepts samplePayload "2025-02-28".toList "KST".toList :=
  ((accepts_iff_inForm samplePayload).1 _ _).mpr (Or.inl inForm_samplePayload)

/-- A day with the zone KST, whose S is a long s. -/
def strayPayload : Text := "2025-01-01 K".toList ++ [Text.longS, 'T']

/-- The long s counts as an S of the zone, though the zone is not KST in any case of its letters. -/
theorem accepts_strayPayload :
    Text.words strayPayload = ["2025-01-01".toList, ['K', Text.longS, 'T']] ∧
      Accepts strayPayload "2025-01-01".toList "KST".toList ∧
      ¬ ∃ date zone, InForm strayPayload date zone := by
  have hwords : Text.words strayPayload = ["2025-01-01".toList, ['K', Text.longS, 'T']] := by
    decide
  have hread : ∃ x, ofPayload? strayPayload = some x ∧ x.dateText = "2025-01-01".toList ∧
      x.zone = "KST".toList := ⟨_, rfl, by decide, by decide⟩
  refine ⟨hwords, hread, ?_⟩
  rintro ⟨date, zone, h⟩
  have hstray : IsStrayZone ['K', Text.longS, 'T'] := .long (by decide) (by decide)
  rcases h.words with ⟨hone, -⟩ | ⟨z, htwo, hz⟩
  · rw [hwords] at hone
    cases hone
  · rw [hwords] at htwo
    cases htwo
    exact hstray.map_toUpper_ne (hz ▸ h.zone)

end TagLint.Expiry
