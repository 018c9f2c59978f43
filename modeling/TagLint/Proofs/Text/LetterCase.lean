import TagLint.Text.LetterCase
import Mathlib.Data.List.Basic
import Mathlib.Data.Nat.Init
/-!
Which texts come out as a given word of capital letters in upper case. Character by character these
are the letters of the word in either case, and the few characters outside ASCII that stand for one
or more of them. `upper_eq_iff_of_plain` says that for a word without the letters S, I and F there
are no others than the letters themselves.
-/

namespace TagLint.Text

/-- The capital letters of ASCII. -/
def capitals : Text := "ABCDEFGHIJKLMNOPQRSTUVWXYZ".toList

/-- Sharp s. -/
def sharpS : Char := Char.ofNat 0x00DF

/-- The long s. -/
def longS : Char := Char.ofNat 0x017F

/-- The ligature of the long s and t. -/
def longSTLigature : Char := Char.ofNat 0xFB05

/-- The ligature of s and t. -/
def stLigature : Char := Char.ofNat 0xFB06

/-- The characters outside ASCII that are ASCII letters in upper case, with these letters. -/
def foreignCapitals : List (Char × Text) :=
  [(sharpS, "SS".toList), (Char.ofNat 0x0131, "I".toList), (longS, "S".toList),
    (Char.ofNat 0xFB00, "FF".toList), (Char.ofNat 0xFB01, "FI".toList),
    (Char.ofNat 0xFB02, "FL".toList), (Char.ofNat 0xFB03, "FFI".toList),
    (Char.ofNat 0xFB04, "FFL".toList), (longSTLigature, "ST".toList), (stLigature, "ST".toList)]

/-- The capital letters with which none of these foreign forms begins. -/
def plainCapitals : Text :=
  capitals.filter fun d => foreignCapitals.all fun e => e.2.head? != some d

theorem mem_plainCapitals {d : Char} :
    d ∈ plainCapitals ↔ d ∈ capitals ∧ ∀ e ∈ foreignCapitals, e.2.head? ≠ some d := by
  simp only [plainCapitals, List.mem_filter, List.all_eq_true, bne_iff_ne]

/-! ## One character -/

/-- A property of the characters with these codes, checked code by code. -/
theorem forall_of_codes {codes : List Nat} {P : Char → Prop}
    (h : ∀ n ∈ codes, P (Char.ofNat n)) {c : Char} (hc : c.toNat ∈ codes) : P c := by
  have hcode := h c.toNat hc
  rwa [Char.ofNat_toNat] at hcode

theorem upperChar_of_lower {c : Char} (h : 'a' ≤ c ∧ c ≤ 'z') : upperChar c = [c.toUpper] := by
  have hfirst : 97 ≤ c.toNat := h.1
  have hlast : c.toNat ≤ 122 := h.2
  have hcode : c.toNat ∈ List.range' 97 26 := List.mem_range'_1.mpr (by omega)
  exact forall_of_codes (P := fun c => upperChar c = [c.toUpper]) (by decide) hcode

theorem toUpper_of_not_lower {c : Char} (h : ¬ ('a' ≤ c ∧ c ≤ 'z')) : c.toUpper = c :=
  dif_neg h

/-- A character is in upper case what it is in ASCII, or it is one of the foreign ones. -/
theorem upperChar_cases (c : Char) :
    upperChar c = [c.toUpper] ∨ (c, upperChar c) ∈ foreignCapitals := by
  by_cases hlower : 'a' ≤ c ∧ c ≤ 'z'
  · exact Or.inl (upperChar_of_lower hlower)
  have hself : upperChar c = [c] ∨ c.toNat ∈
      [0x00DF, 0x0131, 0x017F, 0xFB00, 0xFB01, 0xFB02, 0xFB03, 0xFB04, 0xFB05, 0xFB06] := by
    unfold upperChar
    rw [if_neg hlower]
    split <;> simp_all
  rcases hself with hself | hcode
  · rw [hself, toUpper_of_not_lower hlower]
    exact Or.inl rfl
  · exact Or.inr
      (forall_of_codes (P := fun c => (c, upperChar c) ∈ foreignCapitals) (by decide) hcode)

theorem upperChar_of_mem_foreignCapitals {c : Char} {p : Text} (h : (c, p) ∈ foreignCapitals) :
    upperChar c = p := by
  have hall : ∀ e ∈ foreignCapitals, upperChar e.1 = e.2 := by decide
  exact hall _ h

theorem upperChar_of_toUpper_mem_capitals {c : Char} (h : c.toUpper ∈ capitals) :
    upperChar c = [c.toUpper] := by
  have hnone : ∀ e ∈ foreignCapitals, e.1.toUpper ∉ capitals := by decide
  exact (upperChar_cases c).resolve_right fun hc => hnone _ hc h

theorem upperChar_ne_nil (c : Char) : upperChar c ≠ [] := by
  have hnone : ∀ e ∈ foreignCapitals, e.2 ≠ [] := by decide
  rcases upperChar_cases c with hc | hc
  · rw [hc]
    exact List.cons_ne_nil _ _
  · exact hnone _ hc

/-! ## Words -/

theorem upper_cons (c : Char) (z : Text) : upper (c :: z) = upperChar c ++ upper z :=
  List.flatMap_cons

theorem upper_eq_nil_iff {z : Text} : upper z = [] ↔ z = [] := by
  constructor
  · intro h
    cases z with
    | nil => rfl
    | cons c z =>
      rw [upper_cons, List.append_eq_nil_iff] at h
      exact absurd h.1 (upperChar_ne_nil c)
  · rintro rfl
    rfl

/-- A text is in upper case a word with this first letter exactly if it begins with the letter in
either case or with a foreign character for the letter and perhaps more of them. -/
theorem upper_eq_cons_iff {d : Char} (hd : d ∈ capitals) (z w : Text) :
    upper z = d :: w ↔ ∃ c rest, z = c :: rest ∧
      (c.toUpper = d ∧ upper rest = w ∨
        ∃ p, (c, d :: p) ∈ foreignCapitals ∧ p ++ upper rest = w) := by
  constructor
  · intro h
    cases z with
    | nil => cases h
    | cons c rest =>
      refine ⟨c, rest, rfl, ?_⟩
      rw [upper_cons] at h
      rcases upperChar_cases c with hc | hc
      · rw [hc, List.singleton_append, List.cons.injEq] at h
        exact Or.inl h
      · rcases List.append_eq_cons_iff.mp h with ⟨hnil, -⟩ | ⟨p, hp, hw⟩
        · exact absurd hnil (upperChar_ne_nil c)
        · rw [hp] at hc
          exact Or.inr ⟨p, hc, hw.symm⟩
  · rintro ⟨c, rest, rfl, ⟨rfl, rfl⟩ | ⟨p, hc, rfl⟩⟩
    · rw [upper_cons, upperChar_of_toUpper_mem_capitals hd, List.singleton_append]
    · rw [upper_cons, upperChar_of_mem_foreignCapitals hc, List.cons_append]

/-- The letters of a word of capital letters in either case are that word in upper case. -/
theorem upper_eq_of_map_toUpper {w : Text} (hw : w ⊆ capitals) {z : Text}
    (h : z.map Char.toUpper = w) : upper z = w := by
  induction w generalizing z with
  | nil => exact upper_eq_nil_iff.mpr (List.map_eq_nil_iff.mp h)
  | cons d w ih =>
    rw [List.cons_subset] at hw
    obtain ⟨c, rest, rfl, hc, hrest⟩ := List.map_eq_cons_iff.mp h
    exact (upper_eq_cons_iff hw.1 _ w).mpr ⟨c, rest, rfl, Or.inl ⟨hc, ih hw.2 hrest⟩⟩

theorem upper_eq_cons_iff_of_plain {d : Char} (hd : d ∈ plainCapitals) (z w : Text) :
    upper z = d :: w ↔ ∃ c rest, z = c :: rest ∧ c.toUpper = d ∧ upper rest = w := by
  obtain ⟨hcapital, hnone⟩ := mem_plainCapitals.mp hd
  rw [upper_eq_cons_iff hcapital]
  constructor
  · rintro ⟨c, rest, rfl, hplain | ⟨p, hc, -⟩⟩
    · exact ⟨c, rest, rfl, hplain⟩
    · exact absurd rfl (hnone _ hc)
  · rintro ⟨c, rest, rfl, hplain⟩
    exact ⟨c, rest, rfl, Or.inl hplain⟩

/-- Only its own letters in either case are such a word in upper case. -/
theorem upper_eq_iff_of_plain {w : Text} (hw : w ⊆ plainCapitals) (z : Text) :
    upper z = w ↔ z.map Char.toUpper = w := by
  induction w generalizing z with
  | nil => rw [upper_eq_nil_iff, List.map_eq_nil_iff]
  | cons d w ih =>
    rw [List.cons_subset] at hw
    rw [upper_eq_cons_iff_of_plain hw.1, List.map_eq_cons_iff]
    simp only [ih hw.2]

/-- Besides the letter in either case an S can come from the long s, from sharp s with another S,
and from the ligatures with t with a T. -/
theorem upper_eq_s_cons_iff (z w : Text) :
    upper z = 'S' :: w ↔ ∃ c rest, z = c :: rest ∧
      ((c.toUpper = 'S' ∨ c = longS) ∧ upper rest = w ∨
        c = sharpS ∧ 'S' :: upper rest = w ∨
          (c = longSTLigature ∨ c = stLigature) ∧ 'T' :: upper rest = w) := by
  have hforeign : ∀ (c : Char) (p : Text), (c, 'S' :: p) ∈ foreignCapitals ↔
      c = sharpS ∧ p = ['S'] ∨ c = longS ∧ p = [] ∨
        (c = longSTLigature ∨ c = stLigature) ∧ p = ['T'] := by
    intro c p
    simp [foreignCapitals]
    tauto
  rw [upper_eq_cons_iff (by decide)]
  refine exists_congr fun c => exists_congr fun rest => and_congr_right fun _ => ?_
  constructor
  · rintro (⟨hc, hw⟩ | ⟨p, hp, hw⟩)
    · exact Or.inl ⟨Or.inl hc, hw⟩
    · rcases (hforeign c p).mp hp with ⟨hc, rfl⟩ | ⟨hc, rfl⟩ | ⟨hc, rfl⟩
      · exact Or.inr (Or.inl ⟨hc, hw⟩)
      · exact Or.inl ⟨Or.inr hc, hw⟩
      · exact Or.inr (Or.inr ⟨hc, hw⟩)
  · rintro (⟨hc | hc, hw⟩ | ⟨hc, hw⟩ | ⟨hc, hw⟩)
    · exact Or.inl ⟨hc, hw⟩
    · exact Or.inr ⟨[], (hforeign c _).mpr (Or.inr (Or.inl ⟨hc, rfl⟩)), hw⟩
    · exact Or.inr ⟨['S'], (hforeign c _).mpr (Or.inl ⟨hc, rfl⟩), hw⟩
    · exact Or.inr ⟨['T'], (hforeign c _).mpr (Or.inr (Or.inr ⟨hc, rfl⟩)), hw⟩

end TagLint.Text
