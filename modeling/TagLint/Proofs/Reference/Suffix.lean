import TagLint.Reference.Basic
import Mathlib.Data.List.TakeWhile
/-!
The line suffixes of tokens. A suffix that means lines is written as a line letter and a numeral,
and perhaps a hyphen and a second numeral, with or without a letter of its own. It holds no colon,
so the last colon of a token is the only place where one can begin, and a token means lines in at
most one way. Reading it fails exactly when one of its numerals is too long.
-/

namespace TagLint.Reference

/-! ## Cutting at the last place of a character -/

theorem findLast?_singleton_eq_none_iff (c : Char) (t : Text) :
    Text.findLast? [c] t = none ↔ c ∉ t := by
  induction t with
  | nil => simp [Text.findLast?]
  | cons d t ih =>
    rw [Text.findLast?]
    cases h : Text.findLast? [c] t with
    | none =>
      have hc := ih.mp h
      by_cases hd : c = d <;> simp [hc, hd]
    | some i =>
      have hc : c ∈ t := by
        by_contra hc
        rw [ih.mpr hc] at h
        cases h
      simp [hc]

theorem findLast?_singleton_append {c : Char} {s : Text} (hs : c ∉ s) (p : Text) :
    Text.findLast? [c] (p ++ c :: s) = some p.length := by
  induction p with
  | nil =>
    rw [List.nil_append, Text.findLast?, (findLast?_singleton_eq_none_iff c s).mpr hs]
    simp
  | cons d p ih =>
    rw [List.cons_append, Text.findLast?, ih]
    rfl

theorem exists_append_of_mem {c : Char} {t : Text} (h : c ∈ t) :
    ∃ p s, t = p ++ c :: s ∧ c ∉ s := by
  obtain ⟨s, p, ht, hs⟩ := List.eq_append_cons_of_mem (List.mem_reverse.mpr h)
  refine ⟨p.reverse, s.reverse, ?_, by simpa using hs⟩
  rw [← List.reverse_reverse t, ht]
  simp

theorem cutAtLast?_eq_none_iff (c : Char) (t : Text) : cutAtLast? c t = none ↔ c ∉ t := by
  unfold cutAtLast?
  rw [Option.map_eq_none_iff, findLast?_singleton_eq_none_iff]

theorem cutAtLast?_eq_some_iff {c : Char} {t path suffix : Text} :
    cutAtLast? c t = some (path, suffix) ↔ t = path ++ c :: suffix ∧ c ∉ suffix := by
  have hcut : ∀ p s : Text, c ∉ s → cutAtLast? c (p ++ c :: s) = some (p, s) := by
    intro p s hs
    unfold cutAtLast?
    rw [findLast?_singleton_append hs]
    simp
  constructor
  · intro h
    have hc : c ∈ t := by
      by_contra hc
      rw [(cutAtLast?_eq_none_iff c t).mpr hc] at h
      cases h
    obtain ⟨p, s, rfl, hs⟩ := exists_append_of_mem hc
    rw [hcut p s hs] at h
    cases h
    exact ⟨rfl, hs⟩
  · rintro ⟨rfl, hs⟩
    exact hcut path suffix hs

/-! ## Line suffixes -/

/-- How a suffix that means lines is written, less its colon, with its numerals. -/
inductive LineSuffix : Text → Text → Option Text → Prop
  /-- A line letter and a numeral. -/
  | single {c : Char} {first : Text} (hc : isLineLetter c = true) (hf : isNumeral first = true) :
    LineSuffix (c :: first) first none
  /-- The same, a hyphen and a second numeral, perhaps after a letter of its own. -/
  | range {c : Char} {first last : Text} {letter : Option Char} (hc : isLineLetter c = true)
      (hf : isNumeral first = true) (hl : isNumeral last = true)
      (hd : ∀ d ∈ letter, isLineLetter d = true) :
    LineSuffix (c :: first ++ '-' :: (letter.toList ++ last)) first (some last)

theorem isNumeral_iff {t : Text} : isNumeral t = true ↔ t ≠ [] ∧ ∀ c ∈ t, c.isDigit = true := by
  simp [isNumeral]

theorem not_isDigit_of_isLineLetter {c : Char} (h : isLineLetter c = true) :
    c.isDigit = false := by
  unfold isLineLetter at h
  rw [Bool.or_eq_true, beq_iff_eq, beq_iff_eq] at h
  rcases h with rfl | rfl <;> decide

theorem dropLineLetter_cons (c : Char) (t : Text) :
    dropLineLetter (c :: t) = if isLineLetter c then t else c :: t := rfl

theorem dropLineLetter_of_isNumeral {t : Text} (h : isNumeral t = true) :
    dropLineLetter t = t := by
  cases t with
  | nil => rfl
  | cons c t =>
    have hc := (isNumeral_iff.mp h).2 c List.mem_cons_self
    rw [dropLineLetter_cons, if_neg]
    intro hl
    rw [not_isDigit_of_isLineLetter hl] at hc
    cases hc

theorem dropLineLetter_append {letter : Option Char} (hd : ∀ d ∈ letter, isLineLetter d = true)
    {t : Text} (h : isNumeral t = true) : dropLineLetter (letter.toList ++ t) = t := by
  cases letter with
  | none => exact dropLineLetter_of_isNumeral h
  | some d =>
    rw [Option.toList_some, List.singleton_append, dropLineLetter_cons, if_pos (hd d rfl)]

/-- Every text is what is left after its line letter, if it has one, is dropped. -/
theorem exists_letter_append (t : Text) :
    ∃ letter : Option Char, (∀ d ∈ letter, isLineLetter d = true) ∧
      t = letter.toList ++ dropLineLetter t := by
  cases t with
  | nil => exact ⟨none, by simp, rfl⟩
  | cons c t =>
    rw [dropLineLetter_cons]
    cases hc : isLineLetter c with
    | true => exact ⟨some c, by simpa using hc, rfl⟩
    | false => exact ⟨none, by simp, rfl⟩

theorem takeWhile_isDigit_append {ds : Text} (h : ∀ c ∈ ds, c.isDigit = true) (r : Text) :
    (ds ++ '-' :: r).takeWhile Char.isDigit = ds ∧
      (ds ++ '-' :: r).dropWhile Char.isDigit = '-' :: r := by
  rw [List.takeWhile_append_of_pos h, List.dropWhile_append_of_pos h, List.takeWhile_cons_of_neg,
    List.dropWhile_cons_of_neg, List.append_nil]
  · exact ⟨rfl, rfl⟩
  · decide
  · decide

theorem lineNumerals?_of_lineSuffix {t first : Text} {last : Option Text}
    (h : LineSuffix t first last) : lineNumerals? t = some (first, last) := by
  cases h with
  | single hc hf =>
    have hd := (isNumeral_iff.mp hf).2
    unfold lineNumerals?
    dsimp only
    rw [List.takeWhile_eq_self_iff.mpr hd, List.dropWhile_eq_nil_iff.mpr hd, hc, hf]
    rfl
  | @range c first last letter hc hf hl hd =>
    obtain ⟨htake, hdrop⟩ :=
      takeWhile_isDigit_append (isNumeral_iff.mp hf).2 (letter.toList ++ last)
    rw [List.cons_append]
    unfold lineNumerals?
    dsimp only
    rw [htake, hdrop, hc, hf, Bool.and_self, if_pos rfl]
    show (if isNumeral (dropLineLetter (letter.toList ++ last))
      then some (first, some (dropLineLetter (letter.toList ++ last))) else none) = _
    rw [dropLineLetter_append hd hl, if_pos hl]

theorem lineSuffix_of_lineNumerals? {t first : Text} {last : Option Text}
    (h : lineNumerals? t = some (first, last)) : LineSuffix t first last := by
  cases t with
  | nil => cases h
  | cons c body =>
    unfold lineNumerals? at h
    dsimp only at h
    split at h
    · rename_i hcf
      rw [Bool.and_eq_true] at hcf
      have hbody := List.takeWhile_append_dropWhile (p := Char.isDigit) (l := body)
      split at h
      · rename_i hdrop
        cases h
        rw [hdrop, List.append_nil] at hbody
        rw [hbody] at hcf ⊢
        exact .single hcf.1 hcf.2
      · rename_i r hdrop
        split at h
        · rename_i hl
          cases h
          obtain ⟨letter, hd, hr⟩ := exists_letter_append r
          have hs := LineSuffix.range hcf.1 hcf.2 hl hd
          rw [← hr, List.cons_append, ← hdrop, hbody] at hs
          exact hs
        · cases h
      · cases h
    · cases h

theorem lineNumerals?_eq_some_iff {t first : Text} {last : Option Text} :
    lineNumerals? t = some (first, last) ↔ LineSuffix t first last :=
  ⟨lineSuffix_of_lineNumerals?, lineNumerals?_of_lineSuffix⟩

/-! ## Tokens -/

/-- Digits, line letters and hyphens make up a line suffix. -/
theorem of_mem_lineSuffix {t first : Text} {last : Option Text} (h : LineSuffix t first last)
    {c : Char} (hc : c ∈ t) : c.isDigit = true ∨ isLineLetter c = true ∨ c = '-' := by
  cases h with
  | single hl hf =>
    rcases List.mem_cons.mp hc with rfl | hc
    · exact Or.inr (Or.inl hl)
    · exact Or.inl ((isNumeral_iff.mp hf).2 c hc)
  | @range d first last letter hl hf hn hd =>
    simp only [List.cons_append, List.mem_cons, List.mem_append, Option.mem_toList] at hc
    rcases hc with rfl | hc | rfl | hc | hc
    · exact Or.inr (Or.inl hl)
    · exact Or.inl ((isNumeral_iff.mp hf).2 c hc)
    · exact Or.inr (Or.inr rfl)
    · exact Or.inr (Or.inl (hd c hc))
    · exact Or.inl ((isNumeral_iff.mp hn).2 c hc)

theorem colon_not_mem_of_lineSuffix {t first : Text} {last : Option Text}
    (h : LineSuffix t first last) : ':' ∉ t := by
  intro hc
  have hclass := of_mem_lineSuffix h hc
  revert hclass
  decide

theorem hash_not_mem_of_lineSuffix {t first : Text} {last : Option Text}
    (h : LineSuffix t first last) : '#' ∉ t := by
  intro hc
  have hclass := of_mem_lineSuffix h hc
  revert hclass
  decide

/-- The lines that two numerals mean, unless one is too long; the first one is read first. -/
def lineRange (first : Text) : Option Text → Except Failure LineRange
  | none => do return { first := ← number first, last := none }
  | some last => do
    let a ← number first
    let b ← number last
    return { first := a, last := some b }

theorem ofLines?_of_lineSuffix {token path suffix first : Text} {last : Option Text}
    (ht : Tag.withoutFinalBreak token = path ++ ':' :: suffix)
    (h : LineSuffix suffix first last) :
    ofLines? token =
      (lineRange first last).map fun range => some { path, place := .lines range } := by
  unfold ofLines?
  rw [cutAtLast?_eq_some_iff.mpr ⟨ht, colon_not_mem_of_lineSuffix h⟩]
  dsimp only
  rw [lineNumerals?_eq_some_iff.mpr h]
  unfold lineRange
  cases last with
  | none =>
    dsimp only
    cases number first <;> rfl
  | some last =>
    dsimp only
    cases number first with
    | error failure => rfl
    | ok a => cases number last <;> rfl

theorem ofLines?_of_no_lineSuffix {token : Text}
    (h : ∀ path suffix first last,
      Tag.withoutFinalBreak token = path ++ ':' :: suffix → ¬ LineSuffix suffix first last) :
    ofLines? token = .ok none := by
  unfold ofLines?
  split
  · rfl
  · rename_i path suffix hcut
    obtain ⟨ht, -⟩ := cutAtLast?_eq_some_iff.mp hcut
    cases hn : lineNumerals? suffix with
    | none => rfl
    | some ns =>
      obtain ⟨first, last⟩ := ns
      exact absurd (lineNumerals?_eq_some_iff.mp hn) (h path suffix first last ht)

/-! ## Numerals that are too long -/

/-- The text ends in a line suffix one of whose numerals has more digits than are read. -/
def HasLongNumeral (t : Text) : Prop :=
  ∃ path suffix first last, t = path ++ ':' :: suffix ∧ LineSuffix suffix first last ∧
    (Failure.digitLimit < first.length ∨ ∃ l, last = some l ∧ Failure.digitLimit < l.length)

theorem number_of_le {digits : Text} (h : digits.length ≤ Failure.digitLimit) :
    ∃ n, number digits = .ok n := by
  unfold number
  rw [if_neg (Nat.not_lt.mpr h)]
  exact ⟨_, rfl⟩

theorem number_of_lt {digits : Text} (h : Failure.digitLimit < digits.length) :
    number digits = .error (.longNumeral digits.length) := by
  unfold number
  rw [if_pos h]

theorem exists_lineRange_eq_ok {first : Text} {last : Option Text}
    (hf : first.length ≤ Failure.digitLimit)
    (hl : ∀ l, last = some l → l.length ≤ Failure.digitLimit) :
    ∃ range, lineRange first last = .ok range := by
  obtain ⟨a, ha⟩ := number_of_le hf
  unfold lineRange
  cases last with
  | none =>
    dsimp only
    rw [ha]
    exact ⟨_, rfl⟩
  | some l =>
    obtain ⟨b, hb⟩ := number_of_le (hl l rfl)
    dsimp only
    rw [ha, hb]
    exact ⟨_, rfl⟩

theorem lineRange_eq_error {first : Text} {last : Option Text}
    (h : Failure.digitLimit < first.length ∨
      ∃ l, last = some l ∧ Failure.digitLimit < l.length) :
    ∃ n, Failure.digitLimit < n ∧ lineRange first last = .error (.longNumeral n) := by
  unfold lineRange
  by_cases hf : Failure.digitLimit < first.length
  · refine ⟨first.length, hf, ?_⟩
    cases last <;> dsimp only <;> rw [number_of_lt hf] <;> rfl
  · rcases h with h | ⟨l, rfl, hl⟩
    · exact absurd h hf
    · obtain ⟨a, ha⟩ := number_of_le (Nat.not_lt.mp hf)
      refine ⟨l.length, hl, ?_⟩
      dsimp only
      rw [ha, number_of_lt hl]
      rfl

/-- A token makes a reference unless it has a numeral that is too long. -/
theorem exists_ofToken_eq_ok {token : Text} (h : ¬ HasLongNumeral (Tag.withoutFinalBreak token)) :
    ∃ r, ofToken token = .ok r := by
  unfold ofToken
  by_cases hs : ∃ path suffix first last,
      Tag.withoutFinalBreak token = path ++ ':' :: suffix ∧ LineSuffix suffix first last
  · obtain ⟨path, suffix, first, last, ht, hs⟩ := hs
    rw [ofLines?_of_lineSuffix ht hs]
    have hf : first.length ≤ Failure.digitLimit := by
      by_contra hlong
      exact h ⟨path, suffix, first, last, ht, hs, Or.inl (Nat.not_le.mp hlong)⟩
    have hl : ∀ l, last = some l → l.length ≤ Failure.digitLimit := by
      intro l hlast
      by_contra hlong
      exact h ⟨path, suffix, first, last, ht, hs, Or.inr ⟨l, hlast, Nat.not_le.mp hlong⟩⟩
    obtain ⟨range, hrange⟩ := exists_lineRange_eq_ok hf hl
    rw [hrange]
    exact ⟨_, rfl⟩
  · rw [ofLines?_of_no_lineSuffix fun path suffix first last ht hls =>
      hs ⟨path, suffix, first, last, ht, hls⟩]
    exact ⟨_, rfl⟩

theorem ofToken_eq_error {token : Text} (h : HasLongNumeral (Tag.withoutFinalBreak token)) :
    ∃ n, Failure.digitLimit < n ∧ ofToken token = .error (.longNumeral n) := by
  obtain ⟨path, suffix, first, last, ht, hs, hlong⟩ := h
  obtain ⟨n, hn, herror⟩ := lineRange_eq_error hlong
  refine ⟨n, hn, ?_⟩
  unfold ofToken
  rw [ofLines?_of_lineSuffix ht hs, herror]
  rfl

end TagLint.Reference
