import TagLint.Text.Blank
import Mathlib.Data.List.Basic
import Mathlib.Data.List.TakeWhile
/-!
Cutting a text into pieces and joining pieces again. No piece holds a character that was cut at;
cutting undoes joining for such pieces, and joining undoes cutting for every text. Leaving pieces
out leaves out characters only. Neither a trimmed text nor a word ends in a blank; trimming gives a
text back from between blanks, and so does cutting into words.
-/

namespace TagLint.Text

variable {cut : Char → Bool}

/-! ## Cutting -/

theorem splitAtEach_cons_of_cut {c : Char} (hc : cut c = true) (t : Text) :
    splitAtEach cut (c :: t) = [] :: splitAtEach cut t := by
  rw [splitAtEach]
  cases h : splitAtEach cut t with
  | nil => exact absurd h (splitAtEach_ne_nil cut t)
  | cons p ps => simp [hc]

theorem splitAtEach_cons_of_uncut {c : Char} (hc : cut c = false) (t : Text) :
    ∃ p ps, splitAtEach cut t = p :: ps ∧ splitAtEach cut (c :: t) = (c :: p) :: ps := by
  rw [splitAtEach]
  cases h : splitAtEach cut t with
  | nil => exact absurd h (splitAtEach_ne_nil cut t)
  | cons p ps => exact ⟨p, ps, rfl, by simp [hc]⟩

theorem splitAtEach_append_cut {c : Char} (hc : cut c = true) (s t : Text) :
    splitAtEach cut (s ++ c :: t) = splitAtEach cut s ++ splitAtEach cut t := by
  induction s with
  | nil => simp [splitAtEach_cons_of_cut hc, splitAtEach]
  | cons d s ih =>
    rw [List.cons_append]
    cases hd : cut d with
    | true => rw [splitAtEach_cons_of_cut hd, splitAtEach_cons_of_cut hd, ih, List.cons_append]
    | false =>
      obtain ⟨p, ps, hp, hdp⟩ := splitAtEach_cons_of_uncut hd (s ++ c :: t)
      obtain ⟨q, qs, hq, hdq⟩ := splitAtEach_cons_of_uncut hd s
      rw [ih, hq, List.cons_append, List.cons.injEq] at hp
      rw [hdp, hdq, List.cons_append, ← hp.1, hp.2]

theorem splitAtEach_of_uncut {t : Text} (h : ∀ c ∈ t, cut c = false) : splitAtEach cut t = [t] := by
  induction t with
  | nil => rfl
  | cons c t ih =>
    rw [List.forall_mem_cons] at h
    obtain ⟨p, ps, hp, hcp⟩ := splitAtEach_cons_of_uncut h.1 t
    rw [ih h.2, List.cons.injEq] at hp
    rw [hcp, ← hp.1, ← hp.2]

theorem uncut_of_mem_splitAtEach {t p : Text} (h : p ∈ splitAtEach cut t) :
    ∀ c ∈ p, cut c = false := by
  induction t generalizing p with
  | nil =>
    have hp : p = [] := by simpa [splitAtEach] using h
    simp [hp]
  | cons d t ih =>
    cases hd : cut d with
    | true =>
      rw [splitAtEach_cons_of_cut hd, List.mem_cons] at h
      rcases h with rfl | h
      · simp
      · exact ih h
    | false =>
      obtain ⟨q, qs, hq, hdq⟩ := splitAtEach_cons_of_uncut hd t
      rw [hdq, List.mem_cons] at h
      rcases h with rfl | h
      · rw [List.forall_mem_cons]
        exact ⟨hd, ih (by simp [hq])⟩
      · exact ih (by simp [hq, h])

/-! ## Joining -/

theorem joinWith_cons_cons (sep p q : Text) (ps : List Text) :
    joinWith sep (p :: q :: ps) = p ++ sep ++ joinWith sep (q :: ps) := rfl

theorem joinWith_append (sep : Text) {ps qs : List Text} (hps : ps ≠ []) (hqs : qs ≠ []) :
    joinWith sep (ps ++ qs) = joinWith sep ps ++ sep ++ joinWith sep qs := by
  obtain ⟨q, qs, rfl⟩ := List.exists_cons_of_ne_nil hqs
  induction ps with
  | nil => exact absurd rfl hps
  | cons p ps ih =>
    cases ps with
    | nil => rfl
    | cons p' ps =>
      rw [List.cons_append, List.cons_append, joinWith_cons_cons, ← List.cons_append,
        ih (List.cons_ne_nil p' ps), joinWith_cons_cons]
      simp only [List.append_assoc]

theorem splitAtEach_joinWith {c : Char} (hc : cut c = true) {ps : List Text} (hne : ps ≠ [])
    (h : ∀ p ∈ ps, ∀ d ∈ p, cut d = false) : splitAtEach cut (joinWith [c] ps) = ps := by
  induction ps with
  | nil => exact absurd rfl hne
  | cons p ps ih =>
    rw [List.forall_mem_cons] at h
    cases ps with
    | nil => exact splitAtEach_of_uncut h.1
    | cons q ps =>
      rw [joinWith_cons_cons, List.append_assoc, List.singleton_append, splitAtEach_append_cut hc,
        splitAtEach_of_uncut h.1, ih (List.cons_ne_nil q ps) h.2]
      rfl

theorem joinWith_splitAtEach (c : Char) (t : Text) :
    joinWith [c] (splitAtEach (· == c) t) = t := by
  induction t with
  | nil => rfl
  | cons d t ih =>
    cases hd : d == c with
    | true =>
      rw [@splitAtEach_cons_of_cut (· == c) d hd t, beq_iff_eq.mp hd]
      cases hs : splitAtEach (· == c) t with
      | nil => exact absurd hs (splitAtEach_ne_nil _ t)
      | cons p ps =>
        rw [joinWith_cons_cons, ← hs, ih]
        rfl
    | false =>
      obtain ⟨p, ps, hp, hdp⟩ := @splitAtEach_cons_of_uncut (· == c) d hd t
      rw [hp] at ih
      rw [hdp]
      cases ps with
      | nil =>
        rw [joinWith] at ih ⊢
        rw [ih]
      | cons q ps =>
        rw [joinWith_cons_cons] at ih ⊢
        rw [← ih]
        rfl

/-- A text that others are joined to has its pieces among those of the whole. -/
theorem splitAtEach_subset_joinWith {c : Char} (hc : cut c = true) {p : Text} {ps : List Text}
    (h : p ∈ ps) : splitAtEach cut p ⊆ splitAtEach cut (joinWith [c] ps) := by
  induction ps with
  | nil => cases h
  | cons q ps ih =>
    cases ps with
    | nil =>
      rw [List.mem_singleton.mp h]
      exact List.Subset.refl _
    | cons r ps =>
      rw [joinWith_cons_cons, List.append_assoc, List.singleton_append, splitAtEach_append_cut hc]
      rcases List.mem_cons.mp h with rfl | h
      · exact List.subset_append_left _ _
      · exact List.subset_append_of_subset_right _ (ih h)

theorem joinWith_sublist (sep : Text) {ps qs : List Text} (h : ps.Sublist qs) :
    (joinWith sep ps).Sublist (joinWith sep qs) := by
  induction h with
  | slnil => exact List.Sublist.refl _
  | @cons ps qs q _ ih =>
    cases qs with
    | nil => exact ih.trans (List.nil_sublist q)
    | cons r qs =>
      rw [joinWith_cons_cons]
      exact ih.trans (List.sublist_append_right _ _)
  | @cons_cons ps qs q h ih =>
    cases ps with
    | nil =>
      cases qs with
      | nil => exact List.Sublist.refl _
      | cons r qs =>
        rw [joinWith_cons_cons, List.append_assoc]
        exact List.sublist_append_left _ _
    | cons p ps =>
      cases qs with
      | nil => cases h
      | cons r qs =>
        rw [joinWith_cons_cons, joinWith_cons_cons]
        exact List.Sublist.append_left ih _

theorem joinWith_cons_ne_nil (sep : Text) {p : Text} (hp : p ≠ []) (ps : List Text) :
    joinWith sep (p :: ps) ≠ [] := by
  cases ps with
  | nil => exact hp
  | cons q ps => simp [joinWith_cons_cons, hp]

theorem getLast?_joinWith_ne {c : Char} {ps : List Text} (h : ∀ p ∈ ps, p ≠ [] ∧ c ∉ p) :
    (joinWith [c] ps).getLast? ≠ some c := by
  induction ps with
  | nil => simp [joinWith]
  | cons p ps ih =>
    rw [List.forall_mem_cons] at h
    cases ps with
    | nil =>
      intro hlast
      exact h.1.2 (List.mem_of_getLast? hlast)
    | cons q ps =>
      have hq := (h.2 q List.mem_cons_self).1
      rw [joinWith_cons_cons, List.getLast?_append_of_ne_nil _ (joinWith_cons_ne_nil [c] hq ps)]
      exact ih h.2

/-! ## Trimmed texts and words -/

theorem not_isBlank_of_getLast?_trim {t : Text} {c : Char} (h : (trim t).getLast? = some c) :
    isBlank c = false := by
  unfold trim trimRight at h
  rw [List.getLast?_reverse] at h
  have hhead := List.head?_dropWhile_not isBlank (trimLeft t).reverse
  rw [h] at hhead
  exact hhead

theorem not_isBlank_of_printable {c : Char} (hlow : 0x21 ≤ c.toNat) (hhigh : c.toNat ≤ 0x7E) :
    isBlank c = false := by
  unfold isBlank
  simp only [Bool.or_eq_false_iff, Bool.and_eq_false_iff, decide_eq_false_iff_not,
    beq_eq_false_iff_ne]
  omega

theorem unblank_of_all {t : Text} (h : t.all (!isBlank ·) = true) :
    ∀ c ∈ t, isBlank c = false := by
  simpa using h

/-- A text of blanks alone, of none perhaps. -/
def IsGap (t : Text) : Prop := ∀ c ∈ t, isBlank c = true

instance (t : Text) : Decidable (IsGap t) := List.decidableBAll (isBlank · = true) t

theorem trim_of_isGap {gap : Text} (h : IsGap gap) : trim gap = [] := by
  unfold trim trimLeft
  rw [List.dropWhile_eq_nil_iff.mpr h]
  rfl

/-- The blanks behind a text that does not end in one are trimmed away. -/
theorem trimRight_append_gap {t after : Text} (hafter : IsGap after)
    (hback : ∀ c ∈ t.getLast?, isBlank c = false) : trimRight (t ++ after) = t := by
  have hrev : t.reverse.dropWhile isBlank = t.reverse := by
    rw [List.dropWhile_eq_self_iff]
    intro hlen
    rw [Bool.not_eq_true]
    apply hback
    rw [Option.mem_def, ← List.head?_reverse, List.head?_eq_getElem?,
      List.getElem?_eq_getElem hlen]
  rw [trimRight, List.reverse_append, List.dropWhile_append_of_pos, hrev, List.reverse_reverse]
  intro d hd
  exact hafter d (List.mem_reverse.mp hd)

/-- Trimming takes away the blanks around a text that has none at either end. -/
theorem trim_padded {before t after : Text} (hbefore : IsGap before) (hafter : IsGap after)
    (hfront : ∀ c ∈ t.head?, isBlank c = false) (hback : ∀ c ∈ t.getLast?, isBlank c = false) :
    trim (before ++ t ++ after) = t := by
  cases ht : t with
  | nil =>
    rw [List.append_nil, trim_of_isGap]
    exact List.forall_mem_append.mpr ⟨hbefore, hafter⟩
  | cons c r =>
    have hc : isBlank c = false := hfront c (by rw [ht, List.head?_cons, Option.mem_some])
    unfold trim trimLeft
    rw [List.append_assoc, List.dropWhile_append_of_pos hbefore, List.cons_append,
      List.dropWhile_cons_of_neg (by rw [hc]; exact Bool.false_ne_true), ← List.cons_append, ← ht,
      trimRight_append_gap hafter hback]

/-- What is dropped from the back of a text stands behind what is left. -/
theorem exists_eq_dropWhile_append (stay : Char → Bool) (t : Text) :
    ∃ u, t = (t.reverse.dropWhile stay).reverse ++ u ∧ ∀ c ∈ u, stay c = true := by
  refine ⟨(t.reverse.takeWhile stay).reverse, ?_, fun c hc => ?_⟩
  · rw [← List.reverse_append, List.takeWhile_append_dropWhile, List.reverse_reverse]
  · exact List.mem_takeWhile_imp (List.mem_reverse.mp hc)

theorem exists_gaps_around_trim (t : Text) :
    ∃ before after, IsGap before ∧ IsGap after ∧ t = before ++ trim t ++ after := by
  obtain ⟨after, hafter, hgap⟩ := exists_eq_dropWhile_append isBlank (trimLeft t)
  refine ⟨t.takeWhile isBlank, after, fun c hc => List.mem_takeWhile_imp hc, hgap, ?_⟩
  rw [List.append_assoc, trim, trimRight, ← hafter, trimLeft, List.takeWhile_append_dropWhile]

theorem words_of_unbroken {t : Text} (hne : t ≠ []) (h : ∀ c ∈ t, isBlank c = false) :
    words t = [t] := by
  unfold words
  rw [splitAtEach_of_uncut h]
  simp [hne]

theorem words_append_of_isBlank {c : Char} (hc : isBlank c = true) (s t : Text) :
    words (s ++ c :: t) = words s ++ words t := by
  unfold words
  rw [splitAtEach_append_cut hc, List.filter_append]

theorem words_cons_of_isBlank {c : Char} (hc : isBlank c = true) (t : Text) :
    words (c :: t) = words t :=
  words_append_of_isBlank hc [] t

theorem words_gap_append {gap : Text} (h : IsGap gap) (t : Text) : words (gap ++ t) = words t := by
  induction gap with
  | nil => rfl
  | cons c gap ih =>
    rw [IsGap, List.forall_mem_cons] at h
    rw [List.cons_append, words_cons_of_isBlank h.1, ih h.2]

theorem words_append_of_isGap {gap : Text} (h : IsGap gap) (t : Text) :
    words (t ++ gap) = words t := by
  cases gap with
  | nil => rw [List.append_nil]
  | cons c gap =>
    rw [IsGap, List.forall_mem_cons] at h
    have hnone : words gap = [] := by
      rw [← List.append_nil gap, words_gap_append h.2]
      rfl
    rw [words_append_of_isBlank h.1, hnone, List.append_nil]

/-- Trimming leaves the words as they are. -/
theorem words_trim (t : Text) : words (trim t) = words t := by
  obtain ⟨before, after, hbefore, hafter, ht⟩ := exists_gaps_around_trim t
  conv_rhs => rw [ht]
  rw [words_append_of_isGap hafter, words_gap_append hbefore]

/-- A word ends where blanks follow. -/
theorem words_append_gap {t gap : Text} (ht : ∀ c ∈ t, isBlank c = false) (hne : t ≠ [])
    (hgap : IsGap gap) (hsome : gap ≠ []) (rest : Text) :
    words (t ++ gap ++ rest) = t :: words rest := by
  cases gap with
  | nil => exact absurd rfl hsome
  | cons c gap =>
    rw [IsGap, List.forall_mem_cons] at hgap
    rw [List.append_assoc, List.cons_append, words_append_of_isBlank hgap.1,
      words_of_unbroken hne ht, words_gap_append hgap.2, List.singleton_append]

theorem not_isBlank_of_mem_words {t w : Text} (h : w ∈ words t) : ∀ c ∈ w, isBlank c = false := by
  unfold words at h
  exact uncut_of_mem_splitAtEach (List.mem_filter.mp h).1

end TagLint.Text
