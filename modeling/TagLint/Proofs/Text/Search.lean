import TagLint.Proofs.Text.Pieces
import Mathlib.Data.List.Infix
/-!
Looking for a word in a text: it is found exactly when it stands somewhere in the text, and where it
is found it stands first, or last, or last of all places where it ends in time. A word stands on one
side of every character that it does not hold, and blanks around a text neither make nor break one
without blanks.
-/

namespace TagLint.Text

theorem isSome_find?_iff (word t : Text) : (find? word t).isSome = true ↔ word <:+: t := by
  induction t with
  | nil =>
    rw [find?, List.infix_nil]
    cases word <;> simp
  | cons c r ih =>
    rw [find?, List.infix_cons_iff, ← List.isPrefixOf_iff_prefix, ← ih]
    split
    · rename_i hstart
      simp [hstart]
    · rename_i hstart
      rw [Option.isSome_map]
      simp [hstart]

theorem prefix_append_cons_iff {c : Char} {word s t : Text} (h : c ∉ word) :
    word <+: s ++ c :: t ↔ word <+: s := by
  induction s generalizing word with
  | nil =>
    cases word with
    | nil => simp
    | cons d word =>
      rw [List.mem_cons, not_or] at h
      rw [List.nil_append, List.cons_prefix_cons, List.prefix_nil]
      exact iff_of_false (fun hd => h.1 hd.1.symm) (List.cons_ne_nil d word)
  | cons e s ih =>
    cases word with
    | nil => simp
    | cons d word =>
      rw [List.mem_cons, not_or] at h
      rw [List.cons_append, List.cons_prefix_cons, List.cons_prefix_cons, ih h.2]

theorem infix_append_cons_iff {c : Char} {word s t : Text} (h : c ∉ word) :
    word <:+: s ++ c :: t ↔ word <:+: s ∨ word <:+: t := by
  induction s with
  | nil =>
    rw [List.infix_nil, ← List.prefix_nil, ← prefix_append_cons_iff h (t := t), List.nil_append,
      List.infix_cons_iff]
  | cons d s ih =>
    rw [List.cons_append, List.infix_cons_iff, ih, ← List.cons_append, prefix_append_cons_iff h,
      List.infix_cons_iff, or_assoc]

section Gaps

variable {word gap : Text}

theorem not_infix_gap (hne : word ≠ []) (hword : ∀ c ∈ word, isBlank c = false) (hgap : IsGap gap) :
    ¬ word <:+: gap := by
  intro h
  obtain ⟨c, hc⟩ := List.exists_mem_of_ne_nil word hne
  exact absurd (hgap c (h.subset hc)) (by rw [hword c hc]; exact Bool.false_ne_true)

theorem notMem_of_isBlank {c : Char} (hword : ∀ c ∈ word, isBlank c = false)
    (hc : isBlank c = true) : c ∉ word := fun hmem =>
  absurd hc (by rw [hword c hmem]; exact Bool.false_ne_true)

theorem infix_gap_append (hne : word ≠ []) (hword : ∀ c ∈ word, isBlank c = false)
    (hgap : IsGap gap) {t : Text} (h : word <:+: gap ++ t) : word <:+: t := by
  induction gap with
  | nil => exact h
  | cons c gap ih =>
    rw [IsGap, List.forall_mem_cons] at hgap
    rcases (infix_append_cons_iff (s := []) (notMem_of_isBlank hword hgap.1)).mp h with h | h
    · exact absurd (List.infix_nil.mp h) hne
    · exact ih hgap.2 h

theorem infix_append_gap (hne : word ≠ []) (hword : ∀ c ∈ word, isBlank c = false)
    (hgap : IsGap gap) {t : Text} (h : word <:+: t ++ gap) : word <:+: t := by
  cases gap with
  | nil => rwa [List.append_nil] at h
  | cons c gap =>
    rw [IsGap, List.forall_mem_cons] at hgap
    rcases (infix_append_cons_iff (notMem_of_isBlank hword hgap.1)).mp h with h | h
    · exact h
    · exact absurd h (not_infix_gap hne hword hgap.2)

/-- Trimming neither makes nor breaks a word without blanks. -/
theorem infix_trim_iff (hne : word ≠ []) (hword : ∀ c ∈ word, isBlank c = false) (t : Text) :
    word <:+: trim t ↔ word <:+: t := by
  obtain ⟨before, after, hbefore, hafter, ht⟩ := exists_gaps_around_trim t
  constructor
  · intro h
    rw [ht]
    exact h.trans ⟨before, after, rfl⟩
  · intro h
    rw [ht] at h
    exact infix_gap_append hne hword hbefore (infix_append_gap hne hword hafter h)

end Gaps

/-- A word is found right behind a text without its first character. -/
theorem find?_append_of_notMem {c : Char} {word s t : Text} (h : c ∉ s) :
    find? (c :: word) (s ++ (c :: word ++ t)) = some s.length := by
  induction s with
  | nil => rw [List.nil_append, List.cons_append, find?, if_pos (by simp)]; rfl
  | cons d s ih =>
    rw [List.mem_cons, not_or] at h
    rw [List.cons_append, find?, if_neg, ih h.2]
    · rfl
    · rw [List.isPrefixOf_iff_prefix, List.cons_prefix_cons]
      exact fun hprefix => h.1 hprefix.1

/-! ## Where a word is found -/

section Places

variable {word t : Text}

theorem occursAt_iff {i : Nat} : occursAt word t i = true ↔ word <+: t.drop i := by
  rw [occursAt, List.isPrefixOf_iff_prefix]

theorem occursAt_zero : occursAt word t 0 = word.isPrefixOf t := by
  rw [occursAt, List.drop_zero]

theorem occursAt_nil (hne : word ≠ []) (i : Nat) : occursAt word [] i = false := by
  cases word with
  | nil => exact absurd rfl hne
  | cons c word => rw [occursAt, List.drop_nil]; rfl

/-- A word that stands in the first part of a text ends there. -/
theorem occursAt_take_iff (hne : word ≠ []) {stop i : Nat} :
    occursAt word (t.take stop) i = true ↔ occursAt word t i = true ∧ i + word.length ≤ stop := by
  have hpos : 0 < word.length := List.length_pos_of_ne_nil hne
  have hend : word.length ≤ stop - i ↔ i + word.length ≤ stop := by omega
  rw [occursAt_iff, occursAt_iff, List.drop_take, List.prefix_take_iff, hend]

theorem occursAt_drop {start i : Nat} :
    occursAt word (t.drop start) i = occursAt word t (start + i) := by
  rw [occursAt, occursAt, List.drop_drop]

/-- The word stands at this place and nowhere before it. -/
def IsFirstAt (word t : Text) (i : Nat) : Prop :=
  occursAt word t i = true ∧ ∀ j < i, occursAt word t j = false

instance (i : Nat) : Decidable (IsFirstAt word t i) :=
  inferInstanceAs (Decidable (_ ∧ ∀ j < i, _))

/-- The word stands at this place and nowhere behind it. -/
def IsLastAt (word t : Text) (i : Nat) : Prop :=
  occursAt word t i = true ∧ ∀ j, occursAt word t j = true → j ≤ i

theorem IsFirstAt.unique {i j : Nat} (hi : IsFirstAt word t i) (hj : IsFirstAt word t j) :
    i = j := by
  have hij : ¬ i < j := fun h => Bool.false_ne_true ((hj.2 i h).symm.trans hi.1)
  have hji : ¬ j < i := fun h => Bool.false_ne_true ((hi.2 j h).symm.trans hj.1)
  omega

theorem find?_eq_some_iff {i : Nat} : find? word t = some i ↔ IsFirstAt word t i := by
  induction t generalizing i with
  | nil =>
    cases word with
    | nil =>
      have hzero : IsFirstAt [] [] 0 := ⟨rfl, fun j hj => absurd hj (Nat.not_lt_zero j)⟩
      show some 0 = some i ↔ _
      rw [Option.some.injEq]
      exact ⟨fun h => h ▸ hzero, fun h => hzero.unique h⟩
    | cons c word =>
      refine iff_of_false (by simp [find?]) fun h => ?_
      have hnone := occursAt_nil (List.cons_ne_nil c word) i
      exact Bool.false_ne_true (hnone.symm.trans h.1)
  | cons c r ih =>
    rw [find?]
    cases hstart : word.isPrefixOf (c :: r) with
    | true =>
      have hzero : IsFirstAt word (c :: r) 0 :=
        ⟨occursAt_zero.trans hstart, fun j hj => absurd hj (Nat.not_lt_zero j)⟩
      rw [if_pos rfl, Option.some.injEq]
      exact ⟨fun h => h ▸ hzero, fun h => hzero.unique h⟩
    | false =>
      have hfalse : occursAt word (c :: r) 0 = false := occursAt_zero.trans hstart
      rw [if_neg Bool.false_ne_true, Option.map_eq_some_iff]
      constructor
      · rintro ⟨j, hj, rfl⟩
        obtain ⟨hat, hbefore⟩ := ih.mp hj
        refine ⟨hat, fun k hk => ?_⟩
        cases k with
        | zero => exact hfalse
        | succ k => exact hbefore k (by omega)
      · intro h
        cases i with
        | zero => exact absurd (hfalse.symm.trans h.1) Bool.false_ne_true
        | succ i =>
          refine ⟨i, ih.mpr ⟨h.1, fun k hk => ?_⟩, rfl⟩
          exact h.2 (k + 1) (by omega)

/-- A word is found right behind a text without the character that comes next exactly if it stands
there. -/
theorem find?_append_eq_length_iff {s : Text} (hne : word ≠ []) (hhead : ∀ c ∈ t.head?, c ∉ s) :
    find? word (s ++ t) = some s.length ↔ word <+: t := by
  constructor
  · intro h
    have hat := occursAt_iff.mp (find?_eq_some_iff.mp h).1
    rwa [List.drop_left] at hat
  · rintro ⟨after, rfl⟩
    cases word with
    | nil => exact absurd rfl hne
    | cons c word => exact find?_append_of_notMem (hhead c rfl)

theorem find?_eq_none_iff : find? word t = none ↔ ∀ i, occursAt word t i = false := by
  constructor
  · intro h i
    rw [Bool.eq_false_iff]
    intro hat
    have hinfix : word <:+: t := (occursAt_iff.mp hat).isInfix.trans (List.drop_suffix i t).isInfix
    rw [← isSome_find?_iff, h] at hinfix
    exact Bool.false_ne_true hinfix
  · intro h
    cases hfind : find? word t with
    | none => rfl
    | some i => exact absurd ((h i).symm.trans (find?_eq_some_iff.mp hfind).1) Bool.false_ne_true

theorem findFrom?_eq (hne : word ≠ []) (start : Nat) :
    findFrom? word t start = (find? word (t.drop start)).map (· + start) := by
  rw [findFrom?]
  split
  · rfl
  · rename_i hstart
    have hnone : find? word (t.drop start) = none := by
      rw [List.drop_eq_nil_of_le (by omega), find?_eq_none_iff]
      exact occursAt_nil hne
    rw [hnone, Option.map_none]

theorem findFrom?_eq_none_iff (hne : word ≠ []) {start : Nat} :
    findFrom? word t start = none ↔ ∀ i, start ≤ i → occursAt word t i = false := by
  rw [findFrom?_eq hne, Option.map_eq_none_iff, find?_eq_none_iff]
  constructor
  · intro h i hi
    have hdrop := h (i - start)
    rw [occursAt_drop, Nat.add_sub_cancel' hi] at hdrop
    exact hdrop
  · intro h i
    rw [occursAt_drop]
    exact h _ (Nat.le_add_right start i)

/-- What is found from a place on stands there or behind it, and first of all that do. -/
theorem of_findFrom?_eq_some (hne : word ≠ []) {start i : Nat}
    (h : findFrom? word t start = some i) :
    start ≤ i ∧ occursAt word t i = true ∧ ∀ j, start ≤ j → occursAt word t j = true → i ≤ j := by
  rw [findFrom?_eq hne, Option.map_eq_some_iff] at h
  obtain ⟨k, hk, rfl⟩ := h
  obtain ⟨hat, hbefore⟩ := find?_eq_some_iff.mp hk
  rw [occursAt_drop, Nat.add_comm] at hat
  refine ⟨Nat.le_add_left start k, hat, fun j hj hjat => ?_⟩
  by_contra hlt
  have hdrop := hbefore (j - start) (by omega)
  rw [occursAt_drop, Nat.add_sub_cancel' hj, hjat] at hdrop
  cases hdrop

theorem findLast?_eq_none_iff (hne : word ≠ []) :
    findLast? word t = none ↔ ∀ i, occursAt word t i = false := by
  induction t with
  | nil =>
    refine iff_of_true ?_ (occursAt_nil hne)
    rw [findLast?, if_neg (by simpa using hne)]
  | cons c r ih =>
    rw [findLast?]
    constructor
    · intro h i
      cases hr : findLast? word r with
      | some j => rw [hr] at h; cases h
      | none =>
        rw [hr] at h
        dsimp only at h
        cases i with
        | zero =>
          rw [occursAt_zero, Bool.eq_false_iff]
          intro hstart
          rw [if_pos hstart] at h
          cases h
        | succ i => exact ih.mp hr i
    · intro h
      have hr : findLast? word r = none := ih.mpr fun i => h (i + 1)
      have hstart : word.isPrefixOf (c :: r) = false := occursAt_zero.symm.trans (h 0)
      rw [hr]
      dsimp only
      rw [hstart, if_neg Bool.false_ne_true]

theorem isLastAt_of_findLast? (hne : word ≠ []) {i : Nat} (h : findLast? word t = some i) :
    IsLastAt word t i := by
  induction t generalizing i with
  | nil =>
    rw [findLast?, if_neg (by simpa using hne)] at h
    cases h
  | cons c r ih =>
    rw [findLast?] at h
    cases hr : findLast? word r with
    | some j =>
      rw [hr] at h
      cases h
      obtain ⟨hat, hlast⟩ := ih hr
      refine ⟨hat, fun k hk => ?_⟩
      cases k with
      | zero => exact Nat.zero_le _
      | succ k => exact Nat.succ_le_succ (hlast k hk)
    | none =>
      rw [hr] at h
      dsimp only at h
      split at h
      · rename_i hstart
        cases h
        refine ⟨occursAt_zero.trans hstart, fun k hk => ?_⟩
        cases k with
        | zero => exact Nat.le_refl 0
        | succ k =>
          have hnone := (findLast?_eq_none_iff hne).mp hr k
          exact absurd (hnone.symm.trans hk) Bool.false_ne_true
      · cases h

/-- What is found before a place ends there at the latest, and stands last of all that do. -/
theorem of_findLastBefore?_eq_some (hne : word ≠ []) {stop i : Nat}
    (h : findLastBefore? word t stop = some i) :
    (occursAt word t i = true ∧ i + word.length ≤ stop) ∧
      ∀ j, occursAt word t j = true → j + word.length ≤ stop → j ≤ i := by
  obtain ⟨hat, hlast⟩ := isLastAt_of_findLast? hne h
  refine ⟨(occursAt_take_iff hne).mp hat, fun j hj hstop => ?_⟩
  exact hlast j ((occursAt_take_iff hne).mpr ⟨hj, hstop⟩)

theorem findLastBefore?_eq_none_iff (hne : word ≠ []) {stop : Nat} :
    findLastBefore? word t stop = none ↔
      ∀ i, ¬ (occursAt word t i = true ∧ i + word.length ≤ stop) := by
  rw [findLastBefore?, findLast?_eq_none_iff hne]
  refine forall_congr' fun i => ?_
  rw [← occursAt_take_iff hne, Bool.not_eq_true]

end Places

end TagLint.Text
