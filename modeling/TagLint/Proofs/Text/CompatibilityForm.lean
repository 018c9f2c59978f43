import Mathlib.Data.List.Basic
import TagLint.Text.CompatibilityForm
/-!
The compatibility form of a text. Nothing vanishes on the way to it: every character has a
decomposition, and neither the order of marks nor composition uses up the last character.
-/

namespace TagLint.Text

variable {mapping : List (Nat × Nat × List Nat)} {e : Nat × Nat × List Nat} {next n : Nat}
  {words : List Text}

/-! ## The tables -/

/-- An entry maps to something, and its range starts no earlier than where the one before it
ended. -/
theorem exists_mappingFrom_cons (next : Nat) (w : Text) (words : List Text) :
    ∃ first last target, next ≤ first ∧ first ≤ last ∧ target ≠ [] ∧
      mappingFrom next (w :: words) = (first, last, target) :: mappingFrom (last + 1) words := by
  refine ⟨_, _, _, Nat.le_add_right _ _, Nat.le_add_right _ _, ?_, rfl⟩
  rw [Ne, List.map_eq_nil_iff]
  exact splitAtEach_ne_nil _ _

theorem target_ne_nil_of_mem (h : e ∈ mappingFrom next words) : e.2.2 ≠ [] := by
  induction words generalizing next with
  | nil => cases h
  | cons w words ih =>
    obtain ⟨first, last, target, -, -, htarget, hcons⟩ := exists_mappingFrom_cons next w words
    rw [hcons, List.mem_cons] at h
    rcases h with rfl | h
    · exact htarget
    · exact ih h

theorem le_of_mem_head? (h : e ∈ (mappingFrom next words).head?) : next ≤ e.1 := by
  cases words with
  | nil => cases h
  | cons w words =>
    obtain ⟨first, last, target, hfirst, -, -, hcons⟩ := exists_mappingFrom_cons next w words
    rw [hcons] at h
    cases h
    exact hfirst

/-- The ranges of a table go up, so a code point before the first of them has no entry. -/
theorem entryOf?_of_lt_head? (h : ∀ e ∈ (mappingFrom next words).head?, n < e.1) :
    entryOf? (mappingFrom next words) n = none := by
  induction words generalizing next with
  | nil => rfl
  | cons w words ih =>
    obtain ⟨first, last, target, -, hlast, -, hcons⟩ := exists_mappingFrom_cons next w words
    rw [hcons] at h ⊢
    have hn : n < first := h _ rfl
    have hbefore : decide (first ≤ n) = false := decide_eq_false (Nat.not_le.mpr hn)
    rw [entryOf?, List.find?_cons]
    dsimp only
    rw [hbefore, Bool.false_and]
    refine ih fun e he => ?_
    have hnext := le_of_mem_head? he
    omega

theorem entryOf?_compositions_of_lt (h : ∀ e ∈ compositions.head?, n < e.1) :
    entryOf? compositions n = none := by
  unfold compositions at h ⊢
  exact entryOf?_of_lt_head? h

theorem target_ne_nil_of_composition (h : entryOf? compositions n = some e) : e.2.2 ≠ [] := by
  unfold compositions at h
  exact target_ne_nil_of_mem (List.mem_of_find?_eq_some h)

theorem target_ne_nil_of_decomposition (h : entryOf? decompositions n = some e) : e.2.2 ≠ [] := by
  unfold decompositions at h
  exact target_ne_nil_of_mem (List.mem_of_find?_eq_some h)

/-! ## Nothing vanishes -/

theorem syllableLetters?_ne_nil {letters : List Nat} (h : syllableLetters? n = some letters) :
    letters ≠ [] := by
  unfold syllableLetters? at h
  dsimp only at h
  split at h
  · cases h
  · rw [← Option.some.inj h]
    split <;> exact List.cons_ne_nil _ _

theorem decomposeCode_ne_nil (levels n : Nat) : decomposeCode levels n ≠ [] := by
  induction levels generalizing n with
  | zero => exact List.cons_ne_nil n []
  | succ levels ih =>
    rw [decomposeCode]
    split
    · exact List.cons_ne_nil n []
    · split
      · rename_i hletters
        exact syllableLetters?_ne_nil hletters
      · split
        · rename_i hparts
          obtain ⟨part, hpart⟩ :=
            List.exists_mem_of_ne_nil _ (target_ne_nil_of_composition hparts)
          obtain ⟨code, hcode⟩ := List.exists_mem_of_ne_nil _ (ih part)
          exact List.ne_nil_of_mem (List.mem_flatMap_of_mem hpart hcode)
        · split
          · exact List.cons_ne_nil _ _
          · rename_i htargets
            exact target_ne_nil_of_decomposition htargets
          · exact List.cons_ne_nil n []

theorem length_insertMark (n : Nat) (marks : List Nat) :
    (insertMark n marks).length = marks.length + 1 := by
  induction marks with
  | nil => rfl
  | cons m marks ih =>
    rw [insertMark]
    split
    · rw [List.length_cons, ih, List.length_cons]
    · rfl

theorem length_orderMarks (marks codes : List Nat) :
    (orderMarks marks codes).length = marks.length + codes.length := by
  induction codes generalizing marks with
  | nil => rw [orderMarks, List.length_reverse]; rfl
  | cons n codes ih =>
    rw [orderMarks]
    split
    · rw [List.length_append, List.length_reverse, List.length_cons, ih, List.length_cons,
        List.length_nil, Nat.zero_add]
    · rw [ih, length_insertMark, List.length_cons]
      omega

theorem composeFrom_ne_nil (starter : Nat) (held codes : List Nat) :
    composeFrom starter held codes ≠ [] := by
  induction codes generalizing starter held with
  | nil => exact List.cons_ne_nil _ _
  | cons n codes ih =>
    rw [composeFrom.eq_def]
    dsimp only
    split
    · exact ih _ _
    · split
      · exact List.cons_ne_nil _ _
      · exact ih _ _

theorem compose_ne_nil {codes : List Nat} (h : codes ≠ []) : compose codes ≠ [] := by
  cases codes with
  | nil => exact absurd rfl h
  | cons n codes =>
    rw [compose]
    split
    · exact composeFrom_ne_nil _ _ _
    · exact List.cons_ne_nil _ _

/-- A text that is not empty has a compatibility form that is not empty. -/
theorem compatibilityForm_ne_nil {t : Text} (h : t ≠ []) : compatibilityForm t ≠ [] := by
  unfold compatibilityForm
  split
  · exact h
  · obtain ⟨c, hc⟩ := List.exists_mem_of_ne_nil t h
    obtain ⟨code, hcode⟩ :=
      List.exists_mem_of_ne_nil _ (decomposeCode_ne_nil compositionDepth c.toNat)
    have hcodes : t.flatMap (fun c => decomposeCode compositionDepth c.toNat) ≠ [] :=
      List.ne_nil_of_mem (List.mem_flatMap_of_mem hc hcode)
    have hordered :
        orderMarks [] (t.flatMap fun c => decomposeCode compositionDepth c.toNat) ≠ [] := by
      rw [← List.length_pos_iff, length_orderMarks, List.length_nil, Nat.zero_add]
      exact List.length_pos_of_ne_nil hcodes
    rw [Ne, List.map_eq_nil_iff]
    exact compose_ne_nil hordered

/-! ## A letter that is written in another way -/

theorem decomposeCode_of_entryOf? (levels : Nat) {first last target : Nat} (hn : 0x80 ≤ n)
    (hletters : syllableLetters? n = none) (hparts : entryOf? compositions n = none)
    (htarget : entryOf? decompositions n = some (first, last, [target])) :
    decomposeCode (levels + 1) n = [target + (n - first)] := by
  rw [decomposeCode, if_neg (Nat.not_lt.mpr hn), hletters]
  dsimp only
  rw [hparts]
  dsimp only
  rw [htarget]

/-- The feminine ordinal sign stands for the letter that it looks like. -/
theorem compatibilityForm_ordinal : compatibilityForm ['\u00AA'] = ['a'] := by
  have htarget : entryOf? decompositions ('\u00AA').toNat = some (0xAA, 0xAA, [0x61]) := by
    decide +kernel
  have hcode : decomposeCode compositionDepth ('\u00AA').toNat = [0x61] :=
    decomposeCode_of_entryOf? 7 (by decide) (by decide +kernel)
      (entryOf?_compositions_of_lt (by decide +kernel)) htarget
  rw [compatibilityForm, if_neg (by decide), List.flatMap_cons, hcode]
  decide +kernel

end TagLint.Text
