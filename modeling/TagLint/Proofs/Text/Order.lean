import TagLint.Text.Order
import TagLint.Proofs.Lists
/-!
The order of texts tells all texts apart, so a list is sorted by it in one way only if no two
members are sorted by the same text.
-/

namespace TagLint.Text

theorem le_antisymm {s t : Text} (hst : le s t = true) (hts : le t s = true) : s = t := by
  induction s generalizing t with
  | nil =>
    cases t with
    | nil => rfl
    | cons b t => simp [le] at hts
  | cons a s ih =>
    cases t with
    | nil => simp [le] at hst
    | cons b t =>
      by_cases h : a = b
      · subst h
        rw [le, if_pos rfl] at hst hts
        rw [ih hst hts]
      · rw [le, if_neg h, decide_eq_true_iff] at hst
        rw [le, if_neg (Ne.symm h), decide_eq_true_iff] at hts
        omega

/-- A text comes before another one. -/
def Before (s t : Text) : Prop := le s t = true ∧ s ≠ t

section Sorting

variable {α : Type} {key : α → Text} {xs ys : List α}

theorem mem_sortBy (key : α → Text) (xs : List α) (x : α) : x ∈ sortBy key xs ↔ x ∈ xs :=
  List.mem_mergeSort

theorem sortBy_perm (key : α → Text) (xs : List α) : (sortBy key xs).Perm xs :=
  List.mergeSort_perm xs _

theorem sortBy_eq_of_perm (hkeys : (xs.map key).Nodup) (h : xs.Perm ys) :
    sortBy key xs = sortBy key ys := by
  refine Lists.mergeSort_eq_of_perm (fun a b c => le_trans _ _ _) (fun a b => le_total _ _) h ?_
  intro a ha b hb hab hba
  exact List.inj_on_of_nodup_map hkeys ha hb (le_antisymm hab hba)

/-- Sorting by distinct texts leaves each text before the next one. -/
theorem pairwise_sortBy (hkeys : (xs.map key).Nodup) :
    ((sortBy key xs).map key).Pairwise Before := by
  have hnodup : ((sortBy key xs).map key).Nodup :=
    ((sortBy_perm key xs).map key).nodup_iff.mpr hkeys
  have hsorted : ((sortBy key xs).map key).Pairwise fun s t => le s t = true := by
    rw [List.pairwise_map]
    exact List.pairwise_mergeSort (fun a b c => le_trans (key a) (key b) (key c))
      (fun a b => le_total (key a) (key b)) xs
  exact hsorted.and hnodup

/-- Two lists that are sorted in this way are the same if their members are. -/
theorem eq_of_pairwise_before (hxs : (xs.map key).Pairwise Before)
    (hys : (ys.map key).Pairwise Before) (h : ∀ x, x ∈ xs ↔ x ∈ ys) : xs = ys := by
  rw [List.pairwise_map] at hxs hys
  have hne : ∀ {x y : α}, Before (key x) (key y) → x ≠ y := fun hbefore heq =>
    hbefore.2 (congrArg key heq)
  have hperm : xs.Perm ys := (List.perm_ext_iff_of_nodup (hxs.imp hne) (hys.imp hne)).mpr h
  refine List.Perm.eq_of_pairwise ?_ hxs hys hperm
  intro x y _ _ hxy hyx
  exact absurd (le_antisymm hxy.1 hyx.1) hxy.2

end Sorting

end TagLint.Text
