import TagLint.Text.Basic
/-!
The order of texts by their code points, and lists sorted by it.
-/

namespace TagLint.Text

/-- Whether a text comes before another one or is equal to it. -/
def le : Text → Text → Bool
  | [], _ => true
  | _ :: _, [] => false
  | a :: s, b :: t => if a = b then le s t else a.toNat < b.toNat

theorem le_total (s t : Text) : (le s t || le t s) = true := by
  induction s generalizing t with
  | nil => simp [le]
  | cons a s ih =>
    cases t with
    | nil => simp [le]
    | cons b t =>
      by_cases h : a = b
      · subst h; simpa [le] using ih t
      · have h' : b ≠ a := fun e => h e.symm
        have hn : a.toNat ≠ b.toNat := fun e => h (Char.toNat_inj.1 e)
        simp only [le, h, h', if_false, Bool.or_eq_true, decide_eq_true_eq]
        omega

theorem le_trans (s t u : Text) (hst : le s t = true) (htu : le t u = true) : le s u = true := by
  induction s generalizing t u with
  | nil => simp [le]
  | cons a s ih =>
    cases t with
    | nil => simp [le] at hst
    | cons b t =>
      cases u with
      | nil => simp [le] at htu
      | cons c u =>
        simp only [le] at hst htu ⊢
        split at hst <;> split at htu <;> simp_all
        · exact ih t u hst htu
        · split
          · subst_vars; omega
          · omega

/-- The members of a list sorted by the texts that `key` gives; members with one text keep their
order. -/
def sortBy {α : Type} (key : α → Text) (xs : List α) : List α :=
  xs.mergeSort fun a b => le (key a) (key b)

end TagLint.Text
