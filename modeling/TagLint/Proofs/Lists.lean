import Mathlib.Data.List.Induction
import Mathlib.Data.List.Nodup
/-!
Lists with one member more, without doubles, looked up in, and sorted. What is looked up does not
depend on the order if no key stands twice, and a list is sorted in one way only if its order tells
all members apart.
-/

namespace TagLint.Lists

variable {α : Type}

theorem append_singleton_eq_append_cons_iff {xs before after : List α} {x y : α} :
    xs ++ [x] = before ++ y :: after ↔
      (xs = before ∧ x = y ∧ after = []) ∨
        ∃ rest, xs = before ++ y :: rest ∧ after = rest ++ [x] := by
  constructor
  · intro h
    rcases List.eq_nil_or_concat after with rfl | ⟨rest, z, rfl⟩
    · rw [List.append_singleton_inj] at h
      exact Or.inl ⟨h.1, h.2, rfl⟩
    · rw [List.concat_eq_append, ← List.cons_append, ← List.append_assoc,
        List.append_singleton_inj] at h
      obtain ⟨hxs, rfl⟩ := h
      exact Or.inr ⟨rest, hxs, List.concat_eq_append⟩
  · rintro (⟨rfl, rfl, rfl⟩ | ⟨rest, rfl, rfl⟩)
    · rfl
    · rw [List.append_assoc, List.cons_append]

/-- The first place of a member in a list is settled by the list, and so are the parts around
it. -/
theorem append_cons_inj {xs xs' ys ys' : List α} {a : α} (hxs : a ∉ xs) (hys : a ∉ ys)
    (h : xs ++ a :: xs' = ys ++ a :: ys') : xs = ys ∧ xs' = ys' := by
  induction xs generalizing ys with
  | nil =>
    cases ys with
    | nil => exact ⟨rfl, List.tail_eq_of_cons_eq h⟩
    | cons y ys =>
      rw [List.nil_append, List.cons_append, List.cons.injEq] at h
      exact absurd (h.1 ▸ List.mem_cons_self) hys
  | cons x xs ih =>
    cases ys with
    | nil =>
      rw [List.nil_append, List.cons_append, List.cons.injEq] at h
      exact absurd (h.1 ▸ List.mem_cons_self) hxs
    | cons y ys =>
      rw [List.cons_append, List.cons_append, List.cons.injEq] at h
      obtain ⟨hrest, htail⟩ := ih (List.not_mem_of_not_mem_cons hxs)
        (List.not_mem_of_not_mem_cons hys) h.2
      exact ⟨by rw [h.1, hrest], htail⟩

/-- The same with the last place. -/
theorem append_cons_inj_right {xs xs' ys ys' : List α} {a : α} (hxs : a ∉ xs') (hys : a ∉ ys')
    (h : xs ++ a :: xs' = ys ++ a :: ys') : xs = ys ∧ xs' = ys' := by
  have hreverse := congrArg List.reverse h
  rw [List.reverse_append, List.reverse_append, List.reverse_cons, List.reverse_cons,
    List.append_assoc, List.append_assoc] at hreverse
  obtain ⟨htail, hrest⟩ := append_cons_inj (fun hmem => hxs (List.mem_reverse.mp hmem))
    (fun hmem => hys (List.mem_reverse.mp hmem)) hreverse
  exact ⟨List.reverse_injective hrest, List.reverse_injective htail⟩

/-- What is made of each member, where that can be told from something else made of it. -/
theorem map_eq_of_map_eq {β γ : Type} {f : α → β} {g : α → γ} {xs ys : List α}
    (h : ∀ x ∈ xs, ∀ y ∈ ys, f x = f y → g x = g y) (hmap : xs.map f = ys.map f) :
    xs.map g = ys.map g := by
  induction xs generalizing ys with
  | nil =>
    rw [List.map_nil, eq_comm, List.map_eq_nil_iff] at hmap
    rw [hmap]
  | cons x xs ih =>
    cases ys with
    | nil => cases hmap
    | cons y ys =>
      rw [List.map_cons, List.map_cons, List.cons.injEq] at hmap ⊢
      refine ⟨h x List.mem_cons_self y List.mem_cons_self hmap.1, ih (fun x hx y hy => ?_) hmap.2⟩
      exact h x (List.mem_cons_of_mem _ hx) y (List.mem_cons_of_mem _ hy)

/-- The doubles of the first member go, and what is left is a shorter list without doubles. -/
theorem nodup_eraseDups [BEq α] [LawfulBEq α] (xs : List α) : xs.eraseDups.Nodup := by
  cases xs with
  | nil => exact List.nodup_nil
  | cons x xs =>
    rw [List.eraseDups_cons, List.nodup_cons, List.mem_eraseDups]
    exact ⟨by simp, nodup_eraseDups _⟩
termination_by xs.length
decreasing_by
  rw [List.length_cons]
  exact Nat.lt_succ_of_le (List.length_filter_le _ _)

theorem flatMap_nodup {β : Type} {f : α → List β} {xs : List α} (hxs : xs.Nodup)
    (hf : ∀ x ∈ xs, (f x).Nodup)
    (hshared : ∀ x ∈ xs, ∀ y ∈ xs, ∀ b, b ∈ f x → b ∈ f y → x = y) : (xs.flatMap f).Nodup := by
  rw [List.nodup_flatMap]
  refine ⟨hf, List.Pairwise.imp_of_mem ?_ hxs⟩
  intro x y hx hy hne b hbx hby
  exact hne (hshared x hx y hy b hbx hby)

/-! ## Looking up -/

section Lookup

variable {β : Type} [BEq α] [LawfulBEq α] {xs ys : List (α × β)}

/-- If no key stands twice then what is looked up is what stands there. -/
theorem lookup_eq_some_iff (h : (xs.map (·.1)).Nodup) {a : α} {b : β} :
    xs.lookup a = some b ↔ (a, b) ∈ xs := by
  constructor
  · intro hlookup
    obtain ⟨before, after, hxs, -⟩ := List.lookup_eq_some_iff.mp hlookup
    rw [hxs]
    exact List.mem_append_right before List.mem_cons_self
  · intro hmem
    cases hlookup : xs.lookup a with
    | none =>
      have hne := List.lookup_eq_none_iff.mp hlookup (a, b) hmem
      simp at hne
    | some b' =>
      obtain ⟨before, after, hxs, -⟩ := List.lookup_eq_some_iff.mp hlookup
      have hmem' : (a, b') ∈ xs := by
        rw [hxs]
        exact List.mem_append_right before List.mem_cons_self
      cases List.inj_on_of_nodup_map h hmem hmem' rfl
      rfl

theorem lookup_eq_of_perm (h : (xs.map (·.1)).Nodup) (hperm : xs.Perm ys) (a : α) :
    xs.lookup a = ys.lookup a := by
  have h' : (ys.map (·.1)).Nodup := (hperm.map (·.1)).nodup_iff.mp h
  apply Option.ext
  intro b
  rw [lookup_eq_some_iff h, lookup_eq_some_iff h', hperm.mem_iff]

theorem lookup_map_values {γ : Type} (f : α → β → γ) (xs : List (α × β)) (a : α) :
    (xs.map fun e => (e.1, f e.1 e.2)).lookup a = (xs.lookup a).map (f a) := by
  induction xs with
  | nil => rfl
  | cons e xs ih =>
    rw [List.map_cons, List.lookup_cons, List.lookup_cons, ih]
    by_cases h : a = e.1
    · rw [h, beq_self_eq_true]
      rfl
    · rw [beq_false_of_ne h]

theorem lookup_filter_bne_self (xs : List (α × β)) (a : α) :
    (xs.filter (·.1 != a)).lookup a = none := by
  rw [List.lookup_eq_none_iff]
  intro e he
  rw [List.mem_filter, bne_comm] at he
  exact he.2

theorem lookup_filter_bne_of_ne {a b : α} (h : a ≠ b) (xs : List (α × β)) :
    (xs.filter (·.1 != b)).lookup a = xs.lookup a := by
  induction xs with
  | nil => rfl
  | cons e xs ih =>
    rw [List.lookup_cons]
    by_cases he : e.1 = b
    · have hne : (a == e.1) = false := beq_false_of_ne (he ▸ h)
      rw [List.filter_cons_of_neg (by simpa using he), ih, hne]
    · rw [List.filter_cons_of_pos (by simpa using he), List.lookup_cons, ih]

end Lookup

/-! ## Sorting -/

section Sorting

variable {le : α → α → Bool} {xs ys : List α}

/-- No two members of the list are each before the other or equal to it. -/
def TellsApart (le : α → α → Bool) (xs : List α) : Prop :=
  ∀ a ∈ xs, ∀ b ∈ xs, le a b = true → le b a = true → a = b

variable (htrans : ∀ a b c, le a b = true → le b c = true → le a c = true)
  (htotal : ∀ a b, (le a b || le b a) = true)

include htrans htotal

theorem mergeSort_eq_of_perm (h : xs.Perm ys) (hxs : TellsApart le xs) :
    xs.mergeSort le = ys.mergeSort le := by
  have hperm : (xs.mergeSort le).Perm (ys.mergeSort le) :=
    (List.mergeSort_perm xs le).trans (h.trans (List.mergeSort_perm ys le).symm)
  refine List.Perm.eq_of_pairwise ?_ (List.pairwise_mergeSort htrans htotal xs)
    (List.pairwise_mergeSort htrans htotal ys) hperm
  intro a b ha hb hab hba
  exact hxs a (List.mem_mergeSort.mp ha) b (h.mem_iff.mpr (List.mem_mergeSort.mp hb)) hab hba

theorem pairwise_mergeSort_of_nodup (hnodup : xs.Nodup) :
    (xs.mergeSort le).Pairwise fun a b => le a b = true ∧ a ≠ b := by
  have hne : (xs.mergeSort le).Nodup := (List.mergeSort_perm xs le).nodup_iff.mpr hnodup
  exact (List.pairwise_mergeSort htrans htotal xs).and hne

end Sorting

end TagLint.Lists
