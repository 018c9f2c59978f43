import TagLint.ByPath
import TagLint.Proofs.Lists
/-!
Values kept by path as a list of entries: a value that is found is that of an entry, and a new value
adds no entry but its own. Starting from nothing there is never more than one value for a path.
-/

namespace TagLint.ByPath

variable {α : Type} {m : ByPath α} {p : Text} {a : α}

theorem mem_of_find? (h : find? m p = some a) : (p, a) ∈ m := by
  obtain ⟨before, after, hm, -⟩ := List.lookup_eq_some_iff.mp h
  rw [hm]
  exact List.mem_append_right before List.mem_cons_self

theorem ne_of_find?_eq_none (h : find? m p = none) : ∀ e ∈ m, e.1 ≠ p := by
  intro e he hp
  have hne := List.lookup_eq_none_iff.mp h e he
  rw [hp] at hne
  simp at hne

theorem mem_erase {e : Text × α} : e ∈ erase m p ↔ e ∈ m ∧ e.1 ≠ p := by
  unfold erase
  rw [List.mem_filter, bne_iff_ne]

theorem mem_put {e : Text × α} : e ∈ put m p a ↔ (e ∈ m ∧ e.1 ≠ p) ∨ e = (p, a) := by
  unfold put
  rw [List.mem_append, mem_erase, List.mem_singleton]

/-! ## One value for each path -/

/-- No path has more than one value. -/
def IsFunctional (m : ByPath α) : Prop := (m.map (·.1)).Nodup

theorem isFunctional_nil : IsFunctional ([] : ByPath α) := List.nodup_nil

theorem IsFunctional.erase (h : IsFunctional m) (p : Text) : IsFunctional (erase m p) :=
  h.sublist (List.filter_sublist.map _)

theorem IsFunctional.put (h : IsFunctional m) (p : Text) (a : α) : IsFunctional (put m p a) := by
  unfold IsFunctional ByPath.put
  rw [List.map_append, List.nodup_append]
  refine ⟨h.erase p, List.nodup_singleton p, ?_⟩
  intro q hq r hr
  obtain ⟨e, he, rfl⟩ := List.mem_map.mp hq
  rw [List.mem_singleton.mp hr]
  exact (mem_erase.mp he).2

theorem IsFunctional.mem_iff (h : IsFunctional m) : (p, a) ∈ m ↔ find? m p = some a :=
  (Lists.lookup_eq_some_iff h).symm

/-- The values tell everything but the order. -/
theorem IsFunctional.perm_of_find?_eq {n : ByPath α} (hm : IsFunctional m) (hn : IsFunctional n)
    (h : ∀ p, find? m p = find? n p) : m.Perm n := by
  rw [List.perm_ext_iff_of_nodup hm.of_map hn.of_map]
  rintro ⟨p, a⟩
  rw [hm.mem_iff, hn.mem_iff, h]

end TagLint.ByPath
