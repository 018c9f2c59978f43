import TagLint.Index
import TagLint.Proofs.Text.Order
/-!
The groups of an index, seen from all its entries. Each entry is in the one group of its key. If no
two entries have the same place, then the groups are sorted strictly, and they depend on which
entries there are and not on the order in which they are kept.
-/

namespace TagLint.Index

/-! ## The order of entries -/

/-- An entry comes before another one, by path and then by line. -/
def Entry.Before (a b : Entry) : Prop :=
  Text.Before a.path b.path ∨ a.path = b.path ∧ a.line < b.line

/-- An entry is the only one on its line. -/
def HasDistinctPlaces (es : List Entry) : Prop :=
  ∀ a ∈ es, ∀ b ∈ es, a.path = b.path → a.line = b.line → a = b

theorem Entry.le_trans (a b c : Entry) (hab : le a b = true) (hbc : le b c = true) :
    le a c = true := by
  unfold le at hab hbc ⊢
  split at hab
  · rename_i hpath
    rw [← hpath] at hbc
    split at hbc
    · rename_i hpath'
      rw [if_pos hpath']
      rw [decide_eq_true_iff] at hab hbc ⊢
      exact Nat.le_trans hab hbc
    · rename_i hpath'
      rw [if_neg hpath']
      exact hbc
  · rename_i hpath
    split at hbc
    · rename_i hpath'
      rw [← hpath', if_neg hpath]
      exact hab
    · split
      · rename_i hpath' hpath''
        rw [← hpath''] at hbc
        exact absurd (Text.le_antisymm hab hbc) hpath
      · exact Text.le_trans _ _ _ hab hbc

theorem Entry.le_total (a b : Entry) : (le a b || le b a) = true := by
  unfold le
  by_cases h : a.path = b.path
  · rw [if_pos h, if_pos h.symm, Bool.or_eq_true, decide_eq_true_iff, decide_eq_true_iff]
    exact Nat.le_total a.line b.line
  · rw [if_neg h, if_neg (Ne.symm h)]
    exact Text.le_total a.path b.path

theorem HasDistinctPlaces.tellsApart {es : List Entry} (h : HasDistinctPlaces es) :
    Lists.TellsApart Entry.le es := by
  intro a ha b hb hab hba
  unfold Entry.le at hab hba
  by_cases hpath : a.path = b.path
  · rw [if_pos hpath, decide_eq_true_iff] at hab
    rw [if_pos hpath.symm, decide_eq_true_iff] at hba
    exact h a ha b hb hpath (Nat.le_antisymm hab hba)
  · rw [if_neg hpath] at hab
    rw [if_neg (Ne.symm hpath)] at hba
    exact absurd (Text.le_antisymm hab hba) hpath

theorem HasDistinctPlaces.filter {es : List Entry} (h : HasDistinctPlaces es)
    (keep : Entry → Bool) : HasDistinctPlaces (es.filter keep) := fun a ha b hb =>
  h a (List.mem_filter.mp ha).1 b (List.mem_filter.mp hb).1

theorem pairwise_before_mergeSort {es : List Entry} (hnodup : es.Nodup)
    (h : HasDistinctPlaces es) : (es.mergeSort Entry.le).Pairwise Entry.Before := by
  have hsorted := Lists.pairwise_mergeSort_of_nodup Entry.le_trans Entry.le_total hnodup
  refine hsorted.imp_of_mem ?_
  rintro a b ha hb ⟨hle, hne⟩
  unfold Entry.le at hle
  split at hle
  · rename_i hpath
    have hline : a.line ≠ b.line := fun hline =>
      hne (h a (List.mem_mergeSort.mp ha) b (List.mem_mergeSort.mp hb) hpath hline)
    have hle := of_decide_eq_true hle
    exact Or.inr ⟨hpath, by omega⟩
  · rename_i hpath
    exact Or.inl ⟨hle, hpath⟩

/-! ## Groups -/

section Groups

variable {i j : Index}

theorem mem_usedKeys {key : Text} : key ∈ i.usedKeys ↔ ∃ e ∈ i.all, e.key = key := by
  unfold usedKeys
  rw [Text.mem_sortBy, List.mem_eraseDups, List.mem_map]

theorem pairwise_usedKeys (i : Index) : i.usedKeys.Pairwise Text.Before := by
  have hkeys := Lists.nodup_eraseDups (i.all.map (·.key))
  rw [← List.map_id (List.eraseDups _)] at hkeys
  have hsorted := Text.pairwise_sortBy hkeys
  rw [List.map_id] at hsorted
  exact hsorted

theorem map_key_groups (i : Index) : i.groups.map (·.key) = i.usedKeys := by
  unfold groups
  rw [List.map_map]
  exact List.map_id _

theorem entries_of_mem_groups {g : Group} (h : g ∈ i.groups) :
    g.entries = (i.all.filter (·.key = g.key)).mergeSort Entry.le := by
  obtain ⟨key, -, rfl⟩ := List.mem_map.mp h
  rfl

theorem mem_entries_of_mem_groups {g : Group} (h : g ∈ i.groups) {e : Entry} :
    e ∈ g.entries ↔ e ∈ i.all ∧ e.key = g.key := by
  rw [entries_of_mem_groups h, List.mem_mergeSort, List.mem_filter, decide_eq_true_iff]

theorem exists_mem_groups_iff {e : Entry} : (∃ g ∈ i.groups, e ∈ g.entries) ↔ e ∈ i.all := by
  constructor
  · rintro ⟨g, hg, he⟩
    exact ((mem_entries_of_mem_groups hg).mp he).1
  · intro he
    have hkey : e.key ∈ i.groups.map (·.key) := by
      rw [map_key_groups]
      exact mem_usedKeys.mpr ⟨e, he, rfl⟩
    obtain ⟨g, hg, hsame⟩ := List.mem_map.mp hkey
    exact ⟨g, hg, (mem_entries_of_mem_groups hg).mpr ⟨he, hsame.symm⟩⟩

theorem entries_ne_nil_of_mem_groups {g : Group} (h : g ∈ i.groups) : g.entries ≠ [] := by
  have hkey : g.key ∈ i.usedKeys := by
    rw [← map_key_groups]
    exact List.mem_map_of_mem h
  obtain ⟨e, he, hsame⟩ := mem_usedKeys.mp hkey
  exact List.ne_nil_of_mem ((mem_entries_of_mem_groups h).mpr ⟨he, hsame⟩)

theorem nodup_flatMap_groups (hnodup : i.all.Nodup) : (i.groups.flatMap (·.entries)).Nodup := by
  have hkeys : (i.groups.map (·.key)).Nodup := by
    rw [map_key_groups]
    exact (pairwise_usedKeys i).imp And.right
  refine Lists.flatMap_nodup hkeys.of_map (fun g hg => ?_) fun g hg g' hg' e he he' => ?_
  · rw [entries_of_mem_groups hg, (List.mergeSort_perm _ _).nodup_iff]
    exact hnodup.filter _
  · have hkey := ((mem_entries_of_mem_groups hg).mp he).2
    have hkey' := ((mem_entries_of_mem_groups hg').mp he').2
    exact List.inj_on_of_nodup_map hkeys hg hg' (hkey.symm.trans hkey')

theorem groups_eq_of_perm (h : i.all.Perm j.all) (hplaces : HasDistinctPlaces i.all) :
    i.groups = j.groups := by
  have hused : i.usedKeys = j.usedKeys := by
    have hkeys : ((i.all.map (·.key)).eraseDups).Perm (j.all.map (·.key)).eraseDups := by
      rw [List.perm_ext_iff_of_nodup (Lists.nodup_eraseDups _) (Lists.nodup_eraseDups _)]
      intro key
      rw [List.mem_eraseDups, List.mem_eraseDups, (h.map _).mem_iff]
    have hnodup : ((i.all.map (·.key)).eraseDups.map id).Nodup := by
      rw [List.map_id]
      exact Lists.nodup_eraseDups _
    exact Text.sortBy_eq_of_perm hnodup hkeys
  unfold groups
  rw [hused]
  refine List.map_congr_left fun key _ => ?_
  congr 1
  exact Lists.mergeSort_eq_of_perm Entry.le_trans Entry.le_total (h.filter _)
    (hplaces.filter _).tellsApart

end Groups

end TagLint.Index
