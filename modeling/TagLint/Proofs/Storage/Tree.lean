import TagLint.Storage.Disk
import TagLint.Proofs.Path.Normal
import TagLint.Proofs.Text.Order
import TagLint.Proofs.Traverse
/-!
Disks that are trees: every trail stands once and is made of names. The entries of a folder are then
the items one name further down, each under a name of its own, in the order of the names.
-/

namespace TagLint.Storage.Disk

variable {d : Disk} {trail : Trail} {folder name : Text} {es : List Entry} {item : Item}

/-- Every trail of a tree stands once and is made of names. -/
structure IsTree (d : Disk) : Prop where
  nodup : (d.items.map (·.1)).Nodup
  names : ∀ e ∈ d.items, ∀ s ∈ e.1, Path.IsName s

theorem IsTree.item?_eq_some_iff (h : d.IsTree) {name : Text} {item : Item} :
    d.item? (trail ++ [name]) = some item ↔ (trail ++ [name], item) ∈ d.items := by
  unfold item?
  rw [if_neg (by simp), Lists.lookup_eq_some_iff h.nodup]

theorem IsTree.isName (h : d.IsTree) {name : Text} {item : Item}
    (hitem : d.item? (trail ++ [name]) = some item) : Path.IsName name :=
  h.names _ (h.item?_eq_some_iff.mp hitem) name (List.mem_append_right trail List.mem_cons_self)

/-! ## Entries -/

theorem nameIn?_eq_some_iff {folder : Trail} {name : Text} :
    nameIn? folder trail = some name ↔ trail = folder ++ [name] := by
  unfold nameIn?
  rcases List.eq_nil_or_concat trail with rfl | ⟨front, last, rfl⟩
  · simp
  · simp [List.append_singleton_inj]

/-- The entries of a folder are the items one name further down. -/
theorem IsTree.mem_entriesAt (h : d.IsTree) {e : Entry} :
    e ∈ d.entriesAt trail ↔ d.item? (trail ++ [e.name]) = some e.item := by
  unfold entriesAt
  rw [Text.mem_sortBy, List.mem_filterMap, h.item?_eq_some_iff]
  constructor
  · rintro ⟨⟨t, item⟩, hmem, hentry⟩
    obtain ⟨name, hname, rfl⟩ := Option.map_eq_some_iff.mp hentry
    rw [← nameIn?_eq_some_iff.mp hname]
    exact hmem
  · intro hmem
    refine ⟨(trail ++ [e.name], e.item), hmem, ?_⟩
    dsimp only
    rw [nameIn?_eq_some_iff.mpr rfl, Option.map_some]

/-- The names that follow a trail on the disk, in the order of the items. -/
theorem IsTree.nodup_names (h : d.IsTree) (folder : Trail) :
    ((d.items.filterMap fun (trail, item) =>
      (nameIn? folder trail).map fun name => ({ name, item } : Entry)).map (·.name)).Nodup := by
  have hnames : ((d.items.map (·.1)).filterMap (nameIn? folder)).Nodup := by
    refine h.nodup.filterMap ?_
    intro t t' name ht ht'
    rw [nameIn?_eq_some_iff.mp ht, nameIn?_eq_some_iff.mp ht']
  rw [List.filterMap_map] at hnames
  rw [List.map_filterMap]
  simpa [Function.comp_def] using hnames

theorem IsTree.pairwise_entriesAt (h : d.IsTree) (folder : Trail) :
    ((d.entriesAt folder).map (·.name)).Pairwise Text.Before :=
  Text.pairwise_sortBy (h.nodup_names folder)

theorem entries_eq_ok_iff :
    d.entries folder = .ok (trail, es) ↔
      d.locate true folder = .ok trail ∧ d.item? trail = some .folder ∧ es = d.entriesAt trail := by
  unfold entries
  constructor
  · intro h
    obtain ⟨trail', htrail, h⟩ := Traverse.bind_eq_ok.mp h
    split at h
    · cases h
    · rename_i hfolder
      cases h
      exact ⟨htrail, hfolder, rfl⟩
    · cases h
  · rintro ⟨htrail, hfolder, rfl⟩
    rw [htrail, Traverse.ok_bind, hfolder]
    rfl

/-! ## What the folder at a path holds -/

/-- The path leads to a folder in which this item stands under this name. -/
def Holds (d : Disk) (folder name : Text) (item : Item) : Prop :=
  ∃ trail, d.locate true folder = .ok trail ∧ d.item? trail = some .folder ∧
    d.item? (trail ++ [name]) = some item

theorem Holds.isName (h : d.Holds folder name item) (htree : d.IsTree) : Path.IsName name := by
  obtain ⟨trail, -, -, hitem⟩ := h
  exact htree.isName hitem

theorem Holds.exists_entries (h : d.Holds folder name item) :
    ∃ trail es, d.entries folder = .ok (trail, es) := by
  obtain ⟨trail, htrail, hfolder, -⟩ := h
  exact ⟨trail, _, entries_eq_ok_iff.mpr ⟨htrail, hfolder, rfl⟩⟩

theorem IsTree.holds_iff (htree : d.IsTree) (h : d.entries folder = .ok (trail, es)) :
    d.Holds folder name item ↔ ⟨name, item⟩ ∈ es := by
  obtain ⟨htrail, hfolder, rfl⟩ := entries_eq_ok_iff.mp h
  rw [htree.mem_entriesAt]
  constructor
  · rintro ⟨trail', htrail', -, hitem⟩
    rw [htrail] at htrail'
    cases htrail'
    exact hitem
  · exact fun hitem => ⟨trail, htrail, hfolder, hitem⟩

end TagLint.Storage.Disk
