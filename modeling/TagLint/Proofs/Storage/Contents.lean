import TagLint.Proofs.Storage.Tree
/-!
What the list of a folder tells. Links are followed, so an entry counts as a file if it is one or
leads to one. The list is made as a whole: there is one exactly if every link in the folder can be
looked up (`exists_list_eq_ok_iff`), and then it tells the files in the order of their names.
-/

namespace TagLint.Storage.Disk

variable {d : Disk} {trail : Trail} {folder name : Text} {es : List Entry}
  {listed : List (Text × Bool)}

/-- An item at a path is a file, or a link and its path leads to a file. -/
def CountsAsFile (d : Disk) (path : Text) (item : Item) : Prop :=
  (∃ bytes, item = .file bytes) ∨
    (∃ target, item = .link target) ∧ ∃ bytes, d.find path = .ok (.file bytes)

/-- An item at a path is a link that cannot be looked up, though it is not one to nothing: the links
lead in a circle, say, or through a file. -/
def IsStuck (d : Disk) (path : Text) (item : Item) : Prop :=
  (∃ target, item = .link target) ∧ ∃ fault, d.find path = .error fault ∧ fault ≠ .missing

/-- The folder at a path holds a file under this name, or a link to one. -/
def HoldsListed (d : Disk) (folder name : Text) : Prop :=
  ∃ item, d.Holds folder name item ∧ d.CountsAsFile (Path.join folder name) item

/-- The folder at a path holds a link under this name that cannot be looked up. -/
def HoldsStuck (d : Disk) (folder name : Text) : Prop :=
  ∃ item, d.Holds folder name item ∧ d.IsStuck (Path.join folder name) item

/-! ## One entry -/

theorem exists_target?_eq_ok_iff {e : Entry} :
    (∃ item, d.target? folder e = .ok item) ↔ ¬ d.IsStuck (Path.join folder e.name) e.item := by
  unfold target? IsStuck
  cases e.item with
  | file bytes => simp
  | folder => simp
  | link target =>
    dsimp only
    cases hfind : d.find (Path.join folder e.name) with
    | ok item => simp
    | error fault => cases fault <;> simp

theorem isFile_iff_of_target? {e : Entry} {item : Option Item}
    (h : d.target? folder e = .ok item) :
    isFile item = true ↔ d.CountsAsFile (Path.join folder e.name) e.item := by
  unfold target? at h
  unfold CountsAsFile
  cases hitem : e.item with
  | file bytes =>
    rw [hitem] at h
    cases h
    simp [isFile]
  | folder =>
    rw [hitem] at h
    cases h
    simp [isFile]
  | link target =>
    rw [hitem] at h
    dsimp only at h
    split at h
    · rename_i found hfind
      cases h
      rw [hfind]
      cases found <;> simp [isFile]
    · rename_i hfind
      cases h
      simp [isFile, hfind]
    · cases h

/-! ## The whole list -/

theorem list_eq_of_entries (h : d.entries folder = .ok (trail, es)) :
    d.list folder = es.mapM fun e => do
      let item ← d.target? folder e
      return (e.name, isFile item) := by
  unfold list
  rw [h, Traverse.ok_bind]

/-- A folder is listed exactly if it holds no link that cannot be looked up. -/
theorem exists_list_eq_ok_iff (htree : d.IsTree) (h : d.entries folder = .ok (trail, es)) :
    (∃ listed, d.list folder = .ok listed) ↔ ∀ name, ¬ d.HoldsStuck folder name := by
  have hentry : ∀ e : Entry, (∃ y, (d.target? folder e >>= fun item =>
      pure (e.name, isFile item)) = .ok y) ↔ ¬ d.IsStuck (Path.join folder e.name) e.item := by
    intro e
    rw [← exists_target?_eq_ok_iff]
    constructor
    · rintro ⟨y, hy⟩
      obtain ⟨item, hitem, -⟩ := Traverse.bind_eq_ok.mp hy
      exact ⟨item, hitem⟩
    · rintro ⟨item, hitem⟩
      exact ⟨_, Traverse.bind_eq_ok.mpr ⟨item, hitem, rfl⟩⟩
  rw [list_eq_of_entries h, Traverse.exists_mapM_eq_ok_iff]
  constructor
  · rintro hall name ⟨item, hitem, hstuck⟩
    exact (hentry _).mp (hall ⟨name, item⟩ ((htree.holds_iff h).mp hitem)) hstuck
  · intro hnone e he
    rw [hentry]
    exact fun hstuck => hnone e.name ⟨e.item, (htree.holds_iff h).mpr he, hstuck⟩

/-- What is listed stands in the order of the names. -/
theorem pairwise_of_list (htree : d.IsTree) (h : d.entries folder = .ok (trail, es))
    (hlist : d.list folder = .ok listed) : (listed.map (·.1)).Pairwise Text.Before := by
  have hnames : listed.map (·.1) = es.map (·.name) := by
    rw [list_eq_of_entries h] at hlist
    refine Traverse.map_eq_of_mapM_eq_ok hlist fun e y hentry => ?_
    obtain ⟨item, -, hentry⟩ := Traverse.bind_eq_ok.mp hentry
    cases hentry
    rfl
  obtain ⟨-, -, rfl⟩ := entries_eq_ok_iff.mp h
  rw [hnames]
  exact htree.pairwise_entriesAt trail

/-- What is listed as a file is one, or a link to one. -/
theorem mem_list_iff (htree : d.IsTree) (h : d.entries folder = .ok (trail, es))
    (hlist : d.list folder = .ok listed) :
    (name, true) ∈ listed ↔ d.HoldsListed folder name := by
  rw [list_eq_of_entries h] at hlist
  rw [Traverse.mem_of_mapM_eq_ok hlist]
  constructor
  · rintro ⟨e, he, hentry⟩
    obtain ⟨item, hitem, hentry⟩ := Traverse.bind_eq_ok.mp hentry
    obtain ⟨rfl, hfile⟩ := Prod.mk.inj (Except.ok.inj hentry)
    exact ⟨e.item, (htree.holds_iff h).mpr he, (isFile_iff_of_target? hitem).mp hfile⟩
  · rintro ⟨item, hitem, hfile⟩
    have he := (htree.holds_iff h).mp hitem
    obtain ⟨y, hy⟩ := (Traverse.exists_mapM_eq_ok_iff _ es).mp ⟨listed, hlist⟩ _ he
    obtain ⟨found, hfound, -⟩ := Traverse.bind_eq_ok.mp hy
    refine ⟨_, he, Traverse.bind_eq_ok.mpr ⟨found, hfound, ?_⟩⟩
    rw [(isFile_iff_of_target? hfound).mpr hfile]
    rfl

end TagLint.Storage.Disk
