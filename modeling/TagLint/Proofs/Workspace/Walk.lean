import TagLint.Proofs.Storage.Follow
import TagLint.Proofs.Storage.Tree
import TagLint.Proofs.Workspace.Documents
import Mathlib.Data.List.Perm.Subperm
/-!
The files that a walk reaches. On a disk that is a tree the walk below a root folder and the opening
of what it reaches come to the files that the root leads down to through folders whose names are
not excluded, that are small enough and that hold a text: no such file is missed, and there are no
others (`mem_walk_and_isEligible_iff`).
-/

namespace TagLint

namespace Storage.Disk

variable {d : Disk} {excluded : List Text} {skips : Text → Prop} {trail : Trail}
  {names : List Text} {folder p : Text}

/-! ## Leading down -/

/-- Names lead down from a folder to an entry, through folders none of which is skipped. -/
inductive LeadsDown (d : Disk) (skips : Text → Prop) : Trail → List Text → Prop
  | entry {trail : Trail} {name : Text} {item : Item}
      (hitem : d.item? (trail ++ [name]) = some item) : LeadsDown d skips trail [name]
  | folder {trail : Trail} {name : Text} {rest : List Text}
      (hfolder : d.item? (trail ++ [name]) = some .folder) (hname : ¬ skips name)
      (hrest : LeadsDown d skips (trail ++ [name]) rest) : LeadsDown d skips trail (name :: rest)

theorem LeadsDown.ne_nil (h : d.LeadsDown skips trail names) : names ≠ [] := by
  cases h <;> exact List.cons_ne_nil _ _

theorem LeadsDown.isName (h : d.LeadsDown skips trail names) (htree : d.IsTree) :
    ∀ s ∈ names, Path.IsName s := by
  induction h with
  | entry hitem => exact List.forall_mem_singleton.mpr (htree.isName hitem)
  | folder hfolder _ _ ih => exact List.forall_mem_cons.mpr ⟨htree.isName hfolder, ih⟩

/-- The trails of the items on a way down. -/
def trailsBelow : Trail → List Text → List Trail
  | _, [] => []
  | trail, name :: rest => (trail ++ [name]) :: trailsBelow (trail ++ [name]) rest

theorem length_trailsBelow (trail : Trail) (names : List Text) :
    (trailsBelow trail names).length = names.length := by
  induction names generalizing trail with
  | nil => rfl
  | cons name rest ih => rw [trailsBelow, List.length_cons, List.length_cons, ih]

theorem length_lt_of_mem_trailsBelow {t : Trail} (h : t ∈ trailsBelow trail names) :
    trail.length < t.length := by
  induction names generalizing trail with
  | nil => cases h
  | cons name rest ih =>
    have hlength : (trail ++ [name]).length = trail.length + 1 := List.length_append
    rw [trailsBelow, List.mem_cons] at h
    rcases h with rfl | h
    · omega
    · have := ih h
      omega

theorem nodup_trailsBelow (trail : Trail) (names : List Text) :
    (trailsBelow trail names).Nodup := by
  induction names generalizing trail with
  | nil => exact List.nodup_nil
  | cons name rest ih =>
    rw [trailsBelow, List.nodup_cons]
    exact ⟨fun hmem => Nat.lt_irrefl _ (length_lt_of_mem_trailsBelow hmem), ih _⟩

theorem LeadsDown.trailsBelow_subset (h : d.LeadsDown skips trail names) (htree : d.IsTree) :
    trailsBelow trail names ⊆ d.items.map (·.1) := by
  induction h with
  | entry hitem =>
    rw [trailsBelow, trailsBelow, List.cons_subset]
    exact ⟨List.mem_map_of_mem (htree.item?_eq_some_iff.mp hitem), List.nil_subset _⟩
  | folder hfolder _ _ ih =>
    rw [trailsBelow, List.cons_subset]
    exact ⟨List.mem_map_of_mem (htree.item?_eq_some_iff.mp hfolder), ih⟩

/-- No way down is longer than the disk has items. -/
theorem LeadsDown.length_le (h : d.LeadsDown skips trail names) (htree : d.IsTree) :
    names.length ≤ d.items.length := by
  have hle :=
    (List.Nodup.subperm (nodup_trailsBelow trail names) (h.trailsBelow_subset htree)).length_le
  rwa [length_trailsBelow, List.length_map] at hle

theorem LeadsDown.exists_item (h : d.LeadsDown skips trail names) :
    ∃ item, d.item? (trail ++ names) = some item := by
  induction h with
  | entry hitem => exact ⟨_, hitem⟩
  | folder _ _ _ ih =>
    rw [List.append_cons]
    exact ih

/-- A folder that names lead down to is found under its own trail. -/
theorem LeadsDown.locate_eq {last : Trail} (h : d.LeadsDown skips trail names) (htree : d.IsTree)
    (htrail : d.locate true folder = .ok trail)
    (hlast : d.locate true (names.foldl Path.join folder) = .ok last)
    (hitem : d.item? (trail ++ names) = some .folder) : last = trail ++ names := by
  induction h generalizing folder with
  | entry hentry => exact locate_join_folder (htree.isName hentry) htrail hitem hlast
  | folder hfolder _ hrest ih =>
    have hname := htree.isName hfolder
    rw [List.append_cons] at hitem ⊢
    obtain ⟨next, hnext, -⟩ := exists_locate_of_foldl_join
      (Path.join_ne_nil (ne_nil_of_locate htrail) _) (hrest.isName htree) hrest.ne_nil hlast
    rw [locate_join_folder hname htrail hfolder hnext] at hnext
    exact ih hnext hlast hitem

/-! ## What a walk reaches -/

/-- An item at a path is a folder, or a link and its path leads to a folder. -/
def CountsAsFolder (d : Disk) (path : Text) (item : Item) : Prop :=
  item = .folder ∨ (∃ target, item = .link target) ∧ d.find path = .ok .folder

/-- The folder at a path holds an entry under this name that counts as no folder. -/
def HoldsFile (d : Disk) (folder name : Text) : Prop :=
  ∃ item, d.Holds folder name item ∧ ¬ d.CountsAsFolder (Path.join folder name) item

/-- From the folder at a path names lead to a file in it, or through a folder in it that is not
skipped. -/
inductive Reaches (d : Disk) (skips : Text → Prop) : Text → List Text → Prop
  | file {folder name : Text} (h : d.HoldsFile folder name) : Reaches d skips folder [name]
  | folder {folder name : Text} {rest : List Text} (hfolder : d.Holds folder name .folder)
      (hname : ¬ skips name) (hrest : Reaches d skips (Path.join folder name) rest) :
      Reaches d skips folder (name :: rest)

theorem Reaches.ne_nil (h : d.Reaches skips folder names) : names ≠ [] := by
  cases h <;> exact List.cons_ne_nil _ _

theorem Reaches.isName (h : d.Reaches skips folder names) (htree : d.IsTree) :
    ∀ s ∈ names, Path.IsName s := by
  induction h with
  | file h =>
    obtain ⟨item, hitem, -⟩ := h
    exact List.forall_mem_singleton.mpr (hitem.isName htree)
  | folder hfolder _ _ ih => exact List.forall_mem_cons.mpr ⟨hfolder.isName htree, ih⟩

/-- What is reached are the entries that names lead down to, if the folder that they are in is found
under its path. -/
theorem reaches_iff (htree : d.IsTree) :
    d.Reaches skips folder names ↔
      ∃ trail item, d.locate true folder = .ok trail ∧ d.item? trail = some .folder ∧
        d.LeadsDown skips trail names ∧ d.item? (trail ++ names) = some item ∧
        ¬ d.CountsAsFolder (names.foldl Path.join folder) item ∧
        ∃ last, d.locate true (names.dropLast.foldl Path.join folder) = .ok last := by
  constructor
  · intro h
    induction h with
    | file h =>
      obtain ⟨item, ⟨trail, htrail, hfolder, hitem⟩, hfile⟩ := h
      exact ⟨trail, item, htrail, hfolder, .entry hitem, hitem, hfile, trail, htrail⟩
    | folder hfolder hname hrest ih =>
      obtain ⟨trail, htrail, htop, hentry⟩ := hfolder
      obtain ⟨next, item, hnext, -, hdown, hitem, hfile, hlast⟩ := ih
      rw [locate_join_folder (htree.isName hentry) htrail hentry hnext] at hdown hitem
      refine ⟨trail, item, htrail, htop, .folder hentry hname hdown, ?_, hfile, ?_⟩
      · rw [List.append_cons]
        exact hitem
      · rw [List.dropLast_cons_of_ne_nil hrest.ne_nil]
        exact hlast
  · rintro ⟨trail, item, htrail, htop, hdown, hitem, hfile, last, hlast⟩
    induction hdown generalizing folder with
    | entry _ => exact .file ⟨item, ⟨_, htrail, htop, hitem⟩, hfile⟩
    | @folder trail name rest hfolder hname hrest ih =>
      rw [List.dropLast_cons_of_ne_nil hrest.ne_nil, List.foldl_cons] at hlast
      rw [List.append_cons] at hitem
      obtain ⟨next, hnext⟩ : ∃ next, d.locate true (Path.join folder name) = .ok next := by
        by_cases hnil : rest.dropLast = []
        · rw [hnil] at hlast
          exact ⟨last, hlast⟩
        · obtain ⟨next, hnext, -⟩ := exists_locate_of_foldl_join
            (Path.join_ne_nil (ne_nil_of_locate htrail) name)
            (fun s hs => hrest.isName htree s (List.dropLast_subset rest hs)) hnil hlast
          exact ⟨next, hnext⟩
      rw [locate_join_folder (htree.isName hfolder) htrail hfolder hnext] at hnext
      exact .folder ⟨trail, htrail, htop, hfolder⟩ hname (ih hnext hfolder hitem hfile hlast)

/-! ## Walking down -/

theorem leadsToFolder_iff {e : Entry} :
    d.leadsToFolder folder e = true ↔ d.CountsAsFolder (Path.join folder e.name) e.item := by
  unfold leadsToFolder target? CountsAsFolder
  cases e.item with
  | file bytes => simp
  | folder => simp
  | link target =>
    dsimp only
    cases hfind : d.find (Path.join folder e.name) with
    | error fault => cases fault <;> simp
    | ok item => cases item <;> simp

/-- The names in a folder that count as no folders. -/
def filesIn (d : Disk) (folder : Text) : List Text :=
  match d.entries folder with
  | .error _ => []
  | .ok (_, es) => (es.filter fun e => !d.leadsToFolder folder e).map (·.name)

/-- The names of the folders in a folder that are not excluded. -/
def foldersIn (d : Disk) (excluded : List Text) (folder : Text) : List Text :=
  match d.entries folder with
  | .error _ => []
  | .ok (_, es) => (es.filter fun e => e.item == .folder && !excluded.contains e.name).map (·.name)

theorem walkDown_succ (depth : Nat) :
    d.walkDown excluded (depth + 1) folder =
      (d.filesIn folder).map (Path.join folder) ++ (d.foldersIn excluded folder).flatMap
        fun name => d.walkDown excluded depth (Path.join folder name) := by
  rw [walkDown]
  unfold filesIn foldersIn
  cases d.entries folder with
  | error fault => rfl
  | ok found =>
    dsimp only
    rw [List.map_map, List.flatMap_map]
    rfl

theorem not_holds_of_entries {fault : Fault} (h : d.entries folder = .error fault) (name : Text)
    (item : Item) : ¬ d.Holds folder name item := by
  intro hholds
  obtain ⟨trail, es, hentries⟩ := hholds.exists_entries
  rw [h] at hentries
  cases hentries

theorem mem_filesIn (htree : d.IsTree) {name : Text} :
    name ∈ d.filesIn folder ↔ d.HoldsFile folder name := by
  unfold filesIn HoldsFile
  cases hentries : d.entries folder with
  | error fault => simp [not_holds_of_entries hentries]
  | ok found =>
    obtain ⟨trail, es⟩ := found
    dsimp only
    rw [List.mem_map]
    constructor
    · rintro ⟨e, he, rfl⟩
      rw [List.mem_filter, Bool.not_eq_true', ← Bool.not_eq_true, leadsToFolder_iff] at he
      exact ⟨e.item, (htree.holds_iff hentries).mpr he.1, he.2⟩
    · rintro ⟨item, hitem, hfile⟩
      refine ⟨⟨name, item⟩, ?_, rfl⟩
      rw [List.mem_filter, Bool.not_eq_true', ← Bool.not_eq_true, leadsToFolder_iff]
      exact ⟨(htree.holds_iff hentries).mp hitem, hfile⟩

theorem mem_foldersIn (htree : d.IsTree) {name : Text} :
    name ∈ d.foldersIn excluded folder ↔ d.Holds folder name .folder ∧ name ∉ excluded := by
  unfold foldersIn
  cases hentries : d.entries folder with
  | error fault => simp [not_holds_of_entries hentries]
  | ok found =>
    obtain ⟨trail, es⟩ := found
    dsimp only
    rw [List.mem_map]
    constructor
    · rintro ⟨e, he, rfl⟩
      rw [List.mem_filter, Bool.and_eq_true, beq_iff_eq] at he
      obtain ⟨he, hfolder, hname⟩ := he
      exact ⟨(htree.holds_iff hentries).mpr (hfolder ▸ he), by simpa using hname⟩
    · rintro ⟨hfolder, hname⟩
      refine ⟨⟨name, .folder⟩, ?_, rfl⟩
      rw [List.mem_filter, Bool.and_eq_true, beq_iff_eq]
      exact ⟨(htree.holds_iff hentries).mp hfolder, rfl, by simpa using hname⟩

theorem mem_walkDown_succ (htree : d.IsTree) {depth : Nat} :
    p ∈ d.walkDown excluded (depth + 1) folder ↔
      (∃ name, d.HoldsFile folder name ∧ p = Path.join folder name) ∨
      ∃ name, d.Holds folder name .folder ∧ name ∉ excluded ∧
        p ∈ d.walkDown excluded depth (Path.join folder name) := by
  rw [walkDown_succ, List.mem_append, List.mem_map, List.mem_flatMap]
  simp only [mem_filesIn htree, mem_foldersIn htree, and_assoc, eq_comm]

/-- A walk comes to what is reached in no more steps than it goes down. -/
theorem mem_walkDown_iff (htree : d.IsTree) {depth : Nat} :
    p ∈ d.walkDown excluded depth folder ↔
      ∃ names, d.Reaches (· ∈ excluded) folder names ∧ names.length ≤ depth ∧
        p = names.foldl Path.join folder := by
  induction depth generalizing folder with
  | zero =>
    rw [walkDown]
    refine iff_of_false List.not_mem_nil ?_
    rintro ⟨names, hreaches, hlength, -⟩
    exact hreaches.ne_nil (List.length_eq_zero_iff.mp (Nat.le_zero.mp hlength))
  | succ depth ih =>
    rw [mem_walkDown_succ htree]
    constructor
    · rintro (⟨name, hfile, rfl⟩ | ⟨name, hfolder, hname, hp⟩)
      · exact ⟨[name], .file hfile, Nat.succ_le_succ (Nat.zero_le _), rfl⟩
      · obtain ⟨names, hreaches, hlength, rfl⟩ := ih.mp hp
        exact ⟨name :: names, .folder hfolder hname hreaches, Nat.succ_le_succ hlength, rfl⟩
    · rintro ⟨names, hreaches, hlength, rfl⟩
      cases hreaches with
      | file h => exact Or.inl ⟨_, h, rfl⟩
      | folder hfolder hname hrest =>
        exact Or.inr ⟨_, hfolder, hname, ih.mpr ⟨_, hrest, Nat.le_of_succ_le_succ hlength, rfl⟩⟩

/-- The walk goes down far enough to come to all that is reached. -/
theorem mem_walkDown_length_iff (htree : d.IsTree) :
    p ∈ d.walkDown excluded (d.items.length + 1) folder ↔
      ∃ names, d.Reaches (· ∈ excluded) folder names ∧ p = names.foldl Path.join folder := by
  rw [mem_walkDown_iff htree]
  constructor
  · rintro ⟨names, hreaches, -, hp⟩
    exact ⟨names, hreaches, hp⟩
  · rintro ⟨names, hreaches, hp⟩
    obtain ⟨trail, item, -, -, hdown, -⟩ := (reaches_iff htree).mp hreaches
    exact ⟨names, hreaches, (hdown.length_le htree).trans (Nat.le_succ _), hp⟩

/-- A file that names lead down to is reached. -/
theorem reaches_of_find (htree : d.IsTree) {bytes : List UInt8}
    (htrail : d.locate true folder = .ok trail) (hdown : d.LeadsDown skips trail names)
    (hfile : d.find (names.foldl Path.join folder) = .ok (.file bytes)) :
    d.Reaches skips folder names := by
  have hfolder := ne_nil_of_locate htrail
  have hnames := hdown.isName htree
  obtain ⟨last, hlast, hbytes⟩ := d.exists_locate_of_find hfile
  obtain ⟨trail', htrail', htop⟩ :=
    exists_locate_of_foldl_join hfolder hnames hdown.ne_nil hlast
  rw [htrail] at htrail'
  cases htrail'
  obtain ⟨item, hitem⟩ := hdown.exists_item
  refine (reaches_iff htree).mpr ⟨trail, item, htrail, htop, hdown, hitem, ?_, ?_⟩
  · rintro (rfl | ⟨-, hfind⟩)
    · rw [hdown.locate_eq htree htrail hlast hitem, hitem] at hbytes
      cases hbytes
    · rw [hfile] at hfind
      cases hfind
  · obtain ⟨front, name, rfl⟩ := List.eq_nil_or_concat names |>.resolve_left hdown.ne_nil
    rw [List.concat_eq_append] at hnames hlast ⊢
    rw [List.dropLast_concat]
    rw [List.foldl_append, List.foldl_cons, List.foldl_nil] at hlast
    rw [List.forall_mem_append, List.forall_mem_singleton] at hnames
    have hfront : front.foldl Path.join folder ≠ [] := by
      obtain ⟨rest, hrest⟩ := Path.isPrefix_foldl_join folder hnames.1
      rw [← hrest]
      simp [hfolder]
    obtain ⟨inner, hinner, -⟩ := exists_locate_of_join hfront hnames.2 hlast
    exact ⟨inner, hinner⟩

theorem eq_walkDown_of_walk {ps : List Text} (h : d.walk excluded folder = .ok ps) :
    ps = d.walkDown excluded (d.items.length + 1) folder := by
  unfold walk at h
  split at h
  · cases h
  · cases h
    rfl

end Storage.Disk

namespace Workspace

variable {disk : Storage.Disk} {limits : Settings.Limits} {p : Text} {d : Document}

/-- A scan of a root folder looks at this document: the file is one to which the root leads down
through folders whose names are not excluded, it is small enough, and it holds a text. -/
def IsScanned (disk : Storage.Disk) (limits : Settings.Limits) (root p : Text) (d : Document) :
    Prop :=
  ∃ trail names, disk.locate true root = .ok trail ∧
    disk.LeadsDown (fun name => .text name ∈ limits.excluded) trail names ∧
    p = names.foldl Path.join root ∧ IsEligible disk limits p d

theorem mem_excludedNames {excluded : List Text} (h : limits.excludedNames = .ok excluded)
    (name : Text) : name ∈ excluded ↔ .text name ∈ limits.excluded := by
  unfold Settings.Limits.excludedNames at h
  split at h
  · cases h
  · cases h
    rw [List.mem_filterMap]
    constructor
    · rintro ⟨v, hv, hname⟩
      split at hname
      · cases hname
        exact hv
      · cases hname
    · exact fun hv => ⟨_, hv, rfl⟩

/-- The files of a workspace are those below its root folders, folder by folder. -/
theorem exists_eq_flatMap_of_walk {w : Workspace} {paths : List Text}
    (h : w.walk disk limits = .ok paths) :
    ∃ excluded, (w.folders ≠ [] → limits.excludedNames = .ok excluded) ∧
      paths = w.folders.flatMap (disk.walkDown excluded (disk.items.length + 1)) := by
  unfold walk at h
  split at h
  · rename_i hnone
    cases h
    rw [List.isEmpty_iff] at hnone
    refine ⟨[], fun hsome => absurd hnone hsome, ?_⟩
    rw [hnone, List.flatMap_nil]
  · obtain ⟨excluded, hexcluded, h⟩ := Traverse.bind_eq_ok.mp h
    obtain ⟨found, hfound, h⟩ := Traverse.bind_eq_ok.mp h
    cases h
    refine ⟨excluded, fun _ => hexcluded, ?_⟩
    have hwalks := Traverse.map_eq_of_mapM_eq_ok hfound fun _ _ h =>
      Storage.Disk.eq_walkDown_of_walk h
    rw [List.map_id'] at hwalks
    rw [hwalks, List.flatMap_def]

/-- The walk below a folder and the opening of what it reaches miss no file that is to be scanned,
and come to no other. -/
theorem mem_walkDown_and_isEligible_iff (htree : disk.IsTree) {excluded : List Text}
    (hexcluded : limits.excludedNames = .ok excluded) {root : Text} :
    p ∈ disk.walkDown excluded (disk.items.length + 1) root ∧ IsEligible disk limits p d ↔
      IsScanned disk limits root p d := by
  have hskips : (fun name => name ∈ excluded) = fun name => .text name ∈ limits.excluded := by
    funext name
    exact propext (mem_excludedNames hexcluded name)
  rw [Storage.Disk.mem_walkDown_length_iff htree, hskips]
  constructor
  · rintro ⟨⟨names, hreaches, hp⟩, heligible⟩
    obtain ⟨trail, -, htrail, -, hdown, -⟩ := (Storage.Disk.reaches_iff htree).mp hreaches
    exact ⟨trail, names, htrail, hdown, hp, heligible⟩
  · rintro ⟨trail, names, htrail, hdown, rfl, heligible⟩
    have ⟨bytes, text, hfile, _⟩ := heligible
    exact ⟨⟨names, Storage.Disk.reaches_of_find htree htrail hdown hfile, rfl⟩, heligible⟩

/-- The same for the walk of a workspace with a single root folder. -/
theorem mem_walk_and_isEligible_iff {w : Workspace} {root : Text} {paths : List Text}
    (htree : disk.IsTree) (hfolders : w.folders = [root])
    (hwalk : w.walk disk limits = .ok paths) :
    p ∈ paths ∧ IsEligible disk limits p d ↔ IsScanned disk limits root p d := by
  obtain ⟨excluded, hexcluded, hpaths⟩ := exists_eq_flatMap_of_walk hwalk
  rw [hfolders, List.flatMap_singleton] at hpaths
  rw [hfolders] at hexcluded
  rw [hpaths, mem_walkDown_and_isEligible_iff htree (hexcluded (List.cons_ne_nil root []))]

end Workspace

end TagLint
