import TagLint.Proofs.Storage.Rearranged
import TagLint.Proofs.Workspace.Walk
import Mathlib.Data.List.Flatten
/-!
The walk below a folder, told exactly. It lists once each entry that counts as no folder and that
the folder leads down to through folders with names that are not excluded, as long as the path of
the folder where the entry stands is not too long for the system. The files of a folder come before
what is listed below its folders, both in the order of the names. So the order in which the disk
holds its items plays no part, and more excluded names only take paths away (`walk_isExact`).
-/

namespace TagLint

namespace Storage.Disk

variable {d : Disk} {excluded more : List Text} {skips : Text → Prop} {trail : Trail}
  {names : List Text} {folder name p : Text}

/-- The names on a disk are such as the system takes. -/
structure FitsLimits (d : Disk) : Prop where
  no_null : ∀ e ∈ d.items, ∀ s ∈ e.1, '\x00' ∉ s
  short : ∀ e ∈ d.items, ∀ s ∈ e.1, Text.byteLength s ≤ nameLimit

/-- Names lead down from the folder at a path, through folders that are not skipped, to an entry
that counts as no folder. The path of the folder where it stands is not too long. -/
def IsListed (d : Disk) (skips : Text → Prop) (folder : Text) (names : List Text) : Prop :=
  ∃ trail item, d.locate true folder = .ok trail ∧ d.item? trail = some .folder ∧
    d.LeadsDown skips trail names ∧ d.item? (trail ++ names) = some item ∧
    ¬ d.CountsAsFolder (names.foldl Path.join folder) item ∧
    Text.byteLength (names.dropLast.foldl Path.join folder) ≤ pathLimit

/-- Paths stand as a walk below a folder gives them: first those of the files in the folder, then
what a walk below each of its folders gives, both in the order of the names. -/
structure IsLaidOut (d : Disk) (excluded : List Text) (folder : Text) (paths : List Text)
    (files folders : List Text) (below : Text → List Text) : Prop where
  files_ordered : files.Pairwise Text.Before
  mem_files : ∀ name, name ∈ files ↔ d.HoldsFile folder name
  folders_ordered : folders.Pairwise Text.Before
  mem_folders : ∀ name, name ∈ folders ↔ d.Holds folder name .folder ∧ name ∉ excluded
  below_eq : ∀ name ∈ folders, d.walk excluded (Path.join folder name) = .ok (below name)
  paths_eq : paths = files.map (Path.join folder) ++ folders.flatMap below

/-! ## Paths that are not too long -/

theorem FitsLimits.no_null_of_item? (h : d.FitsLimits) (htree : d.IsTree) {item : Item}
    (hitem : d.item? (trail ++ [name]) = some item) : '\x00' ∉ name :=
  h.no_null _ (htree.item?_eq_some_iff.mp hitem) name (List.mem_append_right trail
    List.mem_cons_self)

theorem FitsLimits.short_of_item? (h : d.FitsLimits) (htree : d.IsTree) {item : Item}
    (hitem : d.item? (trail ++ [name]) = some item) : Text.byteLength name ≤ nameLimit :=
  h.short _ (htree.item?_eq_some_iff.mp hitem) name (List.mem_append_right trail
    List.mem_cons_self)

/-- The folder where an entry stands that names lead down to is found exactly if its path is not too
long. -/
theorem LeadsDown.exists_locate_iff (h : d.LeadsDown skips trail names) (htree : d.IsTree)
    (hfits : d.FitsLimits) (htrail : d.locate true folder = .ok trail)
    (hfolder : d.item? trail = some .folder) :
    (∃ last, d.locate true (names.dropLast.foldl Path.join folder) = .ok last) ↔
      Text.byteLength (names.dropLast.foldl Path.join folder) ≤ pathLimit := by
  refine ⟨fun ⟨last, hlast⟩ => (locate_eq_ok_iff.mp hlast).2.2.1, fun hlong => ?_⟩
  induction h generalizing folder with
  | entry hitem => exact ⟨_, htrail⟩
  | @folder trail name rest hentry _ hrest ih =>
    have hname := htree.isName hentry
    rw [List.dropLast_cons_of_ne_nil hrest.ne_nil, List.foldl_cons] at hlong ⊢
    have hstart := Path.isPrefix_foldl_join (Path.join folder name) fun s hs =>
      hrest.isName htree s (List.dropLast_subset rest hs)
    exact ih (locate_join_eq_ok hname (hfits.no_null_of_item? htree hentry)
      (hfits.short_of_item? htree hentry) htrail hfolder hentry
      ((byteLength_le_of_isPrefix hstart).trans hlong)) hentry hlong

theorem reaches_iff_isListed (htree : d.IsTree) (hfits : d.FitsLimits) :
    d.Reaches skips folder names ↔ d.IsListed skips folder names := by
  rw [reaches_iff htree]
  constructor
  · rintro ⟨trail, item, htrail, hfolder, hdown, hitem, hfile, hlast⟩
    exact ⟨trail, item, htrail, hfolder, hdown, hitem, hfile,
      (hdown.exists_locate_iff htree hfits htrail hfolder).mp hlast⟩
  · rintro ⟨trail, item, htrail, hfolder, hdown, hitem, hfile, hlong⟩
    exact ⟨trail, item, htrail, hfolder, hdown, hitem, hfile,
      (hdown.exists_locate_iff htree hfits htrail hfolder).mpr hlong⟩

/-! ## Files and folders in order -/

theorem pairwise_names_filter (htree : d.IsTree) {es : List Entry}
    (h : d.entries folder = .ok (trail, es)) (keep : Entry → Bool) :
    ((es.filter keep).map (·.name)).Pairwise Text.Before := by
  obtain ⟨-, -, rfl⟩ := entries_eq_ok_iff.mp h
  exact (htree.pairwise_entriesAt trail).sublist (List.filter_sublist.map _)

theorem pairwise_filesIn (htree : d.IsTree) (folder : Text) :
    (d.filesIn folder).Pairwise Text.Before := by
  unfold filesIn
  cases hentries : d.entries folder with
  | error fault => exact List.Pairwise.nil
  | ok found => exact pairwise_names_filter htree hentries _

theorem pairwise_foldersIn (htree : d.IsTree) (excluded : List Text) (folder : Text) :
    (d.foldersIn excluded folder).Pairwise Text.Before := by
  unfold foldersIn
  cases hentries : d.entries folder with
  | error fault => exact List.Pairwise.nil
  | ok found => exact pairwise_names_filter htree hentries _

theorem foldersIn_sublist (hmore : excluded ⊆ more) (folder : Text) :
    (d.foldersIn more folder).Sublist (d.foldersIn excluded folder) := by
  unfold foldersIn
  cases d.entries folder with
  | error fault => exact List.Sublist.refl _
  | ok found =>
    refine List.Sublist.map _ (List.monotone_filter_right _ fun e he => ?_)
    rw [Bool.and_eq_true] at he ⊢
    refine ⟨he.1, ?_⟩
    have hname : e.name ∉ more := by simpa using he.2
    simpa using fun h => hname (hmore h)

/-! ## Each path once -/

/-- Different ways down have different paths. -/
theorem foldl_join_injective {names names' : List Text} (h : ∀ s ∈ names, Path.IsName s)
    (h' : ∀ s ∈ names', Path.IsName s)
    (heq : names.foldl Path.join folder = names'.foldl Path.join folder) : names = names' := by
  have hcomponents := congrArg Path.components heq
  rw [Path.components_foldl_join folder h, Path.components_foldl_join folder h'] at hcomponents
  exact List.append_cancel_left hcomponents

/-- Whether a path is listed is told by the way down that it is the path of. -/
theorem foldl_join_mem_walkDown_iff (htree : d.IsTree) (hfits : d.FitsLimits)
    (hnames : ∀ s ∈ names, Path.IsName s) :
    names.foldl Path.join folder ∈ d.walkDown excluded (d.items.length + 1) folder ↔
      d.IsListed (· ∈ excluded) folder names := by
  rw [mem_walkDown_length_iff htree, ← reaches_iff_isListed htree hfits]
  constructor
  · rintro ⟨names', hreaches, hpath⟩
    rw [foldl_join_injective hnames (hreaches.isName htree) hpath]
    exact hreaches
  · exact fun hreaches => ⟨names, hreaches, rfl⟩

theorem isName_of_mem_filesIn (htree : d.IsTree) (h : name ∈ d.filesIn folder) :
    ∀ s ∈ [name], Path.IsName s := by
  obtain ⟨item, hitem, -⟩ := (mem_filesIn htree).mp h
  exact List.forall_mem_singleton.mpr (hitem.isName htree)

/-- What a walk below a folder in a folder comes to lies two names further down, or more. -/
theorem exists_foldl_join_of_mem_walkDown (htree : d.IsTree) {depth : Nat}
    (h : name ∈ d.foldersIn excluded folder)
    (hp : p ∈ d.walkDown excluded depth (Path.join folder name)) :
    ∃ rest, rest ≠ [] ∧ (∀ s ∈ name :: rest, Path.IsName s) ∧
      p = (name :: rest).foldl Path.join folder := by
  obtain ⟨hfolder, -⟩ := (mem_foldersIn htree).mp h
  obtain ⟨rest, hrest, -, rfl⟩ := (mem_walkDown_iff htree).mp hp
  exact ⟨rest, hrest.ne_nil, List.forall_mem_cons.mpr ⟨hfolder.isName htree, hrest.isName htree⟩,
    rfl⟩

theorem nodup_walkDown (htree : d.IsTree) (excluded : List Text) (depth : Nat) (folder : Text) :
    (d.walkDown excluded depth folder).Nodup := by
  induction depth generalizing folder with
  | zero => exact List.nodup_nil
  | succ depth ih =>
    rw [walkDown_succ, List.nodup_append]
    refine ⟨?_, ?_, ?_⟩
    -- the files of the folder
    · refine List.Nodup.map_on ?_ ((pairwise_filesIn htree folder).imp And.right)
      intro name hname name' hname' heq
      exact List.singleton_inj.mp (foldl_join_injective (isName_of_mem_filesIn htree hname)
        (isName_of_mem_filesIn htree hname') heq)
    -- what lies below its folders
    · refine Lists.flatMap_nodup ((pairwise_foldersIn htree excluded folder).imp And.right)
        (fun name _ => ih _) ?_
      intro name hname name' hname' p hp hp'
      obtain ⟨rest, -, hnames, rfl⟩ := exists_foldl_join_of_mem_walkDown htree hname hp
      obtain ⟨rest', -, hnames', heq⟩ := exists_foldl_join_of_mem_walkDown htree hname' hp'
      exact (List.cons.inj (foldl_join_injective hnames hnames' heq)).1
    -- one and the other
    · rintro p hp q hq rfl
      obtain ⟨name, hname, rfl⟩ := List.mem_map.mp hp
      obtain ⟨name', hname', hq⟩ := List.mem_flatMap.mp hq
      obtain ⟨rest, hrest, hnames, heq⟩ := exists_foldl_join_of_mem_walkDown htree hname' hq
      exact hrest (List.cons.inj
        (foldl_join_injective (isName_of_mem_filesIn htree hname) hnames heq)).2.symm

/-! ## Deep enough, and less with more excluded -/

/-- Going one level further down than there are levels adds nothing. -/
theorem walkDown_succ_eq (htree : d.IsTree) {depth : Nat}
    (h : ∀ names, d.Reaches (· ∈ excluded) folder names → names.length ≤ depth) :
    d.walkDown excluded (depth + 1) folder = d.walkDown excluded depth folder := by
  induction depth generalizing folder with
  | zero =>
    rw [walkDown, List.eq_nil_iff_forall_not_mem]
    intro p hp
    obtain ⟨names, hreaches, -⟩ := (mem_walkDown_iff htree).mp hp
    exact hreaches.ne_nil (List.length_eq_zero_iff.mp (Nat.le_zero.mp (h names hreaches)))
  | succ depth ih =>
    rw [walkDown_succ (depth + 1), walkDown_succ depth]
    congr 1
    refine List.flatMap_congr fun name hname => ih fun names hreaches => ?_
    obtain ⟨hfolder, hskips⟩ := (mem_foldersIn htree).mp hname
    exact Nat.le_of_succ_le_succ (h (name :: names) (.folder hfolder hskips hreaches))

/-- More excluded names only take paths away. -/
theorem walkDown_sublist (hmore : excluded ⊆ more) (depth : Nat) (folder : Text) :
    (d.walkDown more depth folder).Sublist (d.walkDown excluded depth folder) := by
  induction depth generalizing folder with
  | zero => exact List.Sublist.refl _
  | succ depth ih =>
    rw [walkDown_succ, walkDown_succ]
    refine List.Sublist.append (List.Sublist.refl _) ?_
    exact ((foldersIn_sublist hmore folder).flatMap _).trans
      (List.Sublist.flatMap_right _ fun name _ => ih (Path.join folder name))

theorem walk_eq_ok (hnull : '\x00' ∉ folder) (excluded : List Text) :
    d.walk excluded folder = .ok (d.walkDown excluded (d.items.length + 1) folder) := by
  unfold walk
  rw [if_neg (by simpa using hnull)]

theorem isLaidOut_walkDown (htree : d.IsTree) (hfits : d.FitsLimits) (hnull : '\x00' ∉ folder)
    (excluded : List Text) :
    d.IsLaidOut excluded folder (d.walkDown excluded (d.items.length + 1) folder)
      (d.filesIn folder) (d.foldersIn excluded folder)
      fun name => d.walkDown excluded (d.items.length + 1) (Path.join folder name) where
  files_ordered := pairwise_filesIn htree folder
  mem_files _ := mem_filesIn htree
  folders_ordered := pairwise_foldersIn htree excluded folder
  mem_folders _ := mem_foldersIn htree
  below_eq := by
    intro name hname
    obtain ⟨⟨trail, -, -, hitem⟩, -⟩ := (mem_foldersIn htree).mp hname
    exact walk_eq_ok (Path.not_mem_join hnull (hfits.no_null_of_item? htree hitem) (by decide)) _
  paths_eq := by
    rw [walkDown_succ]
    congr 1
    refine List.flatMap_congr fun name _ => (walkDown_succ_eq htree fun names hreaches => ?_).symm
    obtain ⟨trail, item, -, -, hdown, -⟩ := (reaches_iff htree).mp hreaches
    exact hdown.length_le htree

/-- The walk below a folder of a tree lists each entry once that counts as no folder and that stands
in a folder to which folders with names that are not excluded lead down, at whatever depth: levels
are not counted, although a walk that calls itself for each of them may run out of stack on a disk
with a thousand. First come the files of the folder, then what the walks below its folders list, in
the order of the names. The order in which the disk holds its items plays no part, and more excluded
names only take paths away. -/
theorem walk_isExact (htree : d.IsTree) (hfits : d.FitsLimits) {folder : Text}
    (hnull : '\x00' ∉ folder) (excluded : List Text) :
    ∃ paths, d.walk excluded folder = .ok paths ∧ paths.Nodup ∧
      (∀ p, p ∈ paths ↔
        ∃ names, d.IsListed (· ∈ excluded) folder names ∧ p = names.foldl Path.join folder) ∧
      (∃ files folders below, d.IsLaidOut excluded folder paths files folders below) ∧
      (∀ d' : Disk, d.items.Perm d'.items → d'.walk excluded folder = .ok paths) ∧
      ∀ more, excluded ⊆ more →
        ∃ fewer, d.walk more folder = .ok fewer ∧ fewer.Sublist paths := by
  have hwalk : d.walk excluded folder = _ := walk_eq_ok hnull excluded
  refine ⟨_, hwalk, nodup_walkDown htree _ _ _, fun p => ?_,
    ⟨_, _, _, isLaidOut_walkDown htree hfits hnull excluded⟩, fun d' hperm => ?_,
    fun more hmore => ⟨_, walk_eq_ok hnull more, walkDown_sublist hmore _ _⟩⟩
  · rw [mem_walkDown_length_iff htree]
    simp only [reaches_iff_isListed htree hfits]
  · rw [← (htree.isRearranged hperm).walk_eq, hwalk]

/-- A disk with a folder that holds a file, links of two kinds and two folders with files. -/
def branchedDisk : Disk where
  items := [(["p".toList], .folder), (["p".toList, "z.md".toList], .file []),
    (["p".toList, "loop".toList], .link "loop".toList),
    (["p".toList, "out".toList], .link "sub".toList), (["p".toList, "sub".toList], .folder),
    (["p".toList, "sub".toList, "a.md".toList], .file []),
    (["p".toList, "skip".toList], .folder),
    (["p".toList, "skip".toList, "b.md".toList], .file [])]

/-- The walk on the branched disk, with one folder excluded and with one more. -/
theorem walk_isExact_branchedDisk :
    branchedDisk.IsTree ∧ branchedDisk.FitsLimits ∧ '\x00' ∉ "/p".toList ∧
      ∃ paths fewer, branchedDisk.walk ["skip".toList] "/p".toList = .ok paths ∧
        paths.Nodup ∧ "/p/sub/a.md".toList ∈ paths ∧
        branchedDisk.walk ["skip".toList, "sub".toList] "/p".toList = .ok fewer ∧
        fewer.Sublist paths := by
  have htree : branchedDisk.IsTree := ⟨by decide, by decide⟩
  have hfits : branchedDisk.FitsLimits := ⟨by decide, by decide⟩
  have hnull : '\x00' ∉ "/p".toList := by decide
  have hitem : branchedDisk.item? ["p".toList, "sub".toList, "a.md".toList] = some (.file []) := by
    decide
  have hlisted : branchedDisk.IsListed (· ∈ ["skip".toList]) "/p".toList
      ["sub".toList, "a.md".toList] :=
    ⟨["p".toList], .file [], by decide, by decide, .folder (by decide) (by decide) (.entry hitem),
      hitem, by simp [CountsAsFolder], by decide⟩
  obtain ⟨paths, hwalk, hnodup, hmem, -, -, hmore⟩ :=
    walk_isExact htree hfits hnull ["skip".toList]
  obtain ⟨fewer, hfewer, hsublist⟩ := hmore ["skip".toList, "sub".toList] (by simp)
  exact ⟨htree, hfits, hnull, paths, fewer, hwalk, hnodup, (hmem _).mpr ⟨_, hlisted, rfl⟩, hfewer,
    hsublist⟩

/-- The name of a link. -/
def linkName : Text := List.replicate 240 's'

/-- The name of a folder. -/
def folderName : Text := List.replicate 240 'd'

/-- A disk with a folder that holds a link to itself, a file and a folder with a file, under long
names. -/
def stretchedDisk : Disk where
  items := [(["p".toList], .folder), (["p".toList, linkName], .link Path.here),
    (["p".toList, "top.md".toList], .file []), (["p".toList, folderName], .folder),
    (["p".toList, folderName, "f.md".toList], .file [])]

/-- A path of the folder through its link, so often that no path below it is short enough. -/
def stretchedPath : Text := (List.replicate 16 linkName).foldl Path.join "/p".toList

/-- A file in a folder whose path is too long for the system is not listed, and a link whose path is
too long is listed though it leads to a folder. -/
theorem not_mem_walk_stretchedDisk :
    stretchedDisk.IsTree ∧ stretchedDisk.FitsLimits ∧ '\x00' ∉ stretchedPath ∧
      stretchedDisk.locate true stretchedPath = .ok ["p".toList] ∧
      stretchedDisk.LeadsDown (· ∈ []) ["p".toList] [folderName, "f.md".toList] ∧
      stretchedDisk.item? (["p".toList] ++ [folderName, "f.md".toList]) = some (.file []) ∧
      stretchedDisk.find (Path.join "/p".toList linkName) = .ok .folder ∧
      ∃ paths, stretchedDisk.walk [] stretchedPath = .ok paths ∧
        [folderName, "f.md".toList].foldl Path.join stretchedPath ∉ paths ∧
        [linkName].foldl Path.join stretchedPath ∈ paths := by
  have htree : stretchedDisk.IsTree := ⟨by decide +kernel, by decide +kernel⟩
  have hfits : stretchedDisk.FitsLimits := ⟨by decide +kernel, by decide +kernel⟩
  have hnull : '\x00' ∉ stretchedPath := by decide +kernel
  have hlocate : stretchedDisk.locate true stretchedPath = .ok ["p".toList] := by decide +kernel
  have hitem : stretchedDisk.item? (["p".toList] ++ [folderName, "f.md".toList]) =
      some (.file []) := by decide +kernel
  have hdown : stretchedDisk.LeadsDown (· ∈ []) ["p".toList] [folderName, "f.md".toList] :=
    .folder (by decide +kernel) List.not_mem_nil (.entry hitem)
  refine ⟨htree, hfits, hnull, hlocate, hdown, hitem, by decide +kernel, _, walk_eq_ok hnull [],
    ?_, ?_⟩
  · have hlong : ¬ Text.byteLength ([folderName, "f.md".toList].dropLast.foldl Path.join
        stretchedPath) ≤ pathLimit := by decide +kernel
    rw [foldl_join_mem_walkDown_iff htree hfits (hdown.isName htree)]
    rintro ⟨trail, item, -, -, -, -, -, hshort⟩
    exact hlong hshort
  · have hlink : stretchedDisk.item? (["p".toList] ++ [linkName]) = some (.link Path.here) := by
      decide +kernel
    have hfind : stretchedDisk.find ([linkName].foldl Path.join stretchedPath) =
        .error .refused := by decide +kernel
    rw [foldl_join_mem_walkDown_iff htree hfits
      (List.forall_mem_singleton.mpr (htree.isName hlink))]
    refine ⟨_, _, hlocate, by decide +kernel, .entry hlink, hlink, ?_, by decide +kernel⟩
    unfold CountsAsFolder
    rw [hfind]
    simp

end Storage.Disk

end TagLint
