import TagLint.Proofs.Reference.Destination
import TagLint.Proofs.Storage.Contents
import TagLint.Proofs.Storage.Faults
/-!
What becomes of a token that leads to a folder on a disk when folders are expanded. The folder has
its files, and the files that its links lead to, as targets, in the order of the names, exactly if
each of its links can be looked up; one that cannot takes the place of all the files
(`targetsOfToken_listsFiles_iff`).
-/

namespace TagLint.Reference

open TagLint.Storage

variable {d : Disk} {w : Workspace} {document token folder : Text} {place : Place}

/-- The targets are the files that a folder holds, with those that links in it lead to: one for
each, in the order of the names. -/
def ListsFiles (d : Disk) (token folder : Text) (place : Place) (ts : List Target) : Prop :=
  ∃ names : List Text, names.Pairwise Text.Before ∧
    (∀ name, name ∈ names ↔ d.HoldsListed folder name) ∧
    ts = names.map fun name => .found token (Path.join folder name) false true place

/-- A target that is missing is none of the files of a folder. -/
theorem not_listsFiles_singleton_missing (token' : Text) (o : Obstacle) :
    ¬ ListsFiles d token folder place [.missing token' o] := by
  rintro ⟨names, -, -, hts⟩
  cases names with
  | nil => cases hts
  | cons name names => cases hts

/-! ## The folder alone -/

/-- A folder with files in it that can be listed is expanded to them. -/
theorem expand_listsFiles (htree : d.IsTree) (hfiles : w.files = d.fileSystem)
    (hsome : ∃ name, d.HoldsListed folder name) (hnone : ∀ name, ¬ d.HoldsStuck folder name)
    (token : Text) (place : Place) :
    ∃ ts, expand w token folder place = .ok ts ∧ ListsFiles d token folder place ts := by
  obtain ⟨name, hname⟩ := hsome
  have ⟨item, hitem, _⟩ := hname
  obtain ⟨trail, es, hentries⟩ := hitem.exists_entries
  obtain ⟨listed, hlist⟩ := (Disk.exists_list_eq_ok_iff htree hentries).mpr hnone
  have hmem : ∀ name, name ∈ (listed.filter (·.2)).map (·.1) ↔ d.HoldsListed folder name := by
    intro name
    rw [← Disk.mem_list_iff htree hentries hlist]
    simp
  have hfilled : (listed.filter (·.2)).isEmpty = false := by
    have hmore := List.ne_nil_of_mem ((hmem name).mpr hname)
    simpa using hmore
  unfold expand
  rw [hfiles, show d.fileSystem.list folder = d.list folder from rfl, hlist]
  dsimp only
  rw [hfilled, if_neg Bool.false_ne_true]
  refine ⟨_, rfl, (listed.filter (·.2)).map (·.1), ?_, hmem, ?_⟩
  · exact (Disk.pairwise_of_list htree hentries hlist).sublist (List.filter_sublist.map _)
  · rw [List.map_map]
    rfl

/-- A folder with a link that cannot be looked up is not expanded. -/
theorem expand_of_holdsStuck (htree : d.IsTree) (hfiles : w.files = d.fileSystem)
    (hstuck : ∃ name, d.HoldsStuck folder name) :
    expand w token folder place = .ok [.missing token (.unreadableFolder token)] := by
  obtain ⟨name, hname⟩ := hstuck
  have ⟨item, hitem, _⟩ := hname
  obtain ⟨trail, es, hentries⟩ := hitem.exists_entries
  unfold expand
  rw [hfiles, show d.fileSystem.list folder = d.list folder from rfl]
  cases hlist : d.list folder with
  | error fault =>
    dsimp only
    rw [if_pos (Disk.tolerable_list d folder fault hlist)]
  | ok listed =>
    exact absurd hname ((Disk.exists_list_eq_ok_iff htree hentries).mp ⟨listed, hlist⟩ name)

theorem targetsOfToken_of_folder {r : Reference} (hr : ofToken token = .ok r)
    (hfolder : locate w document r.path = .ok (.ok (folder, true))) :
    targetsOfToken w document true token = expand w token folder r.place := by
  unfold targetsOfToken
  rw [hr, Traverse.ok_bind, hfolder]
  rfl

/-! ## The folder in a payload -/

/-- The targets of a token stand between those of the tokens before it and behind it. -/
theorem targets_append {block : List Target}
    (hblock : targetsOfToken w document true token = .ok block) {payload : Text}
    {before after : List Text} (hpayload : tokens payload = before ++ token :: after) :
    targets w document payload true = do
      let front ← before.mapM (targetsOfToken w document true)
      let back ← after.mapM (targetsOfToken w document true)
      return front.flatten ++ block ++ back.flatten := by
  rw [targets_eq, hpayload, if_neg (by simp), List.mapM_append, List.mapM_cons, hblock]
  cases before.mapM (targetsOfToken w document true) with
  | error failure => rfl
  | ok front =>
    cases after.mapM (targetsOfToken w document true) with
    | error failure => rfl
    | ok back =>
      simp only [Traverse.ok_bind, pure, Except.pure, List.flatten_append, List.flatten_cons,
        List.append_assoc]

/-- A token that leads to a folder in which there is a file, or a link to one. Expanding replaces it
by all of them, one target for each in the order of the names, exactly if the folder holds no link
that cannot be looked up; if it holds one, a single target is left, which tells that the folder
cannot be read. What the token is replaced by stands in its place among the targets of a payload. -/
theorem targetsOfToken_listsFiles_iff (htree : d.IsTree) (cwd : Text) (folders : List Text)
    (document : Text) {token folder : Text} {r : Reference} (hr : ofToken token = .ok r)
    (hfolder : locate (Workspace.ofFolders cwd folders d.fileSystem) document r.path =
      .ok (.ok (folder, true)))
    (hsome : ∃ name, d.HoldsListed folder name) :
    ∃ block,
      targetsOfToken (Workspace.ofFolders cwd folders d.fileSystem) document true token =
        .ok block ∧
      (ListsFiles d token folder r.place block ↔ ∀ name, ¬ d.HoldsStuck folder name) ∧
      ((∃ name, d.HoldsStuck folder name) →
        block = [.missing token (.unreadableFolder token)]) ∧
      ∀ payload before after, tokens payload = before ++ token :: after →
        targets (Workspace.ofFolders cwd folders d.fileSystem) document payload true = do
          let front ← before.mapM
            (targetsOfToken (Workspace.ofFolders cwd folders d.fileSystem) document true)
          let back ← after.mapM
            (targetsOfToken (Workspace.ofFolders cwd folders d.fileSystem) document true)
          return front.flatten ++ block ++ back.flatten := by
  have hfiles : (Workspace.ofFolders cwd folders d.fileSystem).files = d.fileSystem := rfl
  have hblock := targetsOfToken_of_folder hr hfolder
  by_cases hstuck : ∃ name, d.HoldsStuck folder name
  · rw [expand_of_holdsStuck htree hfiles hstuck] at hblock
    refine ⟨_, hblock, ?_, fun _ => rfl, fun _ _ _ => targets_append hblock⟩
    exact iff_of_false (not_listsFiles_singleton_missing token _) (not_forall_not.mpr hstuck)
  · obtain ⟨ts, hts, hlists⟩ :=
      expand_listsFiles htree hfiles hsome (not_exists.mp hstuck) token r.place
    rw [hts] at hblock
    exact ⟨ts, hblock, iff_of_true hlists (not_exists.mp hstuck), fun h => absurd h hstuck,
      fun _ _ _ => targets_append hblock⟩

/-- A disk with a folder that holds a file, a link to it, a link to nothing and a folder. -/
def linkedDisk : Disk where
  items := [(["ws".toList], .folder), (["ws".toList, "src".toList], .folder),
    (["ws".toList, "src".toList, "z.py".toList], .file []),
    (["ws".toList, "src".toList, "a.py".toList], .link "z.py".toList),
    (["ws".toList, "src".toList, "gone".toList], .link "nothing".toList),
    (["ws".toList, "src".toList, "sub".toList], .folder)]

theorem holdsListed_linkedDisk : linkedDisk.HoldsListed "/ws/src".toList "a.py".toList :=
  ⟨.link "z.py".toList, ⟨["ws".toList, "src".toList], by decide, by decide, by decide⟩,
    Or.inr ⟨⟨_, rfl⟩, [], by decide +kernel⟩⟩

theorem not_holdsStuck_linkedDisk (name : Text) :
    ¬ linkedDisk.HoldsStuck "/ws/src".toList name := by
  rintro ⟨item, ⟨trail, htrail, -, hitem⟩, ⟨target, rfl⟩, fault, hfind, hfault⟩
  rw [show linkedDisk.locate true "/ws/src".toList = .ok ["ws".toList, "src".toList] by decide]
    at htrail
  cases htrail
  have htree : linkedDisk.IsTree := ⟨by decide, by decide⟩
  have hlinks : name = "a.py".toList ∧ target = "z.py".toList ∨
      name = "gone".toList ∧ target = "nothing".toList := by
    simpa [linkedDisk] using htree.item?_eq_some_iff.mp hitem
  rcases hlinks with ⟨rfl, -⟩ | ⟨rfl, -⟩
  · rw [show linkedDisk.find _ = .ok (.file []) by decide +kernel] at hfind
    cases hfind
  · rw [show linkedDisk.find _ = .error .missing by decide +kernel] at hfind
    cases hfind
    exact hfault rfl

/-- A folder on the linked disk, and what it is expanded to. -/
theorem targetsOfToken_listsFiles_iff_linkedDisk :
    linkedDisk.IsTree ∧
      ofToken "src:L3".toList = .ok { path := "src".toList, place := .lines ⟨3, none⟩ } ∧
      locate (Workspace.ofFolders ['/'] ["/ws".toList] linkedDisk.fileSystem) "/ws/a.md".toList
        "src".toList = .ok (.ok ("/ws/src".toList, true)) ∧
      linkedDisk.HoldsListed "/ws/src".toList "a.py".toList ∧
      ∃ block,
        targetsOfToken (Workspace.ofFolders ['/'] ["/ws".toList] linkedDisk.fileSystem)
          "/ws/a.md".toList true "src:L3".toList = .ok block ∧
        ListsFiles linkedDisk "src:L3".toList "/ws/src".toList (.lines ⟨3, none⟩) block := by
  have htree : linkedDisk.IsTree := ⟨by decide, by decide⟩
  have hr : ofToken "src:L3".toList =
      .ok { path := "src".toList, place := .lines ⟨3, none⟩ } := by decide +kernel
  have hfolder : locate (Workspace.ofFolders ['/'] ["/ws".toList] linkedDisk.fileSystem)
      "/ws/a.md".toList "src".toList = .ok (.ok ("/ws/src".toList, true)) := by decide +kernel
  obtain ⟨block, hblock, hlists, -⟩ := targetsOfToken_listsFiles_iff htree ['/'] ["/ws".toList]
    "/ws/a.md".toList hr hfolder ⟨_, holdsListed_linkedDisk⟩
  exact ⟨htree, hr, hfolder, holdsListed_linkedDisk, block, hblock,
    hlists.mpr not_holdsStuck_linkedDisk⟩

/-- A disk with a folder that holds a file and a link to itself. -/
def loopedDisk : Disk where
  items := [(["ws".toList], .folder), (["ws".toList, "src".toList], .folder),
    (["ws".toList, "src".toList, "a.py".toList], .file []),
    (["ws".toList, "src".toList, "loop".toList], .link "loop".toList)]

/-- The file is lost because of the link beside it. -/
theorem not_listsFiles_loopedDisk :
    loopedDisk.IsTree ∧
      locate (Workspace.ofFolders ['/'] ["/ws".toList] loopedDisk.fileSystem) "/ws/a.md".toList
        "src".toList = .ok (.ok ("/ws/src".toList, true)) ∧
      loopedDisk.HoldsListed "/ws/src".toList "a.py".toList ∧
      targets (Workspace.ofFolders ['/'] ["/ws".toList] loopedDisk.fileSystem) "/ws/a.md".toList
        "src".toList true = .ok [.missing "src".toList (.unreadableFolder "src".toList)] ∧
      ¬ ListsFiles loopedDisk "src".toList "/ws/src".toList .whole
        [.missing "src".toList (.unreadableFolder "src".toList)] := by
  have htree : loopedDisk.IsTree := ⟨by decide, by decide⟩
  have hfolder : locate (Workspace.ofFolders ['/'] ["/ws".toList] loopedDisk.fileSystem)
      "/ws/a.md".toList "src".toList = .ok (.ok ("/ws/src".toList, true)) := by decide +kernel
  have hholds : ∀ name item, loopedDisk.item? ["ws".toList, "src".toList, name] = some item →
      loopedDisk.Holds "/ws/src".toList name item :=
    fun name item hitem => ⟨["ws".toList, "src".toList], by decide, by decide, hitem⟩
  have hfind : loopedDisk.find (Path.join "/ws/src".toList "loop".toList) = .error .loop := by
    decide +kernel
  have hstuck : loopedDisk.HoldsStuck "/ws/src".toList "loop".toList :=
    ⟨_, hholds _ (.link "loop".toList) (by decide), ⟨_, rfl⟩, .loop, hfind, nofun⟩
  have hr : ofToken "src".toList = .ok { path := "src".toList, place := .whole } := by decide
  have hblock := targetsOfToken_of_folder hr hfolder
  rw [expand_of_holdsStuck htree rfl ⟨_, hstuck⟩] at hblock
  refine ⟨htree, hfolder, ⟨_, hholds _ (.file []) (by decide), Or.inl ⟨[], rfl⟩⟩, ?_,
    not_listsFiles_singleton_missing _ _⟩
  have hpayload : tokens "src".toList = [] ++ "src".toList :: [] := by decide
  rw [targets_append hblock hpayload]
  rfl

end TagLint.Reference
