import TagLint.Proofs.Index.History
/-!
An index that cannot be made anew. Making it anew fails only on the way to the files of the
workspace (`Workspace.walk_eq_error_iff`). But the old entries have been given up by then: the index
is empty afterwards, whatever it had before (`rebuild_keepsGroups_iff`).
-/

namespace TagLint

/-! ## Why a walk fails -/

namespace Workspace

/-- A reason why a walk of root folders fails, and how: the list of excluded folders holds an array
or a table, or the path of a root folder holds the NUL character. -/
inductive WalkFault (folders : List Text) (limits : Settings.Limits) : Failure → Prop
  | container (hfolders : folders ≠ []) (h : ∃ v ∈ limits.excluded, v.isContainer = true) :
      WalkFault folders limits .wrongType
  | null (hsimple : ∀ v ∈ limits.excluded, v.isContainer = false)
      (h : ∃ f ∈ folders, '\x00' ∈ f) :
      WalkFault folders limits (.storage (.invalid "embedded null byte".toList))

variable {w : Workspace} {disk : Storage.Disk} {limits : Settings.Limits} {failure : Failure}

theorem isContainer_of_excludedNames {excluded : List Text}
    (h : limits.excludedNames = .ok excluded) : ∀ v ∈ limits.excluded, v.isContainer = false := by
  unfold Settings.Limits.excludedNames at h
  split at h
  · cases h
  · rename_i hnone
    simpa using hnone

theorem walkFault_of_walk (h : w.walk disk limits = .error failure) :
    WalkFault w.folders limits failure := by
  unfold walk at h
  split at h
  · cases h
  rename_i hfolders
  rw [List.isEmpty_iff] at hfolders
  rcases Traverse.bind_eq_error.mp h with hexcluded | ⟨excluded, hexcluded, h⟩
  · unfold Settings.Limits.excludedNames at hexcluded
    split at hexcluded
    · rename_i hany
      cases hexcluded
      exact .container hfolders (List.any_eq_true.mp hany)
    · cases hexcluded
  · rcases Traverse.bind_eq_error.mp h with hfound | ⟨found, -, h⟩
    · obtain ⟨f, hf, hwalk⟩ := Traverse.exists_of_mapM_eq_error hfound
      unfold Storage.Disk.walk at hwalk
      split at hwalk
      · rename_i hnull
        cases hwalk
        exact .null (isContainer_of_excludedNames hexcluded) ⟨f, hf, by simpa using hnull⟩
      · cases hwalk
    · cases h

theorem not_forall_of_container (h : ∃ v ∈ limits.excluded, v.isContainer = true) :
    ¬ ∀ v ∈ limits.excluded, v.isContainer = false := by
  intro hsimple
  obtain ⟨v, hv, hcontainer⟩ := h
  rw [hsimple v hv] at hcontainer
  cases hcontainer

theorem WalkFault.unique {failure' : Failure} {folders : List Text}
    (h : WalkFault folders limits failure) (h' : WalkFault folders limits failure') :
    failure = failure' := by
  cases h with
  | container _ h =>
    cases h' with
    | container => rfl
    | null hsimple => exact absurd hsimple (not_forall_of_container h)
  | null hsimple =>
    cases h' with
    | container _ h => exact absurd hsimple (not_forall_of_container h)
    | null => rfl

theorem WalkFault.not_walk (h : WalkFault w.folders limits failure) {paths : List Text} :
    w.walk disk limits ≠ .ok paths := by
  intro hwalk
  have hok := exists_walk_eq_ok_iff.mp ⟨paths, hwalk⟩
  cases h with
  | container hfolders h =>
    exact not_forall_of_container h (hok.resolve_left hfolders).1
  | null _ h =>
    obtain ⟨f, hf, hnull⟩ := h
    exact (hok.resolve_left (List.ne_nil_of_mem hf)).2 f hf hnull

/-- A walk fails for these reasons and for no other. -/
theorem walk_eq_error_iff :
    w.walk disk limits = .error failure ↔ WalkFault w.folders limits failure := by
  refine ⟨walkFault_of_walk, fun h => ?_⟩
  cases hwalk : w.walk disk limits with
  | ok paths => exact absurd hwalk h.not_walk
  | error failure' => rw [(walkFault_of_walk hwalk).unique h]

theorem exists_openAll_eq_ok (hfiles : w.files.IsTolerable) (limits : Settings.Limits)
    (paths : List Text) : ∃ ds, w.openAll limits paths = .ok ds := by
  obtain ⟨found, hfound⟩ := (Traverse.exists_mapM_eq_ok_iff _ paths).mpr fun p _ =>
    exists_openDocument_eq_ok hfiles limits p
  refine ⟨found.filterMap id, ?_⟩
  unfold openAll
  rw [hfound]
  rfl

end Workspace

namespace Index

variable {i : Index} {w : Workspace} {disk : Storage.Disk} {limits : Settings.Limits}
  {failure : Failure} {as : List Action}

/-! ## An index without entries -/

theorem groups_eq_nil_iff : i.groups = [] ↔ i.all = [] := by
  rw [← List.map_eq_nil_iff (f := Group.key), map_key_groups, List.eq_nil_iff_forall_not_mem,
    List.eq_nil_iff_forall_not_mem]
  constructor
  · exact fun h e he => h e.key (mem_usedKeys.mpr ⟨e, he, rfl⟩)
  · intro h key hkey
    obtain ⟨e, he, -⟩ := mem_usedKeys.mp hkey
    exact h e he

/-- An index shows nothing exactly if its latest documents have no entries. -/
theorem groups_run_eq_nil_iff : (run as).groups = [] ↔ ∀ d, IsLatest as d → entriesOf d = [] := by
  rw [groups_eq_nil_iff, List.eq_nil_iff_forall_not_mem]
  simp only [(holds_run as).mem_all, List.eq_nil_iff_forall_not_mem]
  constructor
  · exact fun h d hd e he => h e ⟨d, hd, he⟩
  · rintro h e ⟨d, hd, he⟩
    exact h d hd e he

/-! ## Making it anew -/

/-- On a disk an index cannot be made anew exactly if the walk fails. -/
theorem rebuild_eq_error_iff (hfiles : w.files.IsTolerable) :
    (rebuild w disk limits).2 = .error failure ↔ w.walk disk limits = .error failure := by
  cases hwalk : w.walk disk limits with
  | error failure' =>
    rw [rebuild_of_walk_error hwalk]
    simp
  | ok paths =>
    obtain ⟨ds, hds⟩ := Workspace.exists_openAll_eq_ok hfiles limits paths
    rw [rebuild_of_openAll hwalk hds]
    simp

/-- Making an index anew fails only because of the list of excluded folders or of the path of a root
folder. Then it shows nothing, whatever it showed before, so the groups are what they were exactly if
there were none, because no latest document has an entry. From then on the index is like one that
nothing has been asked of. -/
theorem rebuild_keepsGroups_iff (as : List Action) (cwd : Text) (folders : List Text)
    (disk : Storage.Disk) (limits : Settings.Limits) :
    let w := Workspace.ofFolders cwd folders disk.fileSystem
    (∀ failure, (rebuild w disk limits).2 = .error failure ↔
      Workspace.WalkFault (folders.map (Path.absolute cwd)) limits failure) ∧
    ∀ failure, (rebuild w disk limits).2 = .error failure →
      (run (as ++ [.rebuild w disk limits])).groups = [] ∧
      ((run (as ++ [.rebuild w disk limits])).groups = (run as).groups ↔
        ∀ d, IsLatest as d → entriesOf d = []) ∧
      ∀ bs, run (as ++ .rebuild w disk limits :: bs) = run bs := by
  intro w
  have hfails : ∀ failure, (rebuild w disk limits).2 = .error failure ↔
      w.walk disk limits = .error failure := fun failure =>
    rebuild_eq_error_iff disk.isTolerable_fileSystem
  refine ⟨fun failure => (hfails failure).trans Workspace.walk_eq_error_iff, fun failure h => ?_⟩
  have hempty := rebuild_of_walk_error ((hfails failure).mp h)
  have hrun : ∀ bs, run (as ++ .rebuild w disk limits :: bs) = run bs := by
    intro bs
    unfold run
    rw [List.foldl_append, List.foldl_cons, step, hempty]
  have hnone : (run (as ++ [.rebuild w disk limits])).groups = [] := by
    rw [hrun]
    exact groups_eq_nil_iff.mpr rfl
  refine ⟨hnone, ?_, hrun⟩
  rw [hnone, eq_comm, groups_run_eq_nil_iff]

/-- A disk with a single file, which has no tags. -/
def quietDisk : Storage.Disk where
  items := [(["p".toList], .folder), (["p".toList, "a.py".toList], .file [])]

/-- The folder on that disk, and one that can be on none. -/
def faultyWorkspace : Workspace :=
  .ofFolders ['/'] ["p".toList, "p\x00".toList] quietDisk.fileSystem

/-- A document that has an entry. -/
def taggedDocument : Document := .ofText "/b.py".toList "# @AI:EXPIRY 2030-01-01\n".toList

theorem rebuild_keepsGroups_taggedDocument :
    (rebuild faultyWorkspace quietDisk {}).2 =
        .error (.storage (.invalid "embedded null byte".toList)) ∧
      (run ([.upsert taggedDocument] ++ [.rebuild faultyWorkspace quietDisk {}])).groups = [] ∧
      run ([.upsert taggedDocument] ++
          [.rebuild faultyWorkspace quietDisk {}, .upsert taggedDocument]) =
        run [.upsert taggedDocument] := by
  obtain ⟨hfails, hafter⟩ := rebuild_keepsGroups_iff [.upsert taggedDocument] ['/']
    ["p".toList, "p\x00".toList] quietDisk {}
  have hfault := (hfails _).mpr (.null (by decide) ⟨"/p\x00".toList, by decide, by decide⟩)
  obtain ⟨hnone, -, hnew⟩ := hafter _ hfault
  exact ⟨hfault, hnone, hnew [.upsert taggedDocument]⟩

/-- The entry of the document is lost when the index cannot be made anew. -/
theorem rebuild_losesGroups_taggedDocument :
    (rebuild faultyWorkspace quietDisk {}).2 =
        .error (.storage (.invalid "embedded null byte".toList)) ∧
      (run [.upsert taggedDocument]).groups ≠ [] ∧
      (run [.upsert taggedDocument, .rebuild faultyWorkspace quietDisk {}]).groups = [] := by
  have hwalk : faultyWorkspace.walk quietDisk {} =
      .error (.storage (.invalid "embedded null byte".toList)) :=
    Workspace.walk_eq_error_iff.mpr (.null (by decide) ⟨"/p\x00".toList, by decide, by decide⟩)
  have hrebuild := rebuild_of_walk_error hwalk
  have hentry : entriesOf taggedDocument ≠ [] := by decide +kernel
  have hlatest : IsLatest [.upsert taggedDocument] taggedDocument :=
    ⟨[], .upsert taggedDocument, [], rfl, rfl, List.forall_mem_nil _⟩
  refine ⟨by rw [hrebuild], fun hnone => hentry (groups_run_eq_nil_iff.mp hnone _ hlatest), ?_⟩
  rw [groups_eq_nil_iff]
  unfold run
  rw [List.foldl_cons, List.foldl_cons, step, step, hrebuild]
  rfl

end Index

end TagLint
