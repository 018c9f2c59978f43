import TagLint.Proofs.Path.Walk
import TagLint.Proofs.Reference.Sandbox
/-!
Which places count as outside the root folder. A place counts as inside if its names go on from
those of the root by a name that does not begin with two dots; so a folder such as `..data` directly
in the root counts as outside, with all that is in it. What a relative path means is told by
a walk along its segments that starts in the root, or in the document's folder.
-/

namespace TagLint.Reference

open TagLint.Path

/-- The names go on from those of the root, and the first one by which they do does not begin with
two dots. -/
def LiesBelow (root names : List Text) : Prop :=
  ∃ name rest, names = root ++ name :: rest ∧ ¬ up <+: name

/-- The names of the folder that a relative path is read in. -/
def baseNames (w : Workspace) (document root path : Text) : List Text :=
  if isDocumentRelative path then (components (absolute w.cwd document)).dropLast
  else components root

variable {w : Workspace} {document root path : Text}

/-- The folder that a relative path is joined to is plain. -/
theorem exists_place?_eq (hw : w.IsPlain) (hroot : IsPlain root) (document path : Text) :
    ∃ base, IsPlain base ∧ components base = baseNames w document root path ∧
      place? w document root path =
        if isWithin w.cwd root (normalize (join base path)) then some (normalize (join base path))
        else none := by
  unfold place? baseNames
  split
  · exact ⟨_, isPlain_parent_absolute hw.cwd document, components_parent_absolute hw.cwd document,
      rfl⟩
  · exact ⟨root, hroot, rfl, rfl⟩

/-- A relative path means no place exactly if the walk along it does not end below the root. -/
theorem place?_eq_none_iff (hw : w.IsPlain) (hroot : IsPlain root)
    (hpath : isAbsolute path = false) :
    place? w document root path = none ↔
      ¬ LiesBelow (components root)
        (walkFrom (baseNames w document root path) (segments path)) := by
  obtain ⟨base, hbase, hnames, hplace⟩ := exists_place?_eq hw hroot document path
  have hwithin := isWithin_iff w.cwd hroot (isPlain_normalize (isAbsolute_join hbase.absolute path))
  rw [components_normalize_join hbase hpath, hnames] at hwithin
  rw [hplace, ite_eq_right_iff]
  refine ⟨fun h hbelow => ?_, fun h hin => absurd (hwithin.mp hin) h⟩
  cases h (hwithin.mpr hbelow)

/-- What is found at a place that a path means plays no part in the answer that it is outside. -/
theorem locate_eq_outside_iff (hfolder : w.folderFor? document = some root) (hne : path ≠ [])
    (hpath : isAbsolute path = false) :
    locate w document path = .ok (.error .outside) ↔ place? w document root path = none := by
  rw [locate_eq]
  unfold destination
  rw [if_neg (by simpa using hne), if_neg (by simp [hpath]), hfolder]
  dsimp only
  cases place? w document root path with
  | none => exact iff_of_true rfl rfl
  | some target =>
    refine iff_of_false (fun h => ?_) nofun
    dsimp only at h
    cases hprobe : probe w.files target with
    | error failure =>
      rw [hprobe] at h
      cases h
    | ok found =>
      rw [hprobe] at h
      cases found <;> cases h

/-- A place is within the root exactly if it lies below it, judged by the names on the way. A
document with a root folder gets the answer that a relative path leads outside exactly if the walk
along the path does not end below the root. -/
theorem outside_iff_not_liesBelow {cwd : Text} (hcwd : isAbsolute cwd = true) :
    (∀ root target, isAbsolute root = true → normalize root = root →
      isAbsolute target = true → normalize target = target →
      (isWithin cwd root target = true ↔ LiesBelow (components root) (components target))) ∧
    ∀ (folders : List Text) (files : Storage.FileSystem) (document root path : Text),
      (Workspace.ofFolders cwd folders files).folderFor? document = some root →
      path ≠ [] → isAbsolute path = false →
      (locate (Workspace.ofFolders cwd folders files) document path = .ok (.error .outside) ↔
        ¬ LiesBelow (components root) (walkFrom
          (baseNames (Workspace.ofFolders cwd folders files) document root path)
          (segments path))) := by
  constructor
  · intro root target hroot hrootnormal htarget htargetnormal
    apply isWithin_iff
    · rw [← hrootnormal]
      exact isPlain_normalize hroot
    · rw [← htargetnormal]
      exact isPlain_normalize htarget
  · intro folders files document root path hfolder hne hpath
    have hw := Workspace.isPlain_ofFolders hcwd folders files
    rw [locate_eq_outside_iff hfolder hne hpath, place?_eq_none_iff hw (hw.root hfolder) hpath]

/-- A walk that leaves the root folder and comes back ends inside; one that only leaves it does not.
-/
theorem outside_iff_not_liesBelow_sample :
    isAbsolute ['/'] = true ∧
      isWithin ['/'] "/ws".toList "/ws/src/b.py".toList = true ∧
      locate (Workspace.ofFolders ['/'] ["/ws".toList] sampleTree) "/ws/docs/a.md".toList
        "../../ws2/b.py".toList = .ok (.error .outside) := by
  have hroot : isAbsolute ['/'] = true := rfl
  obtain ⟨hwithin, houtside⟩ := outside_iff_not_liesBelow hroot
  refine ⟨hroot, ?_, ?_⟩
  · rw [hwithin _ _ (by decide) (by decide) (by decide) (by decide)]
    exact ⟨"src".toList, ["b.py".toList], by decide, by decide⟩
  · rw [houtside _ _ _ "/ws".toList _ (by decide) (by decide) (by decide)]
    rintro ⟨name, rest, hnames, -⟩
    revert hnames
    rw [show walkFrom _ _ = ["ws2".toList, "b.py".toList] by decide,
      show components "/ws".toList = ["ws".toList] by decide]
    simp

/-- A tree with a folder whose name begins with two dots, directly in the root folder. -/
def dottedTree : Storage.FileSystem :=
  .ofStages [("/ws/..data/a.py".toList, { probe := some (.ok { isFolder := false, size := 1 }) })]

/-- A file in a folder whose name begins with two dots counts as outside the root folder that it is
in. -/
theorem not_isWithin_dottedTree :
    isAbsolute "/ws".toList = true ∧ normalize "/ws".toList = "/ws".toList ∧
      isAbsolute "/ws/..data/a.py".toList = true ∧
      normalize "/ws/..data/a.py".toList = "/ws/..data/a.py".toList ∧
      components "/ws/..data/a.py".toList =
        components "/ws".toList ++ ["..data".toList, "a.py".toList] ∧
      isWithin ['/'] "/ws".toList "/ws/..data/a.py".toList = false ∧
      (Workspace.ofFolders ['/'] ["/ws".toList] dottedTree).folderFor? "/ws/docs/a.md".toList =
        some "/ws".toList ∧
      walkFrom (components "/ws".toList) (segments "..data/a.py".toList) =
        components "/ws".toList ++ ["..data".toList, "a.py".toList] ∧
      locate (Workspace.ofFolders ['/'] ["/ws".toList] dottedTree) "/ws/docs/a.md".toList
        "..data/a.py".toList = .ok (.error .outside) := by
  decide

end TagLint.Reference
