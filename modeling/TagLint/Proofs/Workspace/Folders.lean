import TagLint.Workspace
import TagLint.Proofs.Path.Inside
/-!
The root folders of a workspace. In a current folder that is absolute all of them are plain paths,
and the folder found for a document is one of them.
-/

namespace TagLint.Workspace

/-- A workspace whose current folder is absolute and whose root folders are plain paths. -/
structure IsPlain (w : Workspace) : Prop where
  cwd : Path.isAbsolute w.cwd = true
  folders : ∀ f ∈ w.folders, Path.IsPlain f

theorem isPlain_ofFolders {cwd : Text} (hcwd : Path.isAbsolute cwd = true) (folders : List Text)
    (files : Storage.FileSystem) : (ofFolders cwd folders files).IsPlain where
  cwd := hcwd
  folders := by
    intro f hf
    obtain ⟨g, -, rfl⟩ := List.mem_map.mp hf
    exact Path.isPlain_absolute hcwd g

theorem longer_eq_some {best : Option Text} {t r : Text} (h : longer best t = some r) :
    best = some r ∨ t = r := by
  unfold longer at h
  cases best with
  | none => exact Or.inr (Option.some.inj h)
  | some b =>
    dsimp only at h
    split at h
    · exact Or.inr (Option.some.inj h)
    · exact Or.inl h

theorem mem_of_foldl_longer {fs : List Text} {best : Option Text} {r : Text}
    (h : fs.foldl longer best = some r) : best = some r ∨ r ∈ fs := by
  induction fs generalizing best with
  | nil => exact Or.inl h
  | cons f fs ih =>
    rw [List.foldl_cons] at h
    rcases ih h with hl | hr
    · rcases longer_eq_some hl with hb | rfl
      · exact Or.inl hb
      · exact Or.inr List.mem_cons_self
    · exact Or.inr (List.mem_cons_of_mem f hr)

theorem mem_of_innermost?_eq_some {folders : List Text} {path r : Text}
    (h : innermost? folders path = some r) : r ∈ folders ∧ contains r path = true := by
  unfold innermost? at h
  rcases mem_of_foldl_longer h with hnone | hmem
  · cases hnone
  · rw [List.mem_filter] at hmem
    exact hmem

theorem IsPlain.root {w : Workspace} (hw : w.IsPlain) {document root : Text}
    (h : w.folderFor? document = some root) : Path.IsPlain root :=
  hw.folders root (mem_of_innermost?_eq_some h).1

/-- The path lies strictly inside the root folder of the document. -/
def Encloses (w : Workspace) (document p : Text) : Prop :=
  ∃ root, w.folderFor? document = some root ∧ Path.IsInside root p

end TagLint.Workspace
