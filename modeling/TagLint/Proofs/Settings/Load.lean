import TagLint.Proofs.Settings.Layers
/-!
Loading the settings. They come from one file at most, the first that is there of the one asked for,
the one in the current folder and the one in the home folder. With the layers of each field above
that file, environments that differ in one variable load settings that differ in one field.
-/

namespace TagLint.Settings

variable {disk : Storage.Disk} {env env' : Environment} {cwd home : Text} {asked : Option Text}
  {file : Toml.Table} {s s' : Settings}

/-- A path leads to something, links followed. -/
def IsThere (disk : Storage.Disk) (path : Text) : Prop :=
  ∃ trail, disk.locate true (Storage.Disk.tidy path) = .ok trail

/-- The contents of the first file of a list that is there, and of no other; nothing if none is. -/
inductive Supplies (disk : Storage.Disk) : List Text → Toml.Table → Prop
  | nothing : Supplies disk [] []
  | file {p text : Text} {ps : List Text} {file : Toml.Table} (hthere : IsThere disk p)
      (htext : disk.read p = .ok text) (hfile : Toml.read text = .ok file) :
    Supplies disk (p :: ps) file
  | next {p : Text} {ps : List Text} {file : Toml.Table} (hmissing : ¬IsThere disk p)
      (hrest : Supplies disk ps file) : Supplies disk (p :: ps) file

theorem Supplies.unique {paths : List Text} {file file' : Toml.Table}
    (h : Supplies disk paths file) (h' : Supplies disk paths file') : file = file' := by
  induction h with
  | nothing =>
    cases h'
    rfl
  | file hthere htext hfile =>
    cases h' with
    | file _ htext' hfile' =>
      cases htext.symm.trans htext'
      exact Except.ok.inj (hfile.symm.trans hfile')
    | next hmissing _ => exact absurd hthere hmissing
  | next hmissing _ ih =>
    cases h' with
    | file hthere _ _ => exact absurd hthere hmissing
    | next _ hrest => exact ih hrest

/-- The table that is read after the search for a file. -/
def tableOf (disk : Storage.Disk) : Option Text → Except Failure Toml.Table
  | none => .ok []
  | some path =>
    match disk.read path with
    | .error fault => .error (.storage fault)
    | .ok text => Toml.read text

/-- A disk with a settings file in the current folder and one in the home folder. -/
def sampleDisk : Storage.Disk where
  items := [
    (["ws".toList], .folder),
    (["ws".toList, "aitags.toml".toList], .file <|
      Text.encode "[expiry]\nenabled = false\ngrace_days = 7\n".toList),
    (["home".toList], .folder),
    (["home".toList, ".aitags".toList], .folder),
    (["home".toList, ".aitags".toList, "aitags.toml".toList], .file <|
      Text.encode "[sync]\nenabled = false\n".toList)]

end TagLint.Settings
