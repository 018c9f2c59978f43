import TagLint.Settings.Basic
import TagLint.Storage.Disk
import TagLint.Workspace
/-!
The files of a workspace: which there are, and which of them are opened as documents. A walk may go
down any number of levels; only a path that is too long for the system stops it.
-/

namespace TagLint

namespace Storage.Disk

/-- Whether an entry is a folder or a link to one. What cannot be looked up is none. -/
def leadsToFolder (d : Disk) (folder : Text) (e : Entry) : Bool :=
  match d.target? folder e with
  | .ok (some .folder) => true
  | _ => false

/-- The files below a folder, going down no more than `depth` levels. The files directly in it come
first, then those of its folders one after the other. Folders with an excluded name, and links to
folders, are left out; links that lead nowhere count as files. -/
def walkDown (d : Disk) (excluded : List Text) : (depth : Nat) → Text → List Text
  | 0, _ => []
  | depth + 1, folder =>
    match d.entries folder with
    | .error _ => []
    | .ok (_, es) =>
      let files := es.filter fun e => !d.leadsToFolder folder e
      let folders := es.filter fun e => e.item == .folder && !excluded.contains e.name
      files.map (fun e => Path.join folder e.name) ++
        folders.flatMap fun e => walkDown d excluded depth (Path.join folder e.name)

/-- The files below a folder. It is deeper nowhere than the disk has items. -/
def walk (d : Disk) (excluded : List Text) (folder : Text) : Except Failure (List Text) :=
  if folder.contains '\x00' then .error (.storage (.invalid "embedded null byte".toList))
  else .ok (walkDown d excluded (d.items.length + 1) folder)

end Storage.Disk

namespace Workspace

/-- The files below the root folders, folder by folder. -/
def walk (w : Workspace) (disk : Storage.Disk) (limits : Settings.Limits) :
    Except Failure (List Text) := do
  if w.folders.isEmpty then return []
  let excluded ← limits.excludedNames
  let found ← w.folders.mapM (disk.walk excluded)
  return found.flatten

/-- The document at a path: none if there is no file, if it is too large, or if it cannot be read as
text. Only a breakdown of the file system is a failure. -/
def openDocument (files : Storage.FileSystem) (limits : Settings.Limits) (path : Text) :
    Except Failure (Option Document) :=
  let passOver (fault : Storage.Fault) : Except Failure (Option Document) :=
    if fault.isTolerable then .ok none else .error (.storage fault)
  match files.probe path with
  | .error fault => passOver fault
  | .ok none => .ok none
  | .ok (some p) =>
    if p.isFolder || limits.maxSize < p.size then .ok none
    else
      match files.read path with
      | .error fault => passOver fault
      | .ok text => .ok (some (Document.ofText path text))

/-- The documents among the files at these paths, in order. -/
def openAll (w : Workspace) (limits : Settings.Limits) (paths : List Text) :
    Except Failure (List Document) := do
  let found ← paths.mapM (openDocument w.files limits)
  return found.filterMap id

end Workspace

end TagLint
