import TagLint.Document
import TagLint.Path
import TagLint.Storage.FileSystem
/-!
Workspaces: root folders on a file system, seen from a current folder.
-/

namespace TagLint

/-- Root folders, as normalised absolute paths, and the file system that they are on. Relative
paths are read in `cwd`. -/
structure Workspace where
  cwd : Text
  folders : List Text
  files : Storage.FileSystem

namespace Workspace

/-- The workspace with these root folders, which may be written in any way. -/
def ofFolders (cwd : Text) (folders : List Text) (files : Storage.FileSystem) : Workspace where
  cwd := cwd
  folders := folders.map (Path.absolute cwd)
  files := files

/-- Whether an absolute path is a folder or lies inside it: what both have in common is written as
the folder is. -/
def contains (folder path : Text) : Bool := Path.common folder path == folder

/-- The longer of two texts, the first one if they are equally long. -/
def longer (best : Option Text) (t : Text) : Option Text :=
  match best with
  | none => some t
  | some b => if b.length < t.length then some t else some b

/-- The innermost of the folders that contains an absolute path. -/
def innermost? (folders : List Text) (path : Text) : Option Text :=
  (folders.filter (contains · path)).foldl longer none

/-- The innermost root folder that contains a document. -/
def folderFor? (w : Workspace) (path : Text) : Option Text :=
  innermost? w.folders (Path.absolute w.cwd path)

end Workspace

end TagLint
