import TagLint.Text.Basic
/-!
File systems as the rest of the library sees them: three questions about a path, each of which is
answered or fails.
-/

namespace TagLint

/-- Why a file system gives no answer. -/
inductive Storage.Fault where
  /-- Nothing has this path. -/
  | missing
  /-- A folder is wanted where something else is. -/
  | notFolder
  /-- A file is wanted where a folder is. -/
  | isFolder
  /-- Links lead in a circle, or through too many others. -/
  | loop
  /-- The system refuses, for instance a name that is too long. -/
  | refused
  /-- The content of a file is no UTF-8. -/
  | notText
  /-- The question makes no sense, such as a path that holds the NUL character. -/
  | invalid (why : Text)
  /-- The file system itself broke down. -/
  | broken (why : Text)
deriving DecidableEq, Repr

/-- A fault that callers may pass over; a breakdown is not. -/
def Storage.Fault.isTolerable : Storage.Fault → Bool
  | .broken _ => false
  | _ => true

/-- What is known of a path where something is. -/
structure Storage.Probe where
  isFolder : Bool
  size : Nat
deriving DecidableEq, Repr

/-- A file system. `probe` tells what a path names, if anything; `list` gives the entries of a
folder, each with whether it is a file; `read` gives the text of a file. -/
structure Storage.FileSystem where
  probe : Text → Except Storage.Fault (Option Storage.Probe)
  list : Text → Except Storage.Fault (List (Text × Bool))
  read : Text → Except Storage.Fault Text

end TagLint
