import TagLint.Storage.FileSystem
/-!
File systems with prepared answers, looked up by the exact text of the path.
-/

namespace TagLint.Storage

/-- The prepared answers for one path: an entry for each question, where `none` stands for the
answer of a path at which nothing is. -/
structure Stage where
  probe : Option (Except Fault Probe) := none
  list : Option (Except Fault (List (Text × Bool))) := none
  read : Option (Except Fault Text) := none

/-- The file system that gives the prepared answers and knows no other path. -/
def FileSystem.ofStages (stages : List (Text × Stage)) : FileSystem where
  probe path :=
    match stages.lookup path with
    | some { probe := some answer, .. } => answer.map some
    | _ => .ok none
  list path :=
    match stages.lookup path with
    | some { list := some answer, .. } => answer
    | _ => .error .missing
  read path :=
    match stages.lookup path with
    | some { read := some answer, .. } => answer
    | _ => .error .missing

end TagLint.Storage
