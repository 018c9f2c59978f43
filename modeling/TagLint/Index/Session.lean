import TagLint.Index
/-!
An index in use: documents are put in and taken out, and now and then it is made anew from the files
of a workspace.
-/

namespace TagLint.Index

/-- What can be asked of an index. -/
inductive Action where
  | upsert (document : Document)
  | remove (path : Text)
  | rebuild (workspace : Workspace) (disk : Storage.Disk) (limits : Settings.Limits)

/-- The index after an action. -/
def step (i : Index) : Action → Index
  | .upsert d => i.upsert d
  | .remove path => i.remove path
  | .rebuild w disk limits => (rebuild w disk limits).1

/-- The index after a run of actions, empty at the beginning. -/
def run (actions : List Action) : Index := actions.foldl step {}

end TagLint.Index
