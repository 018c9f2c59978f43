import TagLint.ByPath
import TagLint.Tag.Scan
import TagLint.Text.Order
import TagLint.Workspace.Walk
/-!
The index: the tags with certain keys, by the path of their documents, and shown in groups by key.
-/

namespace TagLint

/-- A tag in the index. -/
structure Index.Entry where
  key : Text
  payload : Text
  path : Text
  line : Nat
  start : Nat
  stop : Nat
deriving DecidableEq, Repr

/-- The entries of one key. -/
structure Index.Group where
  key : Text
  entries : List Index.Entry
deriving DecidableEq, Repr

/-- The entries of each document that has some. -/
structure Index where
  entries : ByPath (List Index.Entry) := []
deriving Repr

namespace Index

/-- The keys that are indexed. -/
def keys : List Text := ["@AI:EXPIRY".toList]

/-- The entry that a line of a document makes. -/
def entryOfLine? (path line : Text) (number : Nat) : Option Entry := do
  let k ← Tag.key? line number
  if keys.contains k.key then
    return {
      key := k.key
      payload := Text.trim (line.drop k.stop)
      path
      line := number
      start := k.start
      stop := k.stop }
  else none

/-- The entries of consecutive lines with their masks, the first of which has the given number. -/
def entriesFrom (path : Text) (number : Nat) : List (Text × Bool) → List Entry
  | [] => []
  | (line, masked) :: ls =>
    (if masked then [] else (entryOfLine? path line number).toList) ++
      entriesFrom path (number + 1) ls

/-- The entries of a document outside its code fences. -/
def entriesOf (d : Document) : List Entry :=
  let masks := if d.isMarkdown then Fence.mask d.lines else d.lines.map fun _ => false
  entriesFrom d.path 0 (d.lines.zip masks)

/-- The index with the entries of a document in place of those that its path had. -/
def upsert (i : Index) (d : Document) : Index :=
  match entriesOf d with
  | [] => { entries := ByPath.erase i.entries d.path }
  | es => { entries := ByPath.put i.entries d.path es }

/-- The index without the entries of a path. -/
def remove (i : Index) (path : Text) : Index := { entries := ByPath.erase i.entries path }

/-- The index of documents, each of which replaces an earlier one with its path. -/
def ofDocuments (ds : List Document) : Index := ds.foldl upsert {}

/-- The index of all files of a workspace in place of the old one. The old one is given up first, so
a failure leaves an empty index. -/
def rebuild (w : Workspace) (disk : Storage.Disk) (limits : Settings.Limits) :
    Index × Except Failure Unit :=
  let found : Except Failure (List Document) := do
    let paths ← w.walk disk limits
    w.openAll limits paths
  match found with
  | .ok ds => (ofDocuments ds, .ok ())
  | .error failure => ({}, .error failure)

/-- All entries, document by document. -/
def all (i : Index) : List Entry := i.entries.flatMap (·.2)

/-- Whether an entry comes before another one or is equal to it, by path and then by line. -/
def Entry.le (a b : Entry) : Bool :=
  if a.path = b.path then a.line ≤ b.line else Text.le a.path b.path

/-- The keys that some entry has, in order. -/
def usedKeys (i : Index) : List Text :=
  Text.sortBy id (i.all.map (·.key)).eraseDups

/-- The entries in groups by key, in order of path and line. -/
def groups (i : Index) : List Group :=
  i.usedKeys.map fun key =>
    { key, entries := (i.all.filter (·.key = key)).mergeSort Entry.le }

end Index

end TagLint
