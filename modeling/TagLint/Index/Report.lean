import TagLint.Calendar.Instant
import TagLint.Index
/-!
The report of an index: a Markdown text with a heading for each key and an item for each entry,
under a head of metadata in YAML.
-/

namespace TagLint.Index

/-- How the path of an entry is shown: as it is, or as the way from a folder. -/
def shownPath (cwd : Text) (relativeTo : Option Text) (path : Text) : Except Failure Text :=
  match relativeTo with
  | some (c :: r) =>
    match Path.relative? cwd path (c :: r) with
    | some way => .ok way
    | none => .error .emptyPath
  | _ => .ok path

/-- The item of an entry whose path is shown in this way. -/
def itemLine (shown : Text) (e : Entry) : Text :=
  "- ".toList ++ ['\x60'] ++ shown ++ [':'] ++ Text.ofNat (e.line + 1) ++ ['\x60'] ++
    (if e.payload.isEmpty then [] else ' ' :: e.payload)

/-- The lines of a group: heading, items and a line that is empty. -/
def groupLines (cwd : Text) (relativeTo : Option Text) (g : Group) :
    Except Failure (List Text) := do
  let items ← g.entries.mapM fun e => do
    let shown ← shownPath cwd relativeTo e.path
    return itemLine shown e
  return ["## ".toList ++ g.key, []] ++ items ++ [[]]

/-- The body of the report. -/
def body (cwd : Text) (relativeTo : Option Text) (gs : List Group) : Except Failure Text := do
  let parts ← gs.mapM (groupLines cwd relativeTo)
  let lines := ["# AI tag index".toList, []] ++ parts.flatten
  return Text.trimRight (Text.joinWith ['\n'] lines)

/-- The metadata: how many entries there are, when the report was made, and the keys. -/
def metadata (now : Calendar.Instant) (gs : List Group) : List Text :=
  let count := (gs.flatMap (·.entries)).length
  let keyLines :=
    if gs.isEmpty then ["keys: []".toList]
    else "keys:".toList :: gs.map fun g => "- \x27".toList ++ g.key ++ ['\x27']
  ["entries: ".toList ++ Text.ofNat count,
    "generated: \x27".toList ++ now.renderSeconds ++ ['\x27']] ++ keyLines

/-- The line before and after the metadata. -/
def fenceLine : Text := "---".toList

/-- The report of an index. -/
def report (i : Index) (now : Calendar.Instant) (cwd : Text) (relativeTo : Option Text) :
    Except Failure Text := do
  let gs := i.groups
  let text ← body cwd relativeTo gs
  let head := [fenceLine] ++ metadata now gs ++ [fenceLine, []]
  return Text.joinWith ['\n'] (head ++ [text]) ++ ['\n']

end TagLint.Index
