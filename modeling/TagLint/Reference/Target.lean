import TagLint.Reference.Basic
import TagLint.Workspace
/-!
Where references lead. Every target lies strictly inside the root folder of the document. A path
that starts with `./` or `../` is read in the document's folder, every other one in the root.
-/

namespace TagLint.Reference

/-- Why a reference leads nowhere. -/
inductive Obstacle where
  | noPath
  | absolutePath
  | noFolder
  | outside
  /-- Nothing is at the place; the path is the one written. -/
  | notFound (path candidate : Text)
  | unreadableFolder (token : Text)
  | emptyFolder (token : Text)
deriving DecidableEq, Repr

/-- What a token of a payload leads to. -/
inductive Target where
  /-- A file or folder, or one of the files of a folder that was listed. -/
  | found (token location : Text) (isFolder fromFolder : Bool) (place : Place)
  | missing (token : Text) (obstacle : Obstacle)
deriving DecidableEq, Repr

/-- Whether a path may be offered for creation: it names a file and not a folder. -/
def allowsCreation (path : Text) : Bool :=
  match path.getLast? with
  | none => false
  | some c => c != '/' && c != '\\'

namespace Obstacle

/-- The wording of an obstacle. -/
def reason : Obstacle → Text
  | noPath => "missing file path".toList
  | absolutePath => "use a workspace-relative path".toList
  | noFolder => "workspace folder not found".toList
  | outside => "path is outside workspace root".toList
  | notFound path _ => "target not found: ".toList ++ path
  | unreadableFolder token => "failed to read folder: ".toList ++ token
  | emptyFolder token => "no files found in folder: ".toList ++ token

/-- The place where the target was looked for. -/
def candidate? : Obstacle → Option Text
  | notFound _ candidate => some candidate
  | _ => none

/-- Whether the target may be created at the candidate place. -/
def allowsCreation : Obstacle → Bool
  | notFound path _ => Reference.allowsCreation path
  | _ => false

end Obstacle

/-- Whether a path is read in the document's folder; both kinds of slash count. -/
def isDocumentRelative (path : Text) : Bool :=
  ["./", "../", ".\\", "..\\"].any fun s => s.toList.isPrefixOf path

/-- Whether `target` lies strictly inside `root`, judged by the way from one to the other: it must
not be empty and must not start with two dots. -/
def isWithin (cwd root target : Text) : Bool :=
  match Path.relative? cwd target root with
  | none => false
  | some way => way != Path.here && !Path.up.isPrefixOf way && !Path.isAbsolute way

/-- The place that a relative path means, if it is strictly inside the root. -/
def place? (w : Workspace) (document root path : Text) : Option Text :=
  let base :=
    if isDocumentRelative path then Path.parent (Path.absolute w.cwd document) else root
  let target := Path.normalize (Path.join base path)
  if isWithin w.cwd root target then some target else none

/-- What is at a place; a fault that may be passed over counts as nothing. -/
def probe (files : Storage.FileSystem) (place : Text) :
    Except Failure (Option Storage.Probe) :=
  match files.probe place with
  | .ok found => .ok found
  | .error fault => if fault.isTolerable then .ok none else .error (.storage fault)

/-- The place that a path leads to and whether it is a folder, or why it leads nowhere. -/
def locate (w : Workspace) (document path : Text) :
    Except Failure (Except Obstacle (Text × Bool)) :=
  if path.isEmpty then .ok (.error .noPath)
  else if Path.isAbsolute path then .ok (.error .absolutePath)
  else
    match w.folderFor? document with
    | none => .ok (.error .noFolder)
    | some root =>
      match place? w document root path with
      | none => .ok (.error .outside)
      | some target => do
        match ← probe w.files target with
        | none => return .error (.notFound path target)
        | some found => return .ok (target, found.isFolder)

/-- One target for each file in a folder, or one that tells why there is none. -/
def expand (w : Workspace) (token folder : Text) (place : Place) : Except Failure (List Target) :=
  match w.files.list folder with
  | .error fault =>
    if fault.isTolerable then .ok [.missing token (.unreadableFolder token)]
    else .error (.storage fault)
  | .ok entries =>
    let files := entries.filter (·.2)
    if files.isEmpty then .ok [.missing token (.emptyFolder token)]
    else .ok (files.map fun e => .found token (Path.join folder e.1) false true place)

/-- The targets of one token. -/
def targetsOfToken (w : Workspace) (document : Text) (expandFolders : Bool) (token : Text) :
    Except Failure (List Target) := do
  let r ← ofToken token
  match ← locate w document r.path with
  | .error obstacle => return [.missing token obstacle]
  | .ok (location, isFolder) =>
    if isFolder && expandFolders then expand w token location r.place
    else return [.found token location isFolder false r.place]

/-- The targets of a payload, in the order of its tokens. If asked to, a folder is replaced by the
files in it. -/
def targets (w : Workspace) (document payload : Text) (expandFolders : Bool) :
    Except Failure (List Target) :=
  match tokens payload with
  | [] => .ok [.missing [] .noPath]
  | ts => do
    let found ← ts.mapM (targetsOfToken w document expandFolders)
    return found.flatten

end TagLint.Reference
