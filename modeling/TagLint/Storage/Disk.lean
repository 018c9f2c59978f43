import TagLint.Path
import TagLint.Storage.FileSystem
import TagLint.Text.Lines
import TagLint.Text.Order
import TagLint.Text.Utf8
/-!
A disk as a value: files, folders and symbolic links, each under the names that lead to it from the
root. Paths are followed name by name; a link on the way is replaced by its target, at most forty
times. There are no permissions on a disk: who can name an item can read it.
-/

namespace TagLint.Storage

/-- What a disk holds under a path. -/
inductive Item where
  | file (bytes : List UInt8)
  | folder
  | link (target : Text)
deriving DecidableEq, Repr

/-- Names from the root to an item. -/
abbrev Trail := List Text

/-- A disk. The root is a folder and is not listed. -/
structure Disk where
  items : List (Trail × Item) := []

/-- An entry of a folder. -/
structure Entry where
  name : Text
  item : Item

namespace Disk

/-- What is found at the end of a trail, with no link followed. -/
def item? (d : Disk) (trail : Trail) : Option Item :=
  if trail.isEmpty then some .folder else d.items.lookup trail

/-- The longest name, in bytes. -/
def nameLimit : Nat := 255

/-- The longest path, in bytes. -/
def pathLimit : Nat := 4095

/-- How many links may be followed on one way. -/
def linkLimit : Nat := 40

/-- The names to follow for a path; a slash at the end asks for a folder. -/
def stepsOf (path : Text) : List Text :=
  Path.components path ++ if path.getLast? = some '/' then [Path.here] else []

/-- Follows names from a trail. When a link is met, `jump` goes on from the place where its target
starts with the names of the target and the rest. Unless `followLast`, a link that is the last name
is not followed. -/
def descend (d : Disk) (jump : Trail → List Text → Except Fault Trail) (followLast : Bool) :
    Trail → List Text → Except Fault Trail
  | trail, [] => .ok trail
  | trail, name :: rest =>
    if d.item? trail ≠ some .folder then .error .notFolder
    else if name = Path.here then descend d jump followLast trail rest
    else if name = Path.up then descend d jump followLast trail.dropLast rest
    else if nameLimit < Text.byteLength name then .error .refused
    else
      match d.item? (trail ++ [name]) with
      | none => .error .missing
      | some (.link target) =>
        if rest.isEmpty && !followLast then .ok (trail ++ [name])
        else jump (if Path.isAbsolute target then [] else trail) (stepsOf target ++ rest)
      | some _ => descend d jump followLast (trail ++ [name]) rest

/-- Follows names from a trail, over no more than `links` links. -/
def follow (d : Disk) (followLast : Bool) : (links : Nat) → Trail → List Text → Except Fault Trail
  | 0 => descend d (fun _ _ => .error .loop) followLast
  | links + 1 => descend d (follow d followLast links) followLast

/-- The trail that a path leads to. Every path is read at the root. -/
def locate (d : Disk) (followLast : Bool) (path : Text) : Except Fault Trail :=
  if path.contains '\x00' then .error (.invalid "embedded null byte".toList)
  else if path.isEmpty then .error .missing
  else if pathLimit < Text.byteLength path then .error .refused
  else follow d followLast linkLimit [] (stepsOf path)

/-- What a path names, with all links followed. -/
def find (d : Disk) (path : Text) : Except Fault Item :=
  match d.locate true path with
  | .error e => .error e
  | .ok trail =>
    match d.item? trail with
    | none => .error .missing
    | some i => .ok i

/-- The answer to a probe: a missing item and a path that can name none are no faults. -/
def probe (d : Disk) (path : Text) : Except Fault (Option Probe) :=
  match d.find path with
  | .ok (.file bytes) => .ok (some { isFolder := false, size := bytes.length })
  | .ok _ => .ok (some { isFolder := true, size := 0 })
  | .error .missing => .ok none
  | .error (.invalid _) => .ok none
  | .error e => .error e

/-- The last name of a trail, if the trail is one name longer than `folder`. -/
def nameIn? (folder trail : Trail) : Option Text :=
  if trail.dropLast = folder then trail.getLast? else none

/-- The entries directly inside a folder, in the order of their names. -/
def entriesAt (d : Disk) (folder : Trail) : List Entry :=
  Text.sortBy (·.name) <| d.items.filterMap fun (trail, item) =>
    (nameIn? folder trail).map fun name => { name, item }

/-- The trail of a folder and its entries. -/
def entries (d : Disk) (path : Text) : Except Fault (Trail × List Entry) := do
  let trail ← d.locate true path
  match d.item? trail with
  | none => .error .missing
  | some .folder => return (trail, d.entriesAt trail)
  | some _ => .error .notFolder

/-- What an entry of the folder at a path is with its links followed; nothing if a link leads
nowhere. A link is looked up by its whole path. -/
def target? (d : Disk) (folder : Text) (e : Entry) : Except Fault (Option Item) :=
  match e.item with
  | .link _ =>
    match d.find (Path.join folder e.name) with
    | .ok item => .ok (some item)
    | .error .missing => .ok none
    | .error fault => .error fault
  | item => .ok (some item)

/-- Whether an item is a file. -/
def isFile : Option Item → Bool
  | some (.file _) => true
  | _ => false

/-- The entries of a folder with whether each is a file. A link whose target cannot be looked up
makes the whole list fail. -/
def list (d : Disk) (path : Text) : Except Fault (List (Text × Bool)) := do
  let (_, es) ← d.entries path
  es.mapM fun e => do
    let item ← d.target? path e
    return (e.name, isFile item)

/-- A path without repeated slashes, single dots and slashes at the end. -/
def tidy (path : Text) : Text :=
  Path.render (Path.rootSlashes path) ((Path.components path).filter (· != Path.here))

/-- The text of a file, with every line terminator as a single LF. -/
def read (d : Disk) (path : Text) : Except Fault Text := do
  match ← d.find (tidy path) with
  | .file bytes =>
    match Text.decode? bytes with
    | some t => return Text.unifyBreaks t
    | none => .error .notText
  | _ => .error .isFolder

/-- The disk as a file system. -/
def fileSystem (d : Disk) : FileSystem where
  probe := d.probe
  list := d.list
  read := d.read

/-- The disk with a folder at the end of a trail, unless something is there. -/
def addFolder (d : Disk) (trail : Trail) : Disk :=
  if (d.item? trail).isSome then d else { items := d.items ++ [(trail, .folder)] }

/-- The disk without the item at the end of a trail. -/
def remove (d : Disk) (trail : Trail) : Disk := { items := d.items.filter (·.1 != trail) }

/-- The proper beginnings of a trail, the shortest first. -/
def outerTrails (trail : Trail) : List Trail := (List.range trail.length).map fun i => trail.take i

/-- The disk with an item at the end of a trail, and with the folders that lead there. -/
def put (d : Disk) (trail : Trail) (item : Item) : Disk :=
  let d := (outerTrails trail).foldl addFolder d
  { items := (d.remove trail).items ++ [(trail, item)] }

end Disk

end TagLint.Storage
