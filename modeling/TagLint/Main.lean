import TagLint.CommandLine
import Std.Time.DateTime.Timestamp
/-!
The program: it takes a copy of the tree below the root, of the settings files and of what links
lead to, and hands it to the command line.
-/

namespace TagLint.Program

open Storage

/-- The names of the environment variables that are settings. -/
def settingNames : List String :=
  ["AITAGS_EXPIRY_ENABLED", "AITAGS_WARN_ON_INVALID", "AITAGS_GRACE_DAYS", "AITAGS_SYNC_ENABLED",
    "AITAGS_WARN_ON_MISSING", "AITAGS_MAX_FILE_SIZE", "AITAGS_LOG_LEVEL"]

/-- The settings that are set in the environment, with their values. -/
def environment : IO Settings.Environment :=
  settingNames.filterMapM fun name => do
    return (← IO.getEnv name).map fun value => (name.toList, value.toList)

/-- The text of a path. -/
def textOf (path : String) : Text := path.toList

/-- The trail to an absolute path. -/
def trailOf (path : String) : Trail := Path.components (textOf path)

/-- A copy in the making: the disk so far, and the places that it has already been taken from. -/
structure Copy where
  disk : Disk := {}
  done : List Trail := []

/-- The copy with an item more. -/
def Copy.put (c : Copy) (path : String) (item : Item) : Copy :=
  { disk := c.disk.put (trailOf path) item, done := trailOf path :: c.done }

/-- The copy with what stands at a path, what stands below it, and what links there lead to. -/
partial def Copy.take (c : Copy) (path : String) : IO Copy := do
  let place := (← IO.currentDir) / path
  if c.done.contains (trailOf path) then return c
  match (← place.symlinkMetadata.toBaseIO) with
  | .error _ => return c
  | .ok status =>
    match status.type with
    | .dir =>
      let folder := (c.disk.item? (trailOf path)).isSome
      let c := if folder then { c with done := trailOf path :: c.done } else c.put path .folder
      let entries ← try place.readDir catch _ => pure #[]
      entries.foldlM (fun c e => take c e.path.toString) c
    | .file =>
      let bytes ← try IO.FS.readBinFile place catch _ => pure ByteArray.empty
      return c.put path (.file bytes.toList)
    | .symlink =>
      match (← place.metadata.toBaseIO) with
      | .ok _ =>
        let target := (← IO.FS.realPath place).toString
        take (c.put path (.link (textOf target))) target
      | .error (.noFileOrDirectory ..) => return c.put path (.link ['\x00'])
      | .error _ => return c.put path (.link (textOf place.toString))
    | .other => return c.put path (.file [])

/-- The present, counted from the first day of the calendar. -/
def now : IO Calendar.Instant := do
  let stamp ← Std.Time.Timestamp.now
  let epoch := Calendar.Date.daysBeforeYear 1970 * Calendar.Instant.microsPerDay
  return ⟨epoch + stamp.toNanosecondsSinceUnixEpoch.val / 1000⟩

/-- Everything that a run with these arguments may look at. -/
def surroundings (arguments : List Text) : IO CommandLine.Surroundings := do
  let cwd := textOf (← IO.currentDir).toString
  let home := textOf ((← IO.getEnv "HOME").getD "/")
  let root := Path.absolute cwd ((arguments[1]?).getD cwd)
  let places := root :: Settings.candidates cwd home none
  let copy ← places.foldlM (fun c p => c.take (String.ofList p)) ({} : Copy)
  return { disk := copy.disk, environment := ← environment, cwd, home, now := ← now }

/-- Runs the command line, prints what it leaves behind and gives its exit code. -/
def run (arguments : List String) : IO UInt32 := do
  let arguments := arguments.map textOf
  match CommandLine.run (← surroundings arguments) arguments with
  | .ok outcome =>
    (← IO.getStdout).putStr (String.ofList outcome.output)
    return outcome.exit.toUInt32
  | .error failure =>
    let wording := (failure.message?).getD "the settings or the files cannot be used".toList
    (← IO.getStderr).putStrLn (String.ofList wording)
    return 1

end TagLint.Program

/-- Runs the program. -/
def main (arguments : List String) : IO UInt32 := TagLint.Program.run arguments
