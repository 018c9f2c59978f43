import TagLint.Settings.Basic
import TagLint.Storage.Disk
import TagLint.Text.Blank
import TagLint.Toml.Reader
/-!
Loading the settings. An environment variable counts more than the settings file, and that more than
the default, field by field. The settings file is the one asked for, or else the one in the current
folder, or else the one in the home folder; if none exists all its fields are missing.
-/

namespace TagLint.Settings

/-- Environment variables with their values. -/
abbrev Environment := List (Text × Text)

/-- The value of a variable. -/
def Environment.get? (env : Environment) (name : String) : Option Text := env.lookup name.toList

/-! ## Single fields -/

/-- The greatest whole number of days in a setting, not below zero; `fallback` if there is no such
number. -/
def daysOfReal (fallback : Int) : Binary64 → Int
  | .finite units => if units < 0 then 0 else Binary64.floorUnits units
  | _ => fallback

/-- The days of grace that a text asks for. -/
def daysOfText (t : Text) (fallback : Int) : Int :=
  match Numeral.readReal? t with
  | some x => daysOfReal fallback x
  | none => fallback

/-- The floating-point number that a value stands for: a number or a numeral. -/
def numberIn? : Toml.Value → Option Binary64
  | .integer n => some (Binary64.ofInt n)
  | .real x => some x
  | .text t => Numeral.readReal? t
  | _ => none

/-- Whether a value is a whole number beyond the floating-point ones. -/
def isBeyondReals : Toml.Value → Bool
  | .integer n =>
    match Binary64.ofInt n with
    | .infinite _ => true
    | _ => false
  | _ => false

/-- The days of grace that a value asks for. Whole numbers pass through the floating-point ones; one
beyond their range is a failure. -/
def clampDays (v : Toml.Value) (fallback : Int) : Except Failure Int :=
  if isBeyondReals v then .error .outOfRange
  else .ok (((numberIn? v).map (daysOfReal fallback)).getD fallback)

/-- The words for a truth value, in any letter case and with blanks around them. -/
def truthOfText? (t : Text) : Option Bool :=
  let word := Text.lower (Text.trim t)
  if ["1", "true", "yes", "on"].any (·.toList == word) then some true
  else if ["0", "false", "no", "off"].any (·.toList == word) then some false
  else none

/-- A truth value from the environment, or else from the file, or else by default. -/
def truth (env : Environment) (name : String) (inFile : Option Toml.Value) (default : Bool) :
    Bool :=
  let fallback := (inFile.bind Toml.Value.truth?).getD default
  match env.get? name with
  | none => fallback
  | some t => (truthOfText? t).getD fallback

/-- The whole number that a value is cut to. -/
def wholeNumber : Toml.Value → Except Failure Int
  | .integer n => .ok n
  | .truth b => .ok (if b then 1 else 0)
  | .real (.finite units) => .ok (Binary64.truncateUnits units)
  | .real (.infinite _) => .error .outOfRange
  | .real .nan => .error .notANumber
  | .text t => Numeral.readInt t
  | _ => .error .wrongType

/-- The members of a value: the items of an array, the keys of a table, the characters of a text. -/
def membersOf : Toml.Value → Except Failure (List Toml.Value)
  | .array items => .ok items
  | .table entries => .ok (entries.map fun e => .text e.1)
  | .text t => .ok (t.map fun c => .text [c])
  | _ => .error .wrongType

/-! ## The whole -/

/-- A section of the file, empty if it is missing. -/
def section? (file : Toml.Table) (name : String) : Toml.Value :=
  (file.lookup name.toList).getD (.table [])

/-- The entries of a section, which must be a table. -/
def entriesOf (v : Toml.Value) : Except Failure Toml.Table :=
  match v.table? with
  | some es => .ok es
  | none => .error .wrongShape

/-- A field of a section. -/
def field (t : Toml.Table) (name : String) : Option Toml.Value := t.lookup name.toList

/-- The settings of an empty environment without a file. -/
def usual : Settings := {}

/-- The days of grace in the file. -/
def daysInFile (expiry : Toml.Table) : Except Failure Int :=
  match field expiry "grace_days" with
  | some v => clampDays v usual.expiry.graceDays
  | none => .ok usual.expiry.graceDays

/-- The days of grace from the environment, or else those in the file. -/
def days (env : Environment) (fileDays : Int) : Int :=
  match env.get? "AITAGS_GRACE_DAYS" with
  | some t => daysOfText t fileDays
  | none => fileDays

/-- The excluded folders. -/
def excludedIn (scan : Toml.Table) : Except Failure (List Toml.Value) :=
  match field scan "exclude_dirs" with
  | some v => membersOf v
  | none => .ok usual.limits.excluded

/-- The greatest size of a file. -/
def maxSizeIn (env : Environment) (scan : Toml.Table) : Except Failure Int :=
  match env.get? "AITAGS_MAX_FILE_SIZE", field scan "max_file_size" with
  | some t, _ => Numeral.readInt t
  | none, some v => wholeNumber v
  | none, none => .ok usual.limits.maxSize

/-- The level of logging. -/
def logLevelIn (env : Environment) (file : Toml.Table) : Toml.Value :=
  match env.get? "AITAGS_LOG_LEVEL" with
  | some t => .text t
  | none => (field file "log_level").getD usual.logLevel

/-- The settings that an environment and the contents of a settings file make. -/
def ofSources (env : Environment) (file : Toml.Table) : Except Failure Settings := do
  let expiry ← entriesOf (section? file "expiry")
  let fileDays ← daysInFile expiry
  let scan ← entriesOf (section? file "scan")
  let sync ← entriesOf (section? file "sync")
  let excluded ← excludedIn scan
  let maxSize ← maxSizeIn env scan
  return {
    expiry := {
      enabled := truth env "AITAGS_EXPIRY_ENABLED" (field expiry "enabled") usual.expiry.enabled
      warnOnInvalid :=
        truth env "AITAGS_WARN_ON_INVALID" (field expiry "warn_on_invalid")
          usual.expiry.warnOnInvalid
      graceDays := days env fileDays }
    sync := {
      enabled := truth env "AITAGS_SYNC_ENABLED" (field sync "enabled") usual.sync.enabled
      warnOnMissing :=
        truth env "AITAGS_WARN_ON_MISSING" (field sync "warn_on_missing")
          usual.sync.warnOnMissing }
    limits := { excluded, maxSize }
    logLevel := logLevelIn env file }

/-- Whether a path names something; it may lead nowhere in any way but through a name that is too
long. -/
def isThere (disk : Storage.Disk) (path : Text) : Except Failure Bool :=
  match disk.locate true (Storage.Disk.tidy path) with
  | .ok _ => .ok true
  | .error .missing => .ok false
  | .error .notFolder => .ok false
  | .error (.invalid _) => .ok false
  | .error .loop => .ok false
  | .error fault => .error (.storage fault)

/-- The first of the paths that names something. -/
def firstThere (disk : Storage.Disk) : List Text → Except Failure (Option Text)
  | [] => .ok none
  | p :: ps => do if ← isThere disk p then return some p else firstThere disk ps

/-- The name of a settings file. -/
def fileName : Text := "aitags.toml".toList

/-- Where settings are looked for: the file asked for, then the current and the home folder. -/
def candidates (cwd home : Text) (asked : Option Text) : List Text :=
  asked.toList ++ [Path.join cwd fileName, Path.join (Path.join home ".aitags".toList) fileName]

/-- Loads the settings. -/
def load (disk : Storage.Disk) (env : Environment) (cwd home : Text) (asked : Option Text) :
    Except Failure Settings := do
  match ← firstThere disk (candidates cwd home asked) with
  | none => ofSources env []
  | some path =>
    match disk.read path with
    | .error fault => .error (.storage fault)
    | .ok text => ofSources env (← Toml.read text)

end TagLint.Settings
