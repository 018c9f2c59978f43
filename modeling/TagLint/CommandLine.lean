import TagLint.Index.Report
import TagLint.Scanner
import TagLint.Settings.Load
/-!
The command line: `scan` prints the findings about all files below a folder, `index` prints the
report of their tags.

Of the log only its setting up is described, since that can fail. What is written to it goes neither
to the output nor into the exit code.
-/

namespace TagLint.CommandLine

/-- What surrounds a run: the disk, the environment, the current and the home folder, the clock. -/
structure Surroundings where
  disk : Storage.Disk
  environment : Settings.Environment
  cwd : Text
  home : Text
  now : Calendar.Instant

/-- What a run leaves behind. -/
structure Outcome where
  exit : Nat
  output : Text
deriving DecidableEq, Repr

/-- How the program is used. -/
def usage : Text :=
  ("Usage: python -m aitags [scan|index] [ROOT]\n" ++
    "  scan   Report expired, malformed and unresolved @AI tags (default)\n" ++
    "  index  Print the @AI tag index as markdown\n").toList

/-- The line printed for a finding about a file that is shown in this way. -/
def findingLine (shown : Text) (f : Finding) : Text :=
  shown ++ [':'] ++ Text.ofNat (f.line + 1) ++ [':'] ++ Text.ofNat (f.start + 1) ++ ": ".toList ++
    Finding.severity ++ ": ".toList ++ f.message ++ ['\n']

/-- The lines printed for the findings about a file; its path is shown as the way from the root. -/
def fileLines (cwd root : Text) (entry : Text × List Finding) : Except Failure Text :=
  match Path.relative? cwd entry.1 root with
  | some shown => .ok (entry.2.flatMap (findingLine shown))
  | none => .error .emptyPath

/-- What is printed for a board: file by file in the order of the paths. -/
def listing (cwd root : Text) (b : Board) : Except Failure Text := do
  let parts ← (Text.sortBy (·.1) b.entries).mapM (fileLines cwd root)
  return parts.flatten

/-- The workspace with a single root folder. -/
def workspace (s : Surroundings) (root : Text) : Workspace :=
  Workspace.ofFolders s.cwd [root] s.disk.fileSystem

/-- Scans and prints; the exit code tells whether something was found. -/
def scan (s : Surroundings) (settings : Settings) (root : Text) : Except Failure Outcome := do
  let scanner : Scanner := { workspace := workspace s root, settings, now := s.now }
  let (scanner, _) ← scanner.scanWorkspace s.disk
  let output ← listing s.cwd root scanner.board
  return { exit := if output.isEmpty then 0 else 1, output }

/-- Indexes and prints. -/
def index (s : Surroundings) (settings : Settings) (root : Text) : Except Failure Outcome := do
  let (i, result) := Index.rebuild (workspace s root) s.disk settings.limits
  let _ ← result
  let output ← i.report s.now s.cwd (some root)
  return { exit := 0, output }

/-- Sets up the log, which nothing has been written to so far, at this level. The level must be a
text. It is looked up in capitals among everything that the library of the log has a name for, and a
name that is not found there stands for the usual level. What is found is a level but for two names:
the form of a line, which is a text and is in turn taken for the name of a level, and the table of
such forms. -/
def setUpLog (level : Toml.Value) : Except Failure Unit :=
  match level with
  | .text name =>
    if Text.upper name = "BASIC_FORMAT".toList then
      .error (.storage (.invalid "Unknown level: '%(levelname)s:%(name)s:%(message)s'".toList))
    else if Text.upper name = "_STYLES".toList then .error .wrongType
    else .ok ()
  | _ => .error .wrongShape

/-- The settings for a run, whose log can be set up as they say. -/
def loadSettings (s : Surroundings) : Except Failure Settings := do
  let settings ← Settings.load s.disk s.environment s.cwd s.home none
  setUpLog settings.logLevel
  return settings

/-- A run with these arguments: a command, `scan` by default, and a root, by default the current
folder. -/
def run (s : Surroundings) (arguments : List Text) : Except Failure Outcome :=
  let command := arguments.head?.getD "scan".toList
  let root := Path.absolute s.cwd ((arguments[1]?).getD s.cwd)
  if command = "scan".toList then do
    let settings ← loadSettings s
    scan s settings root
  else if command = "index".toList then do
    let settings ← loadSettings s
    index s settings root
  else .ok { exit := 2, output := usage }

end TagLint.CommandLine
