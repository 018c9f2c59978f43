import TagLint.Scanner
/-!
A scanner in use. Scans of documents and of the whole workspace, clearing, changes of settings and
of the clock, and snapshots are asked for in any order, and scans overlap. A scan of the workspace
walks to its files when it begins. After that the turn of each file comes at some time: it is
opened, and the scan of its document begins like any other. The workspace has been scanned when the
last of these scans has finished.
-/

namespace TagLint

/-- A scan of the workspace: the limits as they were when it began, the files whose turn has not
come yet, the numbers of its scans of documents that are under way, and how many of them have
succeeded. -/
structure Scanner.Round where
  limits : Settings.Limits
  waiting : List Text
  running : List Nat := []
  count : Nat := 0

namespace Scanner.Round

/-- The round after the turn of a file, which may have begun a scan of this number. -/
def takeTurn (r : Round) (path : Text) (job : Option Nat) : Round :=
  { r with waiting := r.waiting.erase path, running := job.toList ++ r.running }

/-- The round after a scan of a document has finished. -/
def finish (r : Round) (job : Nat) (succeeded : Bool) : Round :=
  if job ∈ r.running then
    { r with running := r.running.erase job, count := r.count + succeeded.toNat }
  else r

/-- The number of documents that have been scanned, once the round is over. -/
def result? (r : Round) : Option Nat :=
  if r.waiting.isEmpty && r.running.isEmpty then some r.count else none

end Scanner.Round

/-- A scanner in use, with the disk that it walks on, the number of scans of documents that have
begun, the rounds through the workspace, and the snapshots that have been taken. -/
structure Scanner.Session where
  scanner : Scanner
  disk : Storage.Disk
  begun : Nat := 0
  rounds : List Scanner.Round := []
  snapshots : List Board := []

/-- What can be asked of a scanner, and what can come about while scans are under way. -/
inductive Scanner.Session.Action where
  | scan (document : Document)
  | scanWorkspace
  | takeTurn (round : Nat) (path : Text)
  | finish (job : Nat)
  | clear (path : Text)
  | clearAll
  | configure (settings : Settings)
  | setClock (now : Calendar.Instant)
  | snapshot

namespace Scanner

/-- The document at a path, if there is one to be scanned. -/
def open? (s : Scanner) (limits : Settings.Limits) (path : Text) : Option Document :=
  match Workspace.openDocument s.workspace.files limits path with
  | .ok d => d
  | .error _ => none

namespace Session

/-- A session that begins with a board and no scans under way. -/
def start (workspace : Workspace) (disk : Storage.Disk) (settings : Settings)
    (now : Calendar.Instant) (board : Board := {}) : Session :=
  { scanner := { workspace, settings, now, board }, disk }

/-- The document that is opened when the turn of a file comes, if the file waits for it. -/
def turn? (s : Session) (round : Nat) (path : Text) : Option Document := do
  let r ← s.rounds[round]?
  if path ∈ r.waiting then s.scanner.open? r.limits path else none

/-- What an action means to the scanner. A scan of a document gets the next number. -/
def event? (s : Session) : Action → Option Event
  | .scan d => some (.begin s.begun d)
  | .takeTurn round path => (s.turn? round path).map (.begin s.begun)
  | .finish job => some (.finish job)
  | .clear path => some (.clear path)
  | .clearAll => some .clearAll
  | .configure settings => some (.configure settings)
  | .setClock now => some (.setClock now)
  | .scanWorkspace => none
  | .snapshot => none

/-- The number of scans of documents that have begun, after an action. -/
def begunAfter (s : Session) (a : Action) : Nat :=
  match s.event? a with
  | some (.begin _ _) => s.begun + 1
  | _ => s.begun

/-- The rounds after an action. A walk that fails begins no round. -/
def roundsAfter (s : Session) : Action → List Round
  | .scanWorkspace =>
    match s.scanner.workspace.walk s.disk s.scanner.settings.limits with
    | .ok paths => s.rounds ++ [{ limits := s.scanner.settings.limits, waiting := paths }]
    | .error _ => s.rounds
  | .takeTurn round path =>
    s.rounds.modify round fun r => r.takeTurn path ((s.turn? round path).map fun _ => s.begun)
  | .finish job =>
    match s.scanner.jobs.lookup job with
    | some j => s.rounds.map fun r => r.finish job j.result.toBool
    | none => s.rounds
  | _ => s.rounds

/-- The snapshots after an action. -/
def snapshotsAfter (s : Session) : Action → List Board
  | .snapshot => s.snapshots ++ [s.scanner.board]
  | _ => s.snapshots

/-- The session after an action. -/
def step (s : Session) (a : Action) : Session where
  scanner := (s.event? a).elim s.scanner s.scanner.step
  disk := s.disk
  begun := s.begunAfter a
  rounds := s.roundsAfter a
  snapshots := s.snapshotsAfter a

/-- The session after a run of actions. -/
def run (s : Session) (actions : List Action) : Session := actions.foldl step s

/-- The number of documents that a round has scanned, once it is over. -/
def result? (s : Session) (round : Nat) : Option Nat := do
  let r ← s.rounds[round]?
  r.result?

end Session

end Scanner

end TagLint
