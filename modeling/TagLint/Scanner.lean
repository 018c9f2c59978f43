import TagLint.Board
import TagLint.Inspection
import TagLint.Workspace.Walk
/-!
The scanner: a board that is kept up to date while settings and clock change. A scan of a document
takes settings, clock and document as they are when it begins, and writes its entry once, when it
finishes; scans may overlap.
-/

namespace TagLint

/-- A scan under way: the path that it is for and what it will find. -/
structure Scanner.Job where
  path : Text
  result : Except Failure (List Finding)

/-- A scanner: its workspace, its settings, its clock, its board, and the scans under way. -/
structure Scanner where
  workspace : Workspace
  settings : Settings
  now : Calendar.Instant
  board : Board := {}
  jobs : List (Nat × Scanner.Job) := []

/-- What can happen to a scanner. -/
inductive Scanner.Event where
  | begin (job : Nat) (document : Document)
  | finish (job : Nat)
  | clear (path : Text)
  | clearAll
  | configure (settings : Settings)
  | setClock (now : Calendar.Instant)

namespace Scanner

/-- What a scan that begins now will find. -/
def inspect (s : Scanner) (d : Document) : Except Failure (List Finding) :=
  d.findings s.settings s.workspace s.now

/-- The board after a scan has finished: a scan that fails leaves no trace. -/
def record (b : Board) (job : Job) : Board :=
  match job.result with
  | .ok findings => b.set job.path findings
  | .error _ => b

/-- The scanner after an event. -/
def step (s : Scanner) : Event → Scanner
  | .begin job d => { s with jobs := (job, { path := d.path, result := s.inspect d }) :: s.jobs }
  | .finish job =>
    match s.jobs.lookup job with
    | some j => { s with board := record s.board j, jobs := s.jobs.filter (·.1 != job) }
    | none => s
  | .clear path => { s with board := s.board.clear path }
  | .clearAll => { s with board := {} }
  | .configure settings => { s with settings }
  | .setClock now => { s with now }

/-- The scanner after a run of events. -/
def run (s : Scanner) (events : List Event) : Scanner := events.foldl step s

/-- Scans one document from beginning to end. -/
def scan (s : Scanner) (d : Document) : Scanner × Except Failure (List Finding) :=
  let result := s.inspect d
  ({ s with board := record s.board { path := d.path, result } }, result)

/-- Scans documents one after the other, and counts those that could be scanned. -/
def scanAll (s : Scanner) : List Document → Scanner × Nat
  | [] => (s, 0)
  | d :: ds =>
    let (s, result) := s.scan d
    let (s, n) := s.scanAll ds
    (s, match result with
      | .ok _ => n + 1
      | .error _ => n)

/-- Scans every file below the root folders, and counts those that could be scanned, once for each
time that they are reached. -/
def scanWorkspace (s : Scanner) (disk : Storage.Disk) : Except Failure (Scanner × Nat) := do
  let paths ← s.workspace.walk disk s.settings.limits
  let documents ← s.workspace.openAll s.settings.limits paths
  return s.scanAll documents

end Scanner

end TagLint
