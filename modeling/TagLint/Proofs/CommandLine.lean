import TagLint.CommandLine
import TagLint.Proofs.Inspection
import TagLint.Proofs.Scanner
import TagLint.Proofs.Text.Order
/-!
What a scan from the command line prints, and what its exit code tells. It prints a line for each
report on the board, and the exit code is 0 exactly when there is none. A finding about a tag looked
at by itself is reported as long as every tag of the file can be judged; if one cannot, nothing at
all is reported about the file. Nothing is printed either if the log cannot be set up.
-/

namespace TagLint

/-! ## Reports -/

/-- The findings on a board with their paths, in the order in which they are printed. -/
def Board.reports (b : Board) : List (Text × Finding) :=
  (Text.sortBy (·.1) b.entries).flatMap fun e => e.2.map fun f => (e.1, f)

theorem Board.mem_reports {b : Board} {p : Text} {f : Finding} :
    (p, f) ∈ b.reports ↔ ∃ fs, (p, fs) ∈ b.entries ∧ f ∈ fs := by
  unfold reports
  rw [List.mem_flatMap]
  constructor
  · rintro ⟨e, he, h⟩
    obtain ⟨g, hg, heq⟩ := List.mem_map.mp h
    cases heq
    exact ⟨e.2, (Text.mem_sortBy _ _ e).mp he, hg⟩
  · rintro ⟨fs, hfs, hf⟩
    exact ⟨(p, fs), (Text.mem_sortBy _ _ _).mpr hfs, List.mem_map.mpr ⟨f, hf, rfl⟩⟩

namespace CommandLine

/-- A path as it is shown below a root. -/
def shownPath (cwd root path : Text) : Text := (Path.relative? cwd path root).getD []

/-- The line printed for a report. -/
def reportLine (cwd root : Text) (report : Text × Finding) : Text :=
  findingLine (shownPath cwd root report.1) report.2

theorem findingLine_ne_nil (shown : Text) (f : Finding) : findingLine shown f ≠ [] := by
  unfold findingLine
  simp

theorem relative?_eq_some_shownPath (cwd root : Text) {path : Text} (h : path ≠ []) :
    Path.relative? cwd path root = some (shownPath cwd root path) := by
  unfold shownPath Path.relative?
  rw [if_neg (by simpa using h), Option.getD_some]

theorem fileLines_eq_ok (cwd root : Text) {e : Text × List Finding} (h : e.1 ≠ []) :
    fileLines cwd root e = .ok (e.2.flatMap (findingLine (shownPath cwd root e.1))) := by
  unfold fileLines
  rw [relative?_eq_some_shownPath cwd root h]

/-- A board whose paths are not empty is printed report by report. -/
theorem listing_eq_ok (cwd root : Text) {b : Board} (h : ∀ e ∈ b.entries, e.1 ≠ []) :
    listing cwd root b = .ok (b.reports.flatMap (reportLine cwd root)) := by
  have hlines : ∀ e ∈ Text.sortBy (·.1) b.entries, fileLines cwd root e = _ := fun e he =>
    fileLines_eq_ok cwd root (h e ((Text.mem_sortBy _ _ e).mp he))
  unfold listing
  rw [Traverse.mapM_eq_ok_map hlines, Traverse.ok_bind]
  unfold Board.reports
  rw [List.flatMap_assoc, ← List.flatMap_def]
  congr 2
  funext e
  rw [List.flatMap_map]
  rfl

theorem flatMap_reportLine_eq_nil_iff (cwd root : Text) (reports : List (Text × Finding)) :
    reports.flatMap (reportLine cwd root) = [] ↔ reports = [] := by
  cases reports with
  | nil => simp
  | cons r rs =>
    rw [List.flatMap_cons, List.append_eq_nil_iff]
    simp [reportLine, findingLine_ne_nil]

/-! ## The settings of a run -/

/-- A text sets a level of the log: in capitals it is none of the two names that belong to something
else. -/
def IsLevel (name : Text) : Prop :=
  Text.upper name ≠ "BASIC_FORMAT".toList ∧ Text.upper name ≠ "_STYLES".toList

theorem setUpLog_text_eq_ok_iff (name : Text) : setUpLog (.text name) = .ok () ↔ IsLevel name := by
  unfold setUpLog IsLevel
  dsimp only
  split
  · rename_i hform
    exact iff_of_false nofun fun h => h.1 hform
  · rename_i hform
    split
    · rename_i htable
      exact iff_of_false nofun fun h => h.2 htable
    · rename_i htable
      exact iff_of_true rfl ⟨hform, htable⟩

section Settings

variable {s : Surroundings} {settings : Settings} {level : Text}

theorem loadSettings_eq_of_load
    (hload : Settings.load s.disk s.environment s.cwd s.home none = .ok settings)
    (hlevel : settings.logLevel = .text level) :
    loadSettings s = (setUpLog (.text level)).map fun _ => settings := by
  unfold loadSettings
  rw [hload, Traverse.ok_bind, hlevel]
  cases setUpLog (.text level) <;> rfl

theorem loadSettings_eq_ok
    (hload : Settings.load s.disk s.environment s.cwd s.home none = .ok settings)
    (hlevel : settings.logLevel = .text level) (h : IsLevel level) :
    loadSettings s = .ok settings := by
  rw [loadSettings_eq_of_load hload hlevel, (setUpLog_text_eq_ok_iff level).mpr h]
  rfl

theorem exists_loadSettings_eq_error
    (hload : Settings.load s.disk s.environment s.cwd s.home none = .ok settings)
    (hlevel : settings.logLevel = .text level) (h : ¬ IsLevel level) :
    ∃ failure, loadSettings s = .error failure := by
  rw [loadSettings_eq_of_load hload hlevel]
  cases hlog : setUpLog (.text level) with
  | ok => exact absurd ((setUpLog_text_eq_ok_iff level).mp hlog) h
  | error failure => exact ⟨failure, rfl⟩

/-- A run for which the settings cannot be loaded, or the log not be set up, fails in the same way,
whether it scans or indexes. -/
theorem run_eq_error {arguments : List Text} {failure : Failure}
    (hcommand : arguments.head?.getD "scan".toList ∈ ["scan".toList, "index".toList])
    (h : loadSettings s = .error failure) : run s arguments = .error failure := by
  unfold run
  dsimp only
  rw [h]
  rcases List.mem_pair.mp hcommand with hscan | hindex
  · rw [if_pos hscan]
    rfl
  · rw [hindex, if_neg (by decide), if_pos rfl]
    rfl

end Settings

/-! ## A whole run -/

/-- The root of a run with these arguments. -/
def rootOf (s : Surroundings) (arguments : List Text) : Text :=
  Path.absolute s.cwd ((arguments[1]?).getD s.cwd)

/-- The scanner that a run begins with. -/
def scannerAt (s : Surroundings) (settings : Settings) (root : Text) : Scanner :=
  { workspace := workspace s root, settings, now := s.now }

theorem isTolerable_workspace (s : Surroundings) (root : Text) :
    (workspace s root).files.IsTolerable := s.disk.isTolerable_fileSystem

theorem ne_nil_of_mem_folders (s : Surroundings) (root : Text) :
    ∀ f ∈ (workspace s root).folders, f ≠ [] := by
  intro f hf
  obtain ⟨g, -, rfl⟩ := List.mem_map.mp hf
  exact Path.absolute_ne_nil s.cwd g

theorem run_scan {s : Surroundings} {arguments : List Text} {settings : Settings}
    (hcommand : arguments.head?.getD "scan".toList = "scan".toList)
    (hsettings : loadSettings s = .ok settings) {scanner : Scanner} {n : Nat}
    (hscan : (scannerAt s settings (rootOf s arguments)).scanWorkspace s.disk = .ok (scanner, n))
    (hpaths : ∀ e ∈ scanner.board.entries, e.1 ≠ []) :
    run s arguments = .ok {
      exit := if scanner.board.reports = [] then 0 else 1
      output := scanner.board.reports.flatMap (reportLine s.cwd (rootOf s arguments)) } := by
  have hrun : run s arguments = scan s settings (rootOf s arguments) := by
    unfold run
    dsimp only
    rw [if_pos hcommand, hsettings, Traverse.ok_bind]
    rfl
  have hlisting := listing_eq_ok s.cwd (rootOf s arguments) hpaths
  rw [hrun]
  unfold scan
  unfold scannerAt at hscan
  dsimp only
  rw [hscan, Traverse.ok_bind]
  dsimp only
  rw [hlisting, Traverse.ok_bind]
  congr 2
  simp only [List.isEmpty_iff, flatMap_reportLine_eq_nil_iff]

/-- What a scan makes of a finding about a tag that is made when the tag is looked at by itself. -/
theorem exists_scanWorkspace_reports {s : Surroundings} {settings : Settings} {root : Text}
    {paths : List Text} (hwalk : (workspace s root).walk s.disk settings.limits = .ok paths)
    {p : Text} (hp : p ∈ paths) {d : Document}
    (hd : Workspace.IsEligible s.disk settings.limits p d) {tag : Tag} {f : Finding}
    (halone : d.IsFoundAlone settings (workspace s root) s.now tag f) :
    ∃ scanner n, (scannerAt s settings root).scanWorkspace s.disk = .ok (scanner, n) ∧
      (∀ e ∈ scanner.board.entries, e.1 ≠ []) ∧
      ((∀ t ∈ d.tags, t.IsInRange settings) → (p, f) ∈ scanner.board.reports) ∧
      ((¬ ∀ t ∈ d.tags, t.IsInRange settings) → ∀ g, (p, g) ∉ scanner.board.reports) := by
  have hfiles := isTolerable_workspace s root
  obtain ⟨scanner, n, hscan, hfind, hentries⟩ := Scanner.find?_scanWorkspace
    (s := scannerAt s settings root) hfiles hwalk hp (Workspace.openDocument_eq_ok hd)
  have hfindings : (∃ fs, (scannerAt s settings root).inspect d = .ok fs) ↔
      ∀ t ∈ d.tags, t.IsInRange settings := Document.exists_findings_eq_ok_iff hfiles
  refine ⟨scanner, n, hscan, ?_, ?_, ?_⟩
  · intro e he
    rcases hentries e he with he | he
    · cases he
    · exact Workspace.ne_nil_of_mem_walk (ne_nil_of_mem_folders s _) hwalk _ he
  · intro hrange
    obtain ⟨fs, hfs⟩ := hfindings.mpr hrange
    have hentry : scanner.board.find? p = some fs := by
      rw [hfind, hfs]
      rfl
    rw [Board.mem_reports]
    exact ⟨fs, ByPath.mem_of_find? hentry, halone.mem_findings hfs⟩
  · intro hrange g hg
    -- One tag that cannot be judged takes the whole entry of the file off the board.
    have hentry : scanner.board.find? p = none := by
      rw [hfind]
      cases hinspect : (scannerAt s settings root).inspect d with
      | ok fs => exact absurd (hfindings.mp ⟨fs, hinspect⟩) hrange
      | error failure => rfl
    obtain ⟨gs, hgs, -⟩ := Board.mem_reports.mp hg
    exact ByPath.ne_of_find?_eq_none hentry _ hgs rfl

/-- A finding about a tag of a file that is made when the tag is looked at by itself is printed, and
the exit code is 1, if every tag of the file can be judged; otherwise nothing is printed about the
file. No other file plays a part in it. All this holds of a run whose log can be set up at the level
of the settings; any other run fails. -/
theorem run_scan_reports (s : Surroundings) (arguments : List Text) {settings : Settings}
    {level : Text} (hcommand : arguments.head?.getD "scan".toList = "scan".toList)
    (hload : Settings.load s.disk s.environment s.cwd s.home none = .ok settings)
    (hlevel : settings.logLevel = .text level) {paths : List Text}
    (hwalk : (workspace s (rootOf s arguments)).walk s.disk settings.limits = .ok paths)
    {p : Text} (hp : p ∈ paths) {d : Document}
    (hd : Workspace.IsEligible s.disk settings.limits p d) {tag : Tag} {f : Finding}
    (halone : d.IsFoundAlone settings (workspace s (rootOf s arguments)) s.now tag f) :
    (IsLevel level → ∃ scanner n outcome,
      (scannerAt s settings (rootOf s arguments)).scanWorkspace s.disk = .ok (scanner, n) ∧
      run s arguments = .ok outcome ∧
      outcome.output =
        scanner.board.reports.flatMap (reportLine s.cwd (rootOf s arguments)) ∧
      ((∀ t ∈ d.tags, t.IsInRange settings) →
        (p, f) ∈ scanner.board.reports ∧ outcome.exit = 1) ∧
      ((¬ ∀ t ∈ d.tags, t.IsInRange settings) → ∀ g, (p, g) ∉ scanner.board.reports)) ∧
    (¬ IsLevel level → ∃ failure, run s arguments = .error failure) := by
  refine ⟨fun haccepted => ?_, fun hrefused => ?_⟩
  · have hsettings := loadSettings_eq_ok hload hlevel haccepted
    obtain ⟨scanner, n, hscan, hpaths, hreported, hlost⟩ :=
      exists_scanWorkspace_reports hwalk hp hd halone
    refine ⟨scanner, n, _, hscan, run_scan hcommand hsettings hscan hpaths, rfl, ?_, hlost⟩
    intro hrange
    exact ⟨hreported hrange, if_neg (List.ne_nil_of_mem (hreported hrange))⟩
  · obtain ⟨failure, hfailure⟩ := exists_loadSettings_eq_error hload hlevel hrefused
    have hknown : arguments.head?.getD "scan".toList ∈ ["scan".toList, "index".toList] :=
      List.mem_pair.mpr (.inl hcommand)
    exact ⟨failure, run_eq_error hknown hfailure⟩

/-! ## A sample run -/

/-- A file with a reference that leads nowhere and a tag that expires with the calendar. -/
def sampleText : Text := "# @AI:SYNC gone.py\n# @AI:EXPIRY 9999-12-31\n".toList

/-- A disk with that file in a folder. -/
def sampleDisk : Storage.Disk where
  items := [(["proj".toList], .folder),
    (["proj".toList, "a.py".toList], .file (Text.encode sampleText))]

/-- That disk at the beginning of the year 2026. -/
def sampleSurroundings (environment : Settings.Environment) : Surroundings where
  disk := sampleDisk
  environment := environment
  cwd := ['/']
  home := "/home".toList
  now := ⟨Calendar.Date.daysBeforeYear 2026 * Calendar.Instant.microsPerDay⟩

/-- The path and the document of the file. -/
def samplePath : Text := "/proj/a.py".toList

def sampleDocument : Document := .ofText samplePath (Text.unifyBreaks sampleText)

/-- The tag of its first line, and the finding about it. -/
def sampleTag : Tag where
  kind := .sync
  payload := "gone.py".toList
  raw := "@AI:SYNC gone.py".toList
  line := 0
  start := 2
  stop := 18

def sampleFinding : Finding := .ofTag sampleTag "@AI:SYNC target not found: gone.py".toList

/-- The workspace and the arguments of a run on that disk. -/
def sampleWorkspace : Workspace :=
  Workspace.ofFolders ['/'] ["/proj".toList] sampleDisk.fileSystem

def sampleArguments : List Text := ["scan".toList, "proj".toList]

theorem workspace_sample (environment : Settings.Environment) :
    workspace (sampleSurroundings environment)
      (rootOf (sampleSurroundings environment) sampleArguments) = sampleWorkspace := by
  have hroot : Path.absolute ['/'] "proj".toList = "/proj".toList := by decide
  exact congrArg (fun root => Workspace.ofFolders ['/'] [root] sampleDisk.fileSystem) hroot

theorem walk_sample (environment : Settings.Environment) :
    (workspace (sampleSurroundings environment)
      (rootOf (sampleSurroundings environment) sampleArguments)).walk sampleDisk {} =
      .ok [samplePath] := by
  have hwalk : sampleWorkspace.walk sampleDisk {} = .ok [samplePath] := by decide +kernel
  rw [workspace_sample]
  exact hwalk

theorem isEligible_sample : Workspace.IsEligible sampleDisk {} samplePath sampleDocument := by
  refine ⟨Text.encode sampleText, sampleText, ?_, ?_, ?_, rfl⟩ <;> decide

theorem isFoundAlone_sample (environment : Settings.Environment) {settings : Settings}
    (h : (sampleDocument.isolate sampleTag.line).findings settings sampleWorkspace
      (sampleSurroundings environment).now = .ok [sampleFinding]) :
    sampleDocument.IsFoundAlone settings (workspace (sampleSurroundings environment)
      (rootOf (sampleSurroundings environment) sampleArguments))
      (sampleSurroundings environment).now sampleTag sampleFinding := by
  have htag : sampleTag ∈ sampleDocument.tags := by decide +kernel
  rw [workspace_sample]
  exact ⟨htag, rfl, [sampleFinding], h, List.mem_cons_self⟩

theorem isLevel_usual : IsLevel "INFO".toList := ⟨by decide, by decide⟩

theorem run_scan_reports_sample :
    Settings.load sampleDisk [] ['/'] "/home".toList none = .ok {} ∧ IsLevel "INFO".toList ∧
      (∀ t ∈ sampleDocument.tags, t.IsInRange {}) ∧
      ∃ (scanner : Scanner) (outcome : Outcome),
        run (sampleSurroundings []) sampleArguments = .ok outcome ∧
        outcome.output = scanner.board.reports.flatMap
          (reportLine ['/'] (rootOf (sampleSurroundings []) sampleArguments)) ∧
        (samplePath, sampleFinding) ∈ scanner.board.reports ∧ outcome.exit = 1 := by
  have hload : Settings.load sampleDisk [] ['/'] "/home".toList none = .ok {} := rfl
  have hfindings : sampleDocument.findings {} sampleWorkspace (sampleSurroundings []).now =
      .ok [sampleFinding] := by
    decide +kernel
  have hrange : ∀ t ∈ sampleDocument.tags, t.IsInRange {} :=
    (Document.exists_findings_eq_ok_iff sampleDisk.isTolerable_fileSystem).mp ⟨_, hfindings⟩
  have hreports := run_scan_reports (sampleSurroundings []) sampleArguments rfl hload rfl
    (walk_sample []) List.mem_cons_self isEligible_sample
    (isFoundAlone_sample [] (by decide +kernel))
  obtain ⟨scanner, -, outcome, -, hrun, houtput, hreported, -⟩ := hreports.1 isLevel_usual
  exact ⟨hload, isLevel_usual, hrange, scanner, outcome, hrun, houtput, hreported hrange⟩

/-- With a day of grace the second tag has no deadline in the calendar, and the finding about the
first one, which is made when it is looked at by itself, is lost with an exit code of 0. -/
theorem exists_lost_finding :
    ∃ s settings paths p d tag f,
      loadSettings s = .ok settings ∧
      (workspace s (rootOf s sampleArguments)).walk s.disk settings.limits = .ok paths ∧
      p ∈ paths ∧ Workspace.IsEligible s.disk settings.limits p d ∧
      d.IsFoundAlone settings (workspace s (rootOf s sampleArguments)) s.now tag f ∧
      run s sampleArguments = .ok { exit := 0, output := [] } := by
  have hsettings : loadSettings (sampleSurroundings [("AITAGS_GRACE_DAYS".toList, ['1'])]) =
      .ok { expiry := { graceDays := Settings.daysOfText ['1'] 0 } } := rfl
  have hdays : Settings.daysOfText ['1'] 0 = 1 := by decide +kernel
  rw [hdays] at hsettings
  refine ⟨_, _, [samplePath], samplePath, sampleDocument, sampleTag, sampleFinding, hsettings,
    walk_sample _, List.mem_cons_self, isEligible_sample, isFoundAlone_sample _ ?_, ?_⟩
  · decide +kernel
  · decide +kernel

end CommandLine

end TagLint
