import TagLint.Proofs.CommandLine
import TagLint.Proofs.Scanner.Round
import TagLint.Proofs.Scanner.Session
import TagLint.Proofs.Path.Below
import TagLint.Proofs.Storage.Rearranged
import TagLint.Proofs.Workspace.Walk
import Mathlib
/-!
What a scan below a root folder prints, taken from the disk. The files that are to be scanned come
in the order of their paths, each with its findings in the order in which they are made, one record
for each finding (`run_scan_prints`). The order of the items on the disk plays no part in it, and
neither does the order in which the scans of the files finish.
-/

namespace TagLint.CommandLine

/-! ## Records -/

/-- The record for a finding about a file that is shown in this way. -/
def record (shown : Text) (f : Finding) : Text :=
  shown ++ ":".toList ++ Text.ofNat (f.line + 1) ++ ":".toList ++ Text.ofNat (f.start + 1) ++
    ": warning: ".toList ++ f.message ++ "\n".toList

theorem findingLine_eq_record (shown : Text) (f : Finding) :
    findingLine shown f = record shown f := by
  have hword : ": ".toList ++ (Finding.severity ++ ": ".toList) = ": warning: ".toList := rfl
  unfold findingLine record
  rw [← hword]
  simp only [List.append_assoc]
  rfl

/-- The files of a board with their findings, in the order in which they are printed. -/
def filesOf (b : Board) : List (Text × List Finding) := Text.sortBy (·.1) b.entries

theorem flatMap_reportLine (cwd root : Text) (b : Board) :
    b.reports.flatMap (reportLine cwd root) =
      (filesOf b).flatMap fun file => file.2.flatMap (record (shownPath cwd root file.1)) := by
  unfold Board.reports
  rw [List.flatMap_assoc]
  refine congrArg (List.flatMap · (filesOf b)) ?_
  funext file
  rw [List.flatMap_map]
  refine congrArg (List.flatMap · file.2) ?_
  funext f
  exact findingLine_eq_record _ f

theorem reports_eq_nil_iff (b : Board) :
    b.reports = [] ↔ ∀ file ∈ filesOf b, file.2 = [] := by
  unfold Board.reports
  rw [List.flatMap_eq_nil_iff]
  simp only [List.map_eq_nil_iff]
  exact Iff.rfl

/-- A list of files with their findings is what a run says about the files below a root: all that
are to be scanned, and no others, in the order of their paths. What the run prints are the records
of their findings, and it succeeds exactly if there are none. Each file is shown as the way that
leads to it from the root. -/
structure Prints (s : Surroundings) (settings : Settings) (root : Text)
    (files : List (Text × List Finding)) (outcome : Outcome) : Prop where
  sorted : (files.map (·.1)).Pairwise Text.Before
  all : ∀ p d, Workspace.IsScanned s.disk settings.limits root p d →
    ∃ fs, d.findings settings (workspace s root) s.now = .ok fs ∧ (p, fs) ∈ files
  only : ∀ p fs, (p, fs) ∈ files → ∃ d, Workspace.IsScanned s.disk settings.limits root p d ∧
    d.findings settings (workspace s root) s.now = .ok fs
  output : outcome.output =
    files.flatMap fun file => file.2.flatMap (record (shownPath s.cwd root file.1))
  exit : outcome.exit = if ∀ file ∈ files, file.2 = [] then 0 else 1
  shown : ∀ file ∈ files, Path.relative? s.cwd file.1 root = some (shownPath s.cwd root file.1) ∧
    Path.join root (shownPath s.cwd root file.1) = file.1

section Prints

variable {s : Surroundings} {settings : Settings} {root : Text}
  {files files' : List (Text × List Finding)} {outcome outcome' : Outcome}

theorem Prints.mem_iff (h : Prints s settings root files outcome) (p : Text) (fs : List Finding) :
    (p, fs) ∈ files ↔ ∃ d, Workspace.IsScanned s.disk settings.limits root p d ∧
      d.findings settings (workspace s root) s.now = .ok fs := by
  refine ⟨h.only p fs, ?_⟩
  rintro ⟨d, hd, hfs⟩
  obtain ⟨fs', hfs', hmem⟩ := h.all p d hd
  rw [hfs] at hfs'
  cases hfs'
  exact hmem

/-- There is only one thing that a run can say about the files below a root. -/
theorem Prints.unique (h : Prints s settings root files outcome)
    (h' : Prints s settings root files' outcome') : files = files' ∧ outcome = outcome' := by
  have hfiles : files = files' := Text.eq_of_pairwise_before h.sorted h'.sorted fun file =>
    (h.mem_iff file.1 file.2).trans (h'.mem_iff file.1 file.2).symm
  subst hfiles
  have hexit : outcome.exit = outcome'.exit := h.exit.trans h'.exit.symm
  have houtput : outcome.output = outcome'.output := h.output.trans h'.output.symm
  cases outcome
  cases outcome'
  cases hexit
  cases houtput
  exact ⟨rfl, rfl⟩

end Prints

/-! ## The board of a scan -/

/-- A board with what was found at the paths that were walked to, and with nothing else. -/
structure IsBoardOf (scanner : Scanner) (paths : List Text) (b : Board) : Prop where
  functional : ByPath.IsFunctional b.entries
  find? : ∀ p, b.find? p = if p ∈ paths then scanner.found? p else none

section Board

variable {s : Surroundings} {settings : Settings} {ss paths : List Text} {root : Text}
  {b b' : Board}

theorem IsBoardOf.mem_filesOf_iff {scanner : Scanner} (h : IsBoardOf scanner paths b) (p : Text)
    (fs : List Finding) : (p, fs) ∈ filesOf b ↔ p ∈ paths ∧ scanner.found? p = some fs := by
  have hentry : (p, fs) ∈ b.entries ↔ b.find? p = some fs := h.functional.mem_iff
  unfold filesOf
  rw [Text.mem_sortBy, hentry, h.find?]
  by_cases hp : p ∈ paths <;> simp [hp]

theorem IsBoardOf.filesOf_eq {scanner : Scanner} (h : IsBoardOf scanner paths b)
    (h' : IsBoardOf scanner paths b') : filesOf b = filesOf b' := by
  refine Text.sortBy_eq_of_perm h.functional (h.functional.perm_of_find?_eq h'.functional ?_)
  intro p
  exact (h.find? p).trans (h'.find? p).symm

theorem IsBoardOf.ne_nil_of_mem_entries {scanner : Scanner} (h : IsBoardOf scanner paths b)
    (hpaths : ∀ p ∈ paths, p ≠ []) : ∀ file ∈ b.entries, file.1 ≠ [] := by
  rintro ⟨p, fs⟩ hfile
  exact hpaths p ((h.mem_filesOf_iff p fs).mp ((Text.mem_sortBy _ _ _).mpr hfile)).1

/-- What is printed for the board of a scan. -/
theorem IsBoardOf.listing_eq {scanner : Scanner} (h : IsBoardOf scanner paths b)
    (hpaths : ∀ p ∈ paths, p ≠ []) (cwd root : Text) :
    listing cwd root b = .ok
      ((filesOf b).flatMap fun file => file.2.flatMap (record (shownPath cwd root file.1))) := by
  rw [listing_eq_ok cwd root (h.ne_nil_of_mem_entries hpaths), flatMap_reportLine]

theorem exists_scanWorkspace_eq_ok
    (hwalk : (workspace s root).walk s.disk settings.limits = .ok paths) :
    ∃ scanner n, (scannerAt s settings root).scanWorkspace s.disk = .ok (scanner, n) ∧
      IsBoardOf (scannerAt s settings root) paths scanner.board := by
  refine ⟨_, _, Scanner.scanWorkspace_eq_ok (isTolerable_workspace s root) hwalk, ?_, fun p => ?_⟩
  · exact Scanner.isFunctional_foldl_record ByPath.isFunctional_nil _
  · have hboard := Scanner.find?_foldl_record_of_perm (scannerAt s settings root)
      (List.Perm.refl (paths.filterMap (scannerAt s settings root).job?)) p
    exact hboard.trans Option.or_none

/-- The scans of the files may take turns and finish in any order. -/
theorem isBoardOf_run
    (hwalk : (workspace s root).walk s.disk settings.limits = .ok paths)
    {turns : List Scanner.Session.Action} (hturns : ∀ a ∈ turns, a.IsOfRound 0) {n : Nat}
    (hn : ((Scanner.Session.start (workspace s root) s.disk settings s.now).run
      (.scanWorkspace :: turns)).result? 0 = some n) :
    IsBoardOf (scannerAt s settings root) paths
      ((Scanner.Session.start (workspace s root) s.disk settings s.now).run
        (.scanWorkspace :: turns)).scanner.board where
  functional := Scanner.Session.isFunctional_run ByPath.isFunctional_nil _
  find? := by
    intro p
    obtain ⟨-, -, board, hscanner, hfind⟩ := Scanner.Session.of_result?_run
      (s := Scanner.Session.start (workspace s root) s.disk settings s.now) rfl hwalk hturns hn
    rw [hscanner]
    exact (hfind p).trans Option.or_none

theorem folders_workspace_render_one (s : Surroundings) (hss : ∀ s ∈ ss, Path.IsName s) :
    (workspace s (Path.render 1 ss)).folders = [Path.render 1 ss] :=
  congrArg (fun folder => [folder]) (Path.absolute_render_one s.cwd hss)

theorem found?_eq_some_iff (s : Surroundings) (settings : Settings) (root p : Text)
    (fs : List Finding) :
    (scannerAt s settings root).found? p = some fs ↔
      ∃ d, Workspace.IsEligible s.disk settings.limits p d ∧
        d.findings settings (workspace s root) s.now = .ok fs := by
  have hopened : Workspace.openDocument s.disk.fileSystem settings.limits p =
      .ok ((scannerAt s settings root).open? settings.limits p) :=
    Scanner.openDocument_eq_ok_open? (s := scannerAt s settings root)
      s.disk.isTolerable_fileSystem settings.limits p
  unfold Scanner.found?
  rw [Option.bind_eq_bind, Option.bind_eq_some_iff]
  refine exists_congr fun d => ?_
  rw [← Workspace.openDocument_eq_ok_iff, hopened, Except.ok.injEq]
  refine and_congr_right fun _ => ?_
  exact Traverse.toOption_eq_some_iff

theorem mem_walk_and_found?_iff (htree : s.disk.IsTree)
    (hfolders : (workspace s root).folders = [root])
    (hwalk : (workspace s root).walk s.disk settings.limits = .ok paths) (p : Text)
    (fs : List Finding) :
    p ∈ paths ∧ (scannerAt s settings root).found? p = some fs ↔
      ∃ d, Workspace.IsScanned s.disk settings.limits root p d ∧
        d.findings settings (workspace s root) s.now = .ok fs := by
  rw [found?_eq_some_iff, ← exists_and_left]
  refine exists_congr fun d => ?_
  rw [← and_assoc, Workspace.mem_walk_and_isEligible_iff htree hfolders hwalk]

/-- The board of a scan tells all files that are to be scanned and can be, and no others. -/
theorem IsBoardOf.mem_filesOf_iff_isScanned (htree : s.disk.IsTree)
    (hss : ∀ s ∈ ss, Path.IsName s)
    (hwalk : (workspace s (Path.render 1 ss)).walk s.disk settings.limits = .ok paths)
    (h : IsBoardOf (scannerAt s settings (Path.render 1 ss)) paths b) (p : Text)
    (fs : List Finding) :
    (p, fs) ∈ filesOf b ↔ ∃ d, Workspace.IsScanned s.disk settings.limits (Path.render 1 ss) p d ∧
      d.findings settings (workspace s (Path.render 1 ss)) s.now = .ok fs := by
  rw [h.mem_filesOf_iff]
  exact mem_walk_and_found?_iff htree (folders_workspace_render_one s hss) hwalk p fs

/-- A file below a root is shown as the way that leads to it. -/
theorem shownPath_of_isScanned {p : Text} {d : Document} (htree : s.disk.IsTree)
    (hss : ∀ s ∈ ss, Path.IsName s)
    (h : Workspace.IsScanned s.disk settings.limits (Path.render 1 ss) p d) :
    Path.relative? s.cwd p (Path.render 1 ss) = some (shownPath s.cwd (Path.render 1 ss) p) ∧
      Path.join (Path.render 1 ss) (shownPath s.cwd (Path.render 1 ss) p) = p := by
  obtain ⟨trail, names, -, hdown, rfl, -⟩ := h
  have hnames := hdown.isName htree
  have hway := Path.relative?_render_one s.cwd hss hnames
  rw [Path.foldl_join_render_one hss hnames]
  unfold shownPath
  rw [hway, Option.getD_some]
  exact ⟨rfl, Path.join_render hss hnames hdown.ne_nil⟩

/-- What is printed for the board of a scan is what a run says about the files below the root. -/
theorem IsBoardOf.prints (htree : s.disk.IsTree) (hss : ∀ s ∈ ss, Path.IsName s)
    (hwalk : (workspace s (Path.render 1 ss)).walk s.disk settings.limits = .ok paths)
    (h : IsBoardOf (scannerAt s settings (Path.render 1 ss)) paths b)
    (hfindings : ∀ p d, Workspace.IsScanned s.disk settings.limits (Path.render 1 ss) p d →
      ∃ fs, d.findings settings (workspace s (Path.render 1 ss)) s.now = .ok fs) :
    Prints s settings (Path.render 1 ss) (filesOf b) {
      exit := if ∀ file ∈ filesOf b, file.2 = [] then 0 else 1
      output := (filesOf b).flatMap fun file =>
        file.2.flatMap (record (shownPath s.cwd (Path.render 1 ss) file.1)) } := by
  have hmem := h.mem_filesOf_iff_isScanned htree hss hwalk
  refine ⟨Text.pairwise_sortBy h.functional, ?_, fun p fs => (hmem p fs).mp, rfl, rfl, ?_⟩
  · intro p d hd
    obtain ⟨fs, hfs⟩ := hfindings p d hd
    exact ⟨fs, hfs, (hmem p fs).mpr ⟨d, hd, hfs⟩⟩
  · rintro ⟨p, fs⟩ hfile
    obtain ⟨d, hd, -⟩ := (hmem p fs).mp hfile
    exact shownPath_of_isScanned htree hss hd

end Board

/-! ## Runs on rearranged disks -/

theorem run_scan_command (s : Surroundings) (root : Text) :
    run s ["scan".toList, root] =
      (do let settings ← loadSettings s; scan s settings (Path.absolute s.cwd root)) := by
  unfold run
  exact if_pos rfl

theorem run_scan_eq_of_isRearranged (s : Surroundings) {disk : Storage.Disk}
    (h : s.disk.IsRearranged disk) (root : Text) :
    run { s with disk } ["scan".toList, root] = run s ["scan".toList, root] := by
  have hsettings : loadSettings { s with disk } = loadSettings s := by
    unfold loadSettings
    dsimp only
    rw [Settings.load_eq_of_isRearranged h]
  have hscan : ∀ settings root, scan { s with disk } settings root = scan s settings root := by
    intro settings root
    unfold scan Scanner.scanWorkspace workspace
    dsimp only
    rw [← h.fileSystem_eq, ← Workspace.walk_eq_of_isRearranged h]
  rw [run_scan_command, run_scan_command, hsettings]
  simp only [hscan]

/-! ## Whole runs -/

theorem run_scan_filesOf {s : Surroundings} {target root : Text} {settings : Settings}
    (hroot : Path.absolute s.cwd target = root) (hsettings : loadSettings s = .ok settings)
    {scanner : Scanner} {n : Nat}
    (hscan : (scannerAt s settings root).scanWorkspace s.disk = .ok (scanner, n))
    (hpaths : ∀ file ∈ scanner.board.entries, file.1 ≠ []) :
    run s ["scan".toList, target] = .ok {
      exit := if ∀ file ∈ filesOf scanner.board, file.2 = [] then 0 else 1
      output := (filesOf scanner.board).flatMap fun file =>
        file.2.flatMap (record (shownPath s.cwd root file.1)) } := by
  subst hroot
  have hrun := @run_scan s ["scan".toList, target] settings rfl hsettings scanner n hscan hpaths
  rw [flatMap_reportLine] at hrun
  simp only [reports_eq_nil_iff] at hrun
  exact hrun

/-- A run that scans below a root folder prints the findings about its files, and nothing else; there
is only one way to do so. The root is taken in its normal form, which must be able to name a folder;
the log must have a level; the list of excluded folders must hold simple values only; and the
findings about each file must be made without failure. The order of the items on the disk plays no
part, and the scans of the files may take turns and finish in any order. -/
theorem run_scan_prints (s : Surroundings) {r : Text} {settings : Settings} {level : Text}
    (hsingle : r.head? ≠ some '/') (hnul : '\x00' ∉ Path.normalize ('/' :: r))
    (htree : s.disk.IsTree)
    (hload : Settings.load s.disk s.environment s.cwd s.home none = .ok settings)
    (hlevel : settings.logLevel = .text level) (haccepted : IsLevel level)
    (hexcluded : ∀ v ∈ settings.limits.excluded, v.isContainer = false)
    (hfindings : ∀ p d,
      Workspace.IsScanned s.disk settings.limits (Path.normalize ('/' :: r)) p d →
      ∃ fs, d.findings settings (workspace s (Path.normalize ('/' :: r))) s.now = .ok fs) :
    ∃ files outcome,
      run s ["scan".toList, '/' :: r] = .ok outcome ∧
      Prints s settings (Path.normalize ('/' :: r)) files outcome ∧
      (∀ files' outcome', Prints s settings (Path.normalize ('/' :: r)) files' outcome' →
        files' = files ∧ outcome' = outcome) ∧
      (∀ disk : Storage.Disk, s.disk.items.Perm disk.items →
        run { s with disk } ["scan".toList, '/' :: r] = .ok outcome) ∧
      ∀ turns, (∀ a ∈ turns, a.IsOfRound 0) →
        let session := (Scanner.Session.start (workspace s (Path.normalize ('/' :: r))) s.disk
          settings s.now).run (.scanWorkspace :: turns)
        ∀ n, session.result? 0 = some n →
          listing s.cwd (Path.normalize ('/' :: r)) session.scanner.board = .ok outcome.output := by
  have hsettings := loadSettings_eq_ok hload hlevel haccepted
  obtain ⟨ss, hss, hroot⟩ := Path.exists_normalize_eq_render_one hsingle
  have habsolute : Path.absolute s.cwd ('/' :: r) = Path.render 1 ss := hroot
  rw [hroot] at hnul hfindings ⊢
  have hfolders := folders_workspace_render_one s hss
  obtain ⟨paths, hwalk⟩ : ∃ paths,
      (workspace s (Path.render 1 ss)).walk s.disk settings.limits = .ok paths := by
    rw [Workspace.exists_walk_eq_ok_iff, hfolders]
    exact Or.inr ⟨hexcluded, List.forall_mem_singleton.mpr hnul⟩
  have hpaths : ∀ p ∈ paths, p ≠ [] :=
    Workspace.ne_nil_of_mem_walk (ne_nil_of_mem_folders s _) hwalk
  obtain ⟨scanner, n, hscan, hboard⟩ := exists_scanWorkspace_eq_ok hwalk
  have hrun := run_scan_filesOf habsolute hsettings hscan (hboard.ne_nil_of_mem_entries hpaths)
  have hprints := hboard.prints htree hss hwalk hfindings
  refine ⟨filesOf scanner.board, _, hrun, hprints, fun _ _ hother => hother.unique hprints, ?_, ?_⟩
  · intro disk hperm
    rw [run_scan_eq_of_isRearranged s (htree.isRearranged hperm)]
    exact hrun
  · intro turns hturns session m hm
    have hsession := isBoardOf_run hwalk hturns hm
    rw [hsession.listing_eq hpaths, hsession.filesOf_eq hboard]

/-! ## What the walk tells of a run -/

section Walked

variable {s : Surroundings} {settings : Settings} {root : Text} {paths : List Text}

/-- It is enough to look at the files of the walk to see that the findings about all files are
made. -/
theorem exists_findings_of_walk (htree : s.disk.IsTree)
    (hfolders : (workspace s root).folders = [root])
    (hwalk : (workspace s root).walk s.disk settings.limits = .ok paths)
    (hfound : ∀ p ∈ paths, ∃ fs, (scannerAt s settings root).found? p = some fs) :
    ∀ p d, Workspace.IsScanned s.disk settings.limits root p d →
      ∃ fs, d.findings settings (workspace s root) s.now = .ok fs := by
  intro p d hd
  obtain ⟨hp, heligible⟩ := (Workspace.mem_walk_and_isEligible_iff htree hfolders hwalk).mpr hd
  obtain ⟨fs, hfs⟩ := hfound p hp
  obtain ⟨d', heligible', hmade⟩ := (found?_eq_some_iff s settings root p fs).mp hfs
  have hsame := (Workspace.openDocument_eq_ok heligible).symm.trans
    (Workspace.openDocument_eq_ok heligible')
  cases hsame
  exact ⟨fs, hmade⟩

/-- What a run says is known once the files of the walk have been looked at one by one. -/
theorem Prints.files_eq_of_walk {files expected : List (Text × List Finding)} {outcome : Outcome}
    (h : Prints s settings root files outcome) (htree : s.disk.IsTree)
    (hfolders : (workspace s root).folders = [root])
    (hwalk : (workspace s root).walk s.disk settings.limits = .ok paths)
    (hpaths : ∀ p, p ∈ paths ↔ p ∈ expected.map (·.1))
    (hsorted : (expected.map (·.1)).Pairwise Text.Before)
    (hfound : ∀ file ∈ expected, (scannerAt s settings root).found? file.1 = some file.2) :
    files = expected := by
  refine Text.eq_of_pairwise_before h.sorted hsorted fun file => ?_
  rw [← Prod.mk.eta (p := file), h.mem_iff, ← mem_walk_and_found?_iff htree hfolders hwalk, hpaths]
  constructor
  · rintro ⟨hp, hfs⟩
    obtain ⟨known, hknown, hsame⟩ := List.mem_map.mp hp
    have hboth := hfound known hknown
    rw [hsame, hfs] at hboth
    have heq : known = file := Prod.ext hsame (Option.some.inj hboth).symm
    exact heq ▸ hknown
  · intro hfile
    exact ⟨List.mem_map_of_mem hfile, hfound file hfile⟩

end Walked

/-! ## Sample runs -/

/-- A folder with a file that has two tags, a folder whose file comes first when the paths are put
in order, and a folder with a name that is excluded. -/
def branchedSurroundings : Surroundings :=
  { sampleSurroundings [] with
    disk := { items := [(["proj".toList], .folder),
      (["proj".toList, "z.py".toList],
        .file (Text.encode "# @AI:SYNC gone.py\n# @AI:EXPIRY soon\n".toList)),
      (["proj".toList, "a".toList], .folder),
      (["proj".toList, "a".toList, "b.py".toList],
        .file (Text.encode "# @AI:EXPIRY 2020-01-01\n".toList)),
      (["proj".toList, "build".toList], .folder),
      (["proj".toList, "build".toList, "c.py".toList],
        .file (Text.encode "# @AI:SYNC gone.py\n".toList))] } }

/-- The files that are scanned there, in the order of their paths, with the findings about them. -/
def branchedFiles : List (Text × List Finding) :=
  [("/proj/a/b.py".toList,
      [⟨0, 2, 23, "@AI:EXPIRY expired on 2020-01-01 UTC".toList, .expiry⟩]),
    ("/proj/z.py".toList,
      [⟨1, 2, 17, "@AI:EXPIRY format invalid. Use YYYY-MM-DD [TZ]".toList, .expiry⟩,
        ⟨0, 2, 18, "@AI:SYNC target not found: gone.py".toList, .sync⟩])]

/-- The walk comes to them the other way round. -/
theorem walk_branched :
    (workspace branchedSurroundings "/proj".toList).walk branchedSurroundings.disk
      ({} : Settings).limits = .ok (branchedFiles.map (·.1)).reverse := by
  cbv

theorem found?_branched : ∀ file ∈ branchedFiles,
    (scannerAt branchedSurroundings {} "/proj".toList).found? file.1 = some file.2 := by
  decide +kernel

theorem run_scan_prints_sample :
    ∃ outcome, run branchedSurroundings ["scan".toList, "/proj".toList] = .ok outcome ∧
      Prints branchedSurroundings {} "/proj".toList branchedFiles outcome ∧
      outcome.exit = 1 ∧ outcome.output =
        ("a/b.py:1:3: warning: @AI:EXPIRY expired on 2020-01-01 UTC\n" ++
          "z.py:2:3: warning: @AI:EXPIRY format invalid. Use YYYY-MM-DD [TZ]\n" ++
          "z.py:1:3: warning: @AI:SYNC target not found: gone.py\n").toList := by
  have hroot : Path.normalize ('/' :: "proj".toList) = "/proj".toList := by decide
  have htree : branchedSurroundings.disk.IsTree := ⟨by decide, by decide⟩
  have hload : Settings.load branchedSurroundings.disk [] ['/'] "/home".toList none = .ok {} := rfl
  have hfolders : (workspace branchedSurroundings "/proj".toList).folders = ["/proj".toList] := by
    decide
  have hmade : ∀ p ∈ (branchedFiles.map (·.1)).reverse,
      ∃ fs, (scannerAt branchedSurroundings {} "/proj".toList).found? p = some fs := by
    intro p hp
    obtain ⟨file, hfile, rfl⟩ := List.mem_map.mp (List.mem_reverse.mp hp)
    exact ⟨file.2, found?_branched file hfile⟩
  have hfindings := exists_findings_of_walk htree hfolders walk_branched hmade
  obtain ⟨files, outcome, hrun, hprints, -⟩ :=
    run_scan_prints branchedSurroundings (by decide) (by decide) htree hload rfl isLevel_usual
      (by decide) (hroot.symm ▸ hfindings)
  rw [hroot] at hprints
  have hsorted : (branchedFiles.map (·.1)).Pairwise Text.Before := by
    unfold Text.Before
    decide
  -- The files are not read off the run: these are the only ones that it may speak of.
  have hfiles : files = branchedFiles := hprints.files_eq_of_walk htree hfolders walk_branched
    (fun p => List.mem_reverse) hsorted found?_branched
  subst hfiles
  have houtput := hprints.output
  have hexit := hprints.exit
  refine ⟨outcome, hrun, hprints, ?_, ?_⟩
  · rw [hexit]
    decide
  · rw [houtput]
    decide +kernel

/-- A scan below a root breaks off although the settings are loaded, a text is the level of the log,
the root can name a folder, and the findings about all files are made, one of which has some. -/
structure BreaksOff (s : Surroundings) (r : Text) (settings : Settings) (name : Text)
    (failure : Failure) : Prop where
  single : r.head? ≠ some '/'
  noNull : '\x00' ∉ Path.normalize ('/' :: r)
  tree : s.disk.IsTree
  load : Settings.load s.disk s.environment s.cwd s.home none = .ok settings
  level : settings.logLevel = .text name
  found : ∃ p d f, Workspace.IsScanned s.disk settings.limits (Path.normalize ('/' :: r)) p d ∧
    d.findings settings (workspace s (Path.normalize ('/' :: r))) s.now = .ok [f]
  made : ∀ p d, Workspace.IsScanned s.disk settings.limits (Path.normalize ('/' :: r)) p d →
    ∃ fs, d.findings settings (workspace s (Path.normalize ('/' :: r))) s.now = .ok fs
  fails : run s ["scan".toList, '/' :: r] = .error failure

section Samples

variable {disk : Storage.Disk} {limits : Settings.Limits}

/-- A disk whose folder `proj` is that of the first sample. -/
structure HoldsSample (disk : Storage.Disk) : Prop where
  tree : disk.IsTree
  locate : disk.locate true "/proj".toList = .ok ["proj".toList]
  items : ∀ name item, (["proj".toList] ++ [name], item) ∈ disk.items ↔
    name = "a.py".toList ∧ item = .file (Text.encode sampleText)
  find : disk.find samplePath = .ok (.file (Text.encode sampleText))

theorem HoldsSample.item?_eq_some_iff (h : HoldsSample disk) (name : Text) (item : Storage.Item) :
    disk.item? (["proj".toList] ++ [name]) = some item ↔
      name = "a.py".toList ∧ item = .file (Text.encode sampleText) :=
  h.tree.item?_eq_some_iff.trans (h.items name item)

theorem HoldsSample.isScanned_iff (h : HoldsSample disk)
    (hsize : (Text.encode sampleText).length ≤ limits.maxSize) (p : Text) (d : Document) :
    Workspace.IsScanned disk limits "/proj".toList p d ↔ p = samplePath ∧ d = sampleDocument := by
  have hdecode : Text.decode? (Text.encode sampleText) = some sampleText := by decide
  constructor
  · rintro ⟨trail, names, htrail, hdown, hp, bytes, text, hfile, -, htext, hd⟩
    rw [h.locate] at htrail
    cases htrail
    cases hdown with
    | entry hentry =>
      obtain ⟨rfl, -⟩ := (h.item?_eq_some_iff _ _).mp hentry
      have hpath : p = samplePath := hp
      rw [hpath, h.find] at hfile
      cases hfile
      rw [hdecode] at htext
      cases htext
      rw [hpath] at hd
      exact ⟨hpath, hd⟩
    | folder hfolder _ _ =>
      cases ((h.item?_eq_some_iff _ _).mp hfolder).2
  · rintro ⟨rfl, rfl⟩
    have hentry := (h.item?_eq_some_iff "a.py".toList _).mpr ⟨rfl, rfl⟩
    exact ⟨["proj".toList], ["a.py".toList], h.locate, .entry hentry, rfl, Text.encode sampleText,
      sampleText, h.find, hsize, hdecode, rfl⟩

theorem HoldsSample.breaksOff {s : Surroundings} {settings : Settings} {level : Text}
    {failure : Failure} (h : HoldsSample s.disk)
    (hsize : (Text.encode sampleText).length ≤ settings.limits.maxSize)
    (hload : Settings.load s.disk s.environment s.cwd s.home none = .ok settings)
    (hlevel : settings.logLevel = .text level)
    (hfindings : sampleDocument.findings settings (workspace s "/proj".toList) s.now =
      .ok [sampleFinding])
    (hfails : run s ["scan".toList, "/proj".toList] = .error failure) :
    BreaksOff s "proj".toList settings level failure := by
  have hroot : Path.normalize ('/' :: "proj".toList) = "/proj".toList := by decide
  refine ⟨by decide, by decide, h.tree, hload, hlevel, ?_, ?_, hfails⟩
  · rw [hroot]
    exact ⟨samplePath, sampleDocument, sampleFinding,
      (h.isScanned_iff hsize _ _).mpr ⟨rfl, rfl⟩, hfindings⟩
  · rw [hroot]
    intro p d hd
    obtain ⟨-, rfl⟩ := (h.isScanned_iff hsize p d).mp hd
    exact ⟨_, hfindings⟩

end Samples

/-- The first sample disk with a settings file in the current folder, whose list of excluded folders
holds another list. -/
def nestedSurroundings : Surroundings :=
  { sampleSurroundings [] with
    disk := { items := (["aitags.toml".toList],
      .file (Text.encode "[scan]\nexclude_dirs = [[\"a\"]]\n".toList)) :: sampleDisk.items } }

/-- The first sample disk with a level that is the name of something else. -/
def misnamedSurroundings : Surroundings :=
  sampleSurroundings [("AITAGS_LOG_LEVEL".toList, "basic_format".toList)]

theorem holdsSample_sampleDisk : HoldsSample sampleDisk where
  tree := ⟨by decide, by decide⟩
  locate := by decide
  items name item := by simp [sampleDisk]
  find := by decide +kernel

theorem holdsSample_nestedSurroundings : HoldsSample nestedSurroundings.disk where
  tree := ⟨by decide, by decide⟩
  locate := by decide
  items name item := by simp [nestedSurroundings, sampleDisk]
  find := by decide +kernel

/-- A list among the excluded folders makes the whole scan fail, and so does a level that is the
name of something else. -/
theorem run_scan_breaksOff :
    BreaksOff nestedSurroundings "proj".toList
        { limits := { excluded := [.array [.text ['a']]] } } "INFO".toList .wrongType ∧
      BreaksOff misnamedSurroundings "proj".toList { logLevel := .text "basic_format".toList }
        "basic_format".toList (.storage (.invalid
          "Unknown level: '%(levelname)s:%(name)s:%(message)s'".toList)) := by
  constructor
  · have hload : Settings.load nestedSurroundings.disk [] ['/'] "/home".toList none =
        .ok { limits := { excluded := [.array [.text ['a']]] } } := by
      cbv
    exact holdsSample_nestedSurroundings.breaksOff (by decide) hload rfl (by decide +kernel)
      (by decide +kernel)
  · have hload : Settings.load sampleDisk [("AITAGS_LOG_LEVEL".toList, "basic_format".toList)]
        ['/'] "/home".toList none = .ok { logLevel := .text "basic_format".toList } := by
      rfl
    exact HoldsSample.breaksOff (s := misnamedSurroundings) holdsSample_sampleDisk (by decide)
      hload rfl (by decide +kernel) (by decide +kernel)

end TagLint.CommandLine
