import TagLint.Index
import TagLint.Workspace.Walk
import TagLint.Proofs.Storage.Faults
import TagLint.Proofs.Storage.Tidy
import TagLint.Proofs.Text.Lines
/-!
The documents of a workspace. On a disk every file that is walked to is either opened or passed
over, without failure; it is opened if it is small enough and its bytes are a text. What is opened
is the document of that text, although the terminators of its lines are unified on the way.
-/

namespace TagLint

/-! ## Paths on a walk -/

theorem Storage.Disk.ne_nil_of_mem_walkDown (d : Disk) (excluded : List Text) (depth : Nat)
    {folder p : Text} (hfolder : folder ≠ []) (h : p ∈ d.walkDown excluded depth folder) :
    p ≠ [] := by
  induction depth generalizing folder with
  | zero => simp [walkDown] at h
  | succ depth ih =>
    rw [walkDown] at h
    split at h
    · simp at h
    · rcases List.mem_append.mp h with h | h
      · obtain ⟨e, -, rfl⟩ := List.mem_map.mp h
        exact Path.join_ne_nil hfolder e.name
      · obtain ⟨e, -, h⟩ := List.mem_flatMap.mp h
        exact ih (Path.join_ne_nil hfolder e.name) h

theorem Storage.Disk.exists_walk_eq_ok_iff (d : Disk) (excluded : List Text) (folder : Text) :
    (∃ ps, d.walk excluded folder = .ok ps) ↔ '\x00' ∉ folder := by
  unfold walk
  split <;> simp_all

namespace Workspace

variable {w : Workspace} {disk : Storage.Disk} {limits : Settings.Limits}

/-- A walk fails only if the excluded names are no list of simple values, or if a root folder can
name nothing on a disk. -/
theorem exists_walk_eq_ok_iff :
    (∃ ps, w.walk disk limits = .ok ps) ↔
      w.folders = [] ∨ (∀ v ∈ limits.excluded, v.isContainer = false) ∧
        ∀ f ∈ w.folders, '\x00' ∉ f := by
  unfold walk
  by_cases hfolders : w.folders = []
  · rw [if_pos (List.isEmpty_iff.mpr hfolders)]
    exact ⟨fun _ => Or.inl hfolders, fun _ => ⟨[], rfl⟩⟩
  rw [if_neg (by simpa using hfolders), or_iff_right hfolders]
  have hcontainer : limits.excluded.any Toml.Value.isContainer = true ↔
      ¬ ∀ v ∈ limits.excluded, v.isContainer = false := by
    simp
  unfold Settings.Limits.excludedNames
  split
  · rename_i hexcluded
    constructor
    · rintro ⟨ps, h⟩
      cases h
    · exact fun h => absurd h.1 (hcontainer.mp hexcluded)
  · rename_i hexcluded
    rw [and_iff_right (not_not.mp (mt hcontainer.mpr hexcluded)), Traverse.ok_bind]
    generalize limits.excluded.filterMap _ = excluded
    simp only [← Storage.Disk.exists_walk_eq_ok_iff disk excluded]
    rw [← Traverse.exists_mapM_eq_ok_iff]
    constructor
    · rintro ⟨ps, h⟩
      obtain ⟨found, hfound, -⟩ := Traverse.bind_eq_ok.mp h
      exact ⟨found, hfound⟩
    · rintro ⟨found, hfound⟩
      rw [hfound]
      exact ⟨found.flatten, rfl⟩

theorem ne_nil_of_mem_walk (hw : ∀ f ∈ w.folders, f ≠ []) {paths : List Text}
    (h : w.walk disk limits = .ok paths) : ∀ p ∈ paths, p ≠ [] := by
  intro p hp
  unfold walk at h
  split at h
  · cases h
    cases hp
  · obtain ⟨excluded, -, h⟩ := Traverse.bind_eq_ok.mp h
    obtain ⟨found, hfound, h⟩ := Traverse.bind_eq_ok.mp h
    cases h
    obtain ⟨ps, hps, hp⟩ := List.mem_flatten.mp hp
    obtain ⟨f, hf, hwalk⟩ := (Traverse.mem_of_mapM_eq_ok hfound ps).mp hps
    unfold Storage.Disk.walk at hwalk
    split at hwalk
    · cases hwalk
    · cases hwalk
      exact Storage.Disk.ne_nil_of_mem_walkDown disk excluded _ (hw f hf) hp

/-! ## Opening -/

theorem exists_openDocument_eq_ok {files : Storage.FileSystem} (hfiles : files.IsTolerable)
    (limits : Settings.Limits) (path : Text) :
    ∃ found, openDocument files limits path = .ok found := by
  unfold openDocument
  dsimp only
  cases hprobe : files.probe path with
  | error fault =>
    dsimp only
    rw [if_pos (hfiles.probe path fault hprobe)]
    exact ⟨none, rfl⟩
  | ok found =>
    cases found with
    | none => exact ⟨none, rfl⟩
    | some found =>
      dsimp only
      split
      · exact ⟨none, rfl⟩
      · cases hread : files.read path with
        | error fault =>
          dsimp only
          rw [if_pos (hfiles.read path fault hread)]
          exact ⟨none, rfl⟩
        | ok text => exact ⟨_, rfl⟩

theorem path_of_openDocument {files : Storage.FileSystem} {path : Text} {d : Document}
    (h : openDocument files limits path = .ok (some d)) : d.path = path := by
  unfold openDocument at h
  dsimp only at h
  split at h
  · split at h <;> cases h
  · cases h
  · split at h
    · cases h
    · split at h
      · split at h <;> cases h
      · cases h
        rfl

/-- The file at a path is small enough and holds a text, and this is its document. -/
def IsEligible (disk : Storage.Disk) (limits : Settings.Limits) (path : Text) (d : Document) :
    Prop :=
  ∃ bytes text, disk.find path = .ok (.file bytes) ∧ bytes.length ≤ limits.maxSize ∧
    Text.decode? bytes = some text ∧ d = Document.ofText path (Text.unifyBreaks text)

theorem openDocument_eq_ok {path : Text} {d : Document} (h : IsEligible disk limits path d) :
    openDocument disk.fileSystem limits path = .ok (some d) := by
  obtain ⟨bytes, text, hfile, hsize, htext, rfl⟩ := h
  have hprobe : disk.fileSystem.probe path = _ := disk.probe_eq_ok hfile
  have hread : disk.fileSystem.read path = _ := disk.read_eq_ok hfile htext
  unfold openDocument
  dsimp only
  rw [hprobe]
  dsimp only
  rw [hread, if_neg (by simpa using hsize)]

/-- A document is opened exactly if the file is small enough and holds a text. -/
theorem openDocument_eq_ok_iff {path : Text} {d : Document} :
    openDocument disk.fileSystem limits path = .ok (some d) ↔ IsEligible disk limits path d := by
  refine ⟨fun h => ?_, openDocument_eq_ok⟩
  unfold openDocument at h
  dsimp only at h
  split at h
  · split at h <;> cases h
  · cases h
  rename_i found hprobe
  split at h
  · cases h
  rename_i hkind
  rw [Bool.or_eq_true, not_or, decide_eq_true_iff] at hkind
  split at h
  · split at h <;> cases h
  rename_i text hread
  cases h
  obtain ⟨bytes, hfile, hsize⟩ := disk.exists_file_of_probe hprobe (by simpa using hkind.1)
  obtain ⟨t, ht, rfl⟩ := disk.exists_text_of_read hfile hread
  refine ⟨bytes, t, hfile, ?_, ht, rfl⟩
  rw [← hsize]
  exact Int.not_lt.mp hkind.2

/-! ## Line terminators -/

theorem ofText_unifyBreaks (path t : Text) (language : Option Text) :
    Document.ofText path (Text.unifyBreaks t) language = Document.ofText path t language := by
  unfold Document.ofText
  rw [Text.lines_unifyBreaks]

/-- A text file is opened if it is small enough, and then as the document of its text. -/
theorem openDocument_eq_ok_iff_ofText {path t : Text} {bytes : List UInt8}
    (hfile : disk.find path = .ok (.file bytes)) (htext : Text.decode? bytes = some t)
    (d : Document) :
    openDocument disk.fileSystem limits path = .ok (some d) ↔
      bytes.length ≤ limits.maxSize ∧ d = Document.ofText path t := by
  rw [openDocument_eq_ok_iff]
  constructor
  · rintro ⟨bytes', t', hfile', hsize, htext', rfl⟩
    rw [hfile] at hfile'
    cases hfile'
    rw [htext] at htext'
    cases htext'
    exact ⟨hsize, ofText_unifyBreaks path t none⟩
  · rintro ⟨hsize, rfl⟩
    exact ⟨bytes, t, hfile, hsize, htext, (ofText_unifyBreaks path t none).symm⟩

/-- The lines of a text are those that it is laid out in, whatever ends them, and every text is laid
out in lines: CR LF, CR and LF end a line, and nothing else does. So unifying the terminators changes
no line, and a file that is opened has the lines of its text, and with them the tags and the index
entries. -/
theorem lines_independent_of_terminators :
    (∀ w : Text.Layout, w.IsProper → Text.lines w.text = w.lines) ∧
    (∀ t, ∃ w : Text.Layout, w.IsProper ∧ w.text = t ∧ Text.lines t = w.lines) ∧
    (∀ t, Text.lines (Text.unifyBreaks t) = Text.lines t) ∧
    ∀ (disk : Storage.Disk) (limits : Settings.Limits) (path t : Text) (bytes : List UInt8),
      disk.find path = .ok (.file bytes) → Text.decode? bytes = some t →
      ((∃ d, openDocument disk.fileSystem limits path = .ok (some d)) ↔
        bytes.length ≤ limits.maxSize) ∧
      ∀ d, openDocument disk.fileSystem limits path = .ok (some d) →
        d.lines = Text.lines t ∧ d.tags = (Document.ofText path t).tags ∧
          Index.entriesOf d = Index.entriesOf (Document.ofText path t) := by
  refine ⟨fun w hw => hw.lines_text, fun t => ?_, Text.lines_unifyBreaks, ?_⟩
  · obtain ⟨w, hw, rfl⟩ := Text.Layout.exists_eq_text t
    exact ⟨w, hw, rfl, hw.lines_text⟩
  · intro disk limits path t bytes hfile htext
    have hopen : ∀ d, openDocument disk.fileSystem limits path = .ok (some d) ↔
        bytes.length ≤ limits.maxSize ∧ d = Document.ofText path t :=
      openDocument_eq_ok_iff_ofText hfile htext
    constructor
    · simp only [hopen, exists_and_left, exists_eq, and_true]
    · intro d hd
      obtain ⟨-, rfl⟩ := (hopen d).mp hd
      exact ⟨rfl, rfl, rfl⟩

/-- A layout in which a lone CR ends a line before an empty one, and which holds characters that end
no line. -/
def sampleLayout : Text.Layout where
  ended := [("# @AI:SYNC a.py".toList, .cr), ([], .crlf), (['b', '\x0c', 'c'], .lf)]
  last := some ['d', '\u2028', 'e']

theorem lines_independent_of_terminators_sample :
    sampleLayout.IsProper ∧
      Text.lines "# @AI:SYNC a.py\r\r\nb\x0cc\nd\u2028e".toList = sampleLayout.lines := by
  have hproper : sampleLayout.IsProper := ⟨by decide, by decide, by decide⟩
  exact ⟨hproper, lines_independent_of_terminators.1 sampleLayout hproper⟩

end Workspace

end TagLint
