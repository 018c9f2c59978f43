import TagLint.Scanner.Session
import TagLint.Proofs.ByPath
import TagLint.Proofs.Workspace.Documents
/-!
What is on the board after scans of the files at some paths. A path has what a scan of its file
alone finds, or else what it had before; a file that cannot be scanned changes nothing. It does not
matter in which order the scans finish, or whether a file is scanned more than once.
-/

namespace TagLint.Scanner

/-! ## One entry -/

theorem find?_record (b : Board) (job : Job) (p : Text) :
    (record b job).find? p =
      (if job.path = p then job.result.toOption else none).or (b.find? p) := by
  unfold record
  by_cases hp : job.path = p
  · subst hp
    rw [if_pos rfl]
    cases job.result with
    | ok findings => exact Board.find?_set_self b _ findings
    | error failure => rfl
  · rw [if_neg hp, Option.none_or]
    cases job.result with
    | ok findings => exact Board.find?_set_other b (Ne.symm hp) findings
    | error failure => rfl

theorem mem_entries_record {b : Board} {job : Job} {e : Text × List Finding}
    (h : e ∈ (record b job).entries) : e ∈ b.entries ∨ e.1 = job.path := by
  unfold record at h
  split at h
  · rcases ByPath.mem_put.mp h with ⟨h, -⟩ | rfl
    · exact Or.inl h
    · exact Or.inr rfl
  · exact Or.inl h

theorem isFunctional_record {b : Board} (h : ByPath.IsFunctional b.entries) (job : Job) :
    ByPath.IsFunctional (record b job).entries := by
  unfold record
  split
  · exact h.put job.path _
  · exact h

theorem step_finish_of_some {s : Scanner} {job : Nat} {j : Job} (h : s.jobs.lookup job = some j) :
    s.step (.finish job) =
      { s with board := record s.board j, jobs := s.jobs.filter (·.1 != job) } := by
  rw [step, h]

theorem step_finish_of_none {s : Scanner} {job : Nat} (h : s.jobs.lookup job = none) :
    s.step (.finish job) = s := by
  rw [step, h]

/-- No event gives a path a second entry. -/
theorem isFunctional_step {s : Scanner} (h : ByPath.IsFunctional s.board.entries) (e : Event) :
    ByPath.IsFunctional (s.step e).board.entries := by
  cases e with
  | finish job =>
    cases hj : s.jobs.lookup job with
    | none =>
      rw [step_finish_of_none hj]
      exact h
    | some j =>
      rw [step_finish_of_some hj]
      exact isFunctional_record h j
  | clear path => exact h.erase path
  | clearAll => exact ByPath.isFunctional_nil
  | begin _ _ => exact h
  | configure _ => exact h
  | setClock _ => exact h

/-- A scan from beginning to end is one that finishes right after it has begun. -/
theorem board_scan (s : Scanner) (job : Nat) (d : Document) :
    (s.scan d).1.board = (s.run [.begin job d, .finish job]).board := by
  have hlookup : (s.step (.begin job d)).jobs.lookup job =
      some { path := d.path, result := s.inspect d } := by
    rw [step, List.lookup_cons, beq_self_eq_true]
  show _ = ((s.step (.begin job d)).step (.finish job)).board
  rw [step_finish_of_some hlookup]
  rfl

/-! ## One scan for each file -/

/-- The scan of a document by a scanner as it is now. -/
def jobOf (s : Scanner) (d : Document) : Job := { path := d.path, result := s.inspect d }

/-- The scan of the file at a path, if there is a document to be scanned. -/
def job? (s : Scanner) (p : Text) : Option Job := (s.open? s.settings.limits p).map s.jobOf

/-- What a scan of the document at a path, and of no other, finds. There is nothing if the file is
passed over or cannot be scanned. -/
def found? (s : Scanner) (p : Text) : Option (List Finding) := do
  let d ← s.open? s.settings.limits p
  (s.scan d).2.toOption

theorem openDocument_eq_ok_open? {s : Scanner} (hfiles : s.workspace.files.IsTolerable)
    (limits : Settings.Limits) (p : Text) :
    Workspace.openDocument s.workspace.files limits p = .ok (s.open? limits p) := by
  obtain ⟨found, hfound⟩ := Workspace.exists_openDocument_eq_ok hfiles limits p
  unfold open?
  rw [hfound]

theorem path_of_open? {s : Scanner} {limits : Settings.Limits} {p : Text} {d : Document}
    (h : s.open? limits p = some d) : d.path = p := by
  unfold open? at h
  split at h
  · rename_i found hfound
    subst h
    exact Workspace.path_of_openDocument hfound
  · cases h

theorem found?_eq (s : Scanner) (p : Text) :
    s.found? p = (s.job? p).bind fun j => j.result.toOption := by
  unfold found? job?
  cases s.open? s.settings.limits p <;> rfl

theorem of_job?_eq_some {s : Scanner} {p : Text} {j : Job} (h : s.job? p = some j) :
    j.path = p ∧ j.result.toOption = s.found? p := by
  refine ⟨?_, ?_⟩
  · obtain ⟨d, hd, rfl⟩ := Option.map_eq_some_iff.mp h
    exact path_of_open? hd
  · rw [found?_eq, h]
    rfl

theorem countP_filterMap_job? (s : Scanner) (ps : List Text) :
    (ps.filterMap s.job?).countP (·.result.toBool) = (ps.filterMap s.found?).length := by
  have hstep : ∀ p, ((s.job? p).map (·.result.toBool)).getD false = (s.found? p).isSome := by
    intro p
    rw [found?_eq]
    cases s.job? p with
    | none => rfl
    | some j => cases hj : j.result <;> simp [hj, Except.toBool, Except.toOption]
  rw [List.countP_filterMap, List.length_filterMap_eq_countP]
  simp only [hstep]

/-! ## Scans in any order -/

/-- If all scans of a path find the same, then the path has it afterwards, however many scans there
are and in whatever order. -/
theorem find?_foldl_record (b : Board) {js : List Job} {p : Text} {found : Option (List Finding)}
    (h : ∀ j ∈ js, j.path = p → j.result.toOption = found) :
    (js.foldl record b).find? p =
      (if p ∈ js.map (·.path) then found else none).or (b.find? p) := by
  induction js generalizing b with
  | nil => rfl
  | cons j js ih =>
    rw [List.forall_mem_cons] at h
    rw [List.foldl_cons, ih _ h.2, find?_record, List.map_cons]
    by_cases hp : j.path = p
    · have hhead : p ∈ j.path :: js.map (·.path) := by
        rw [hp]
        exact List.mem_cons_self
      rw [if_pos hp, h.1 hp, if_pos hhead]
      split
      · rw [← Option.or_assoc, Option.or_self]
      · rw [Option.none_or]
    · have hmem : p ∈ j.path :: js.map (·.path) ↔ p ∈ js.map (·.path) := by
        rw [List.mem_cons, or_iff_right (Ne.symm hp)]
      rw [if_neg hp, Option.none_or]
      simp only [hmem]

/-- The board after the scans of the files at some paths, in any order. -/
theorem find?_foldl_record_of_perm (s : Scanner) {ps : List Text} {js : List Job}
    (h : js.Perm (ps.filterMap s.job?)) (p : Text) :
    (js.foldl record s.board).find? p =
      (if p ∈ ps then s.found? p else none).or (s.board.find? p) := by
  have hjob : ∀ j ∈ js, ∃ q ∈ ps, s.job? q = some j := by
    intro j hj
    exact List.mem_filterMap.mp (h.mem_iff.mp hj)
  have hsame : ∀ j ∈ js, j.path = p → j.result.toOption = s.found? p := by
    intro j hj hp
    obtain ⟨q, -, hq⟩ := hjob j hj
    have hqp : q = p := (of_job?_eq_some hq).1.symm.trans hp
    rw [← hqp]
    exact (of_job?_eq_some hq).2
  rw [find?_foldl_record s.board hsame]
  congr 1
  by_cases hp : p ∈ ps
  · rw [if_pos hp]
    split
    · rfl
    · rename_i hnot
      cases hfound : s.job? p with
      | none => rw [found?_eq, hfound]; rfl
      | some j =>
        have hj : j ∈ js := h.mem_iff.mpr (List.mem_filterMap.mpr ⟨p, hp, hfound⟩)
        exact absurd (List.mem_map.mpr ⟨j, hj, (of_job?_eq_some hfound).1⟩) hnot
  · have hnot : p ∉ js.map (·.path) := by
      intro hmem
      obtain ⟨j, hj, rfl⟩ := List.mem_map.mp hmem
      obtain ⟨q, hq, hqj⟩ := hjob j hj
      rw [(of_job?_eq_some hqj).1] at hp
      exact hp hq
    rw [if_neg hp, if_neg hnot]

theorem mem_entries_foldl_record {b : Board} {js : List Job} {e : Text × List Finding}
    (h : e ∈ (js.foldl record b).entries) : e ∈ b.entries ∨ ∃ j ∈ js, e.1 = j.path := by
  induction js generalizing b with
  | nil => exact Or.inl h
  | cons j js ih =>
    rcases ih h with h | ⟨j', hj', he⟩
    · rcases mem_entries_record h with h | he
      · exact Or.inl h
      · exact Or.inr ⟨j, List.mem_cons_self, he⟩
    · exact Or.inr ⟨j', List.mem_cons_of_mem j hj', he⟩

theorem isFunctional_foldl_record {b : Board} (h : ByPath.IsFunctional b.entries) (js : List Job) :
    ByPath.IsFunctional (js.foldl record b).entries := by
  induction js generalizing b with
  | nil => exact h
  | cons j js ih => exact ih (isFunctional_record h j)

/-! ## The whole workspace, one file after the other -/

theorem scanAll_eq (s : Scanner) (ds : List Document) :
    s.scanAll ds = ({ s with board := (ds.map s.jobOf).foldl record s.board },
      (ds.map s.jobOf).countP (·.result.toBool)) := by
  induction ds generalizing s with
  | nil => rfl
  | cons d ds ih =>
    have hrest : (s.scan d).1.scanAll ds =
        ({ s with board := (ds.map s.jobOf).foldl record (record s.board (s.jobOf d)) },
          (ds.map s.jobOf).countP (·.result.toBool)) := ih (s.scan d).1
    have hresult : (s.scan d).2 = (s.jobOf d).result := rfl
    rw [scanAll]
    dsimp only
    rw [hrest, hresult, List.map_cons, List.foldl_cons, List.countP_cons]
    cases (s.jobOf d).result <;> rfl

theorem scanWorkspace_eq_ok {s : Scanner} {disk : Storage.Disk}
    (hfiles : s.workspace.files.IsTolerable) {ps : List Text}
    (hwalk : s.workspace.walk disk s.settings.limits = .ok ps) :
    s.scanWorkspace disk =
      .ok ({ s with board := (ps.filterMap s.job?).foldl record s.board },
        (ps.filterMap s.found?).length) := by
  have hopen : s.workspace.openAll s.settings.limits ps =
      .ok (ps.filterMap (s.open? s.settings.limits)) := by
    unfold Workspace.openAll
    rw [Traverse.mapM_eq_ok_map fun p _ => openDocument_eq_ok_open? hfiles _ p, Traverse.ok_bind]
    rw [List.filterMap_map]
    rfl
  have hjobs : (ps.filterMap (s.open? s.settings.limits)).map s.jobOf = ps.filterMap s.job? :=
    List.map_filterMap
  unfold scanWorkspace
  rw [hwalk, Traverse.ok_bind, hopen, Traverse.ok_bind, scanAll_eq, hjobs, countP_filterMap_job?]
  rfl

/-- A file that is walked to and opened has the findings about its document afterwards, or, if there
are none to tell, what it had before. -/
theorem find?_scanWorkspace {s : Scanner} {disk : Storage.Disk}
    (hfiles : s.workspace.files.IsTolerable) {paths : List Text}
    (hwalk : s.workspace.walk disk s.settings.limits = .ok paths) {p : Text} (hp : p ∈ paths)
    {d : Document}
    (hopen : Workspace.openDocument s.workspace.files s.settings.limits p = .ok (some d)) :
    ∃ s' n, s.scanWorkspace disk = .ok (s', n) ∧
      s'.board.find? p = (s.inspect d).toOption.or (s.board.find? p) ∧
      ∀ e ∈ s'.board.entries, e ∈ s.board.entries ∨ e.1 ∈ paths := by
  refine ⟨_, _, scanWorkspace_eq_ok hfiles hwalk, ?_, ?_⟩
  · have hfound : s.found? p = (s.inspect d).toOption := by
      unfold found? open?
      rw [hopen]
      rfl
    have hboard := find?_foldl_record_of_perm s (List.Perm.refl (paths.filterMap s.job?)) p
    rw [if_pos hp, hfound] at hboard
    exact hboard
  · intro e he
    rcases mem_entries_foldl_record he with he | ⟨j, hj, he⟩
    · exact Or.inl he
    · obtain ⟨q, hq, hqj⟩ := List.mem_filterMap.mp hj
      rw [he, (of_job?_eq_some hqj).1]
      exact Or.inr hq

end TagLint.Scanner
