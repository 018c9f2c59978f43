import TagLint.Scanner.Session
import TagLint.Proofs.Lists
import TagLint.Proofs.Scanner
/-!
What has been asked of a scanner in use, and what its board holds. `IsUnderWay` and `LastFound` are
read off the list of actions, without the board and without the scans that the scanner keeps.
`find?_run_iff` says that a path has exactly the findings of its last scan that finished with
success and was not cleared afterwards, complete as they were found with the settings and the clock
at the time when that scan began.
-/

namespace TagLint.Scanner.Session

/-! ## Reading the history -/

/-- The settings that an action brings. -/
def Action.settings? : Action → Option Settings
  | .configure settings => some settings
  | _ => none

/-- The point in time to which an action sets the clock. -/
def Action.now? : Action → Option Calendar.Instant
  | .setClock now => some now
  | _ => none

/-- What actions of some sort brought last, or what there was before. -/
def latest {α : Type} (brought? : Action → Option α) (a : α) (as : List Action) : α :=
  (as.filterMap brought?).getLast?.getD a

/-- The findings about a document with the settings and the clock as they are after some actions. -/
def inspectAfter (s : Session) (as : List Action) (d : Document) :
    Except Failure (List Finding) :=
  d.findings (latest Action.settings? s.scanner.settings as) s.scanner.workspace
    (latest Action.now? s.scanner.now as)

/-- The document whose scan an action begins. -/
def begins? (s : Session) : Action → Option Document
  | .scan d => some d
  | .takeTurn round path => s.turn? round path
  | _ => none

/-- The scan with this number has begun for a document at this path and has not finished since; the
result is what there was to say about the document when the scan began. -/
def IsUnderWay (s : Session) (as : List Action) (job : Nat) (p : Text)
    (result : Except Failure (List Finding)) : Prop :=
  ∃ before a after d, as = before ++ a :: after ∧ (s.run before).begun = job ∧
    (s.run before).begins? a = some d ∧ d.path = p ∧ s.inspectAfter before d = result ∧
    .finish job ∉ after

/-- The action decides on the entry of the path: it clears it, or it is the end of a scan of the
path that succeeds. -/
def Decides (s : Session) (as : List Action) (p : Text) (a : Action) : Prop :=
  a = .clear p ∨ a = .clearAll ∨ ∃ job fs, a = .finish job ∧ s.IsUnderWay as job p (.ok fs)

/-- These are the findings of a scan of the path that finished with success, and no later action
decides on the entry of the path. -/
def LastFound (s : Session) (as : List Action) (p : Text) (fs : List Finding) : Prop :=
  ∃ before job after, as = before ++ .finish job :: after ∧ s.IsUnderWay before job p (.ok fs) ∧
    ∀ mid a rest, after = mid ++ a :: rest → ¬ s.Decides (before ++ .finish job :: mid) p a

/-! ## One action more -/

theorem run_append (s : Session) (as bs : List Action) : s.run (as ++ bs) = (s.run as).run bs :=
  List.foldl_append

theorem run_append_singleton (s : Session) (as : List Action) (a : Action) :
    s.run (as ++ [a]) = (s.run as).step a := run_append s as [a]

variable {s : Session} {as : List Action} {a : Action} {job : Nat} {p : Text} {d : Document}
  {result : Except Failure (List Finding)} {fs : List Finding}

theorem latest_append_singleton {α : Type} (brought? : Action → Option α) (x : α) :
    latest brought? x (as ++ [a]) = (brought? a).getD (latest brought? x as) := by
  unfold latest
  rw [List.filterMap_append]
  cases ha : brought? a <;> simp [ha]

theorem isUnderWay_append_singleton :
    s.IsUnderWay (as ++ [a]) job p result ↔
      ((s.run as).begun = job ∧
        ∃ d, (s.run as).begins? a = some d ∧ d.path = p ∧ s.inspectAfter as d = result) ∨
      (s.IsUnderWay as job p result ∧ a ≠ .finish job) := by
  constructor
  · rintro ⟨before, b, after, d, has, hjob, hd, hpath, hresult, hafter⟩
    rcases Lists.append_singleton_eq_append_cons_iff.mp has with ⟨rfl, rfl, -⟩ | ⟨rest, hrest, rfl⟩
    · exact Or.inl ⟨hjob, d, hd, hpath, hresult⟩
    · rw [List.mem_append, List.mem_singleton, not_or] at hafter
      exact Or.inr ⟨⟨before, b, rest, d, hrest, hjob, hd, hpath, hresult, hafter.1⟩,
        Ne.symm hafter.2⟩
  · rintro (⟨hjob, d, hd, hpath, hresult⟩ |
      ⟨⟨before, b, after, d, rfl, hjob, hd, hpath, hresult, hafter⟩, ha⟩)
    · exact ⟨as, a, [], d, rfl, hjob, hd, hpath, hresult, List.not_mem_nil⟩
    · refine ⟨before, b, after ++ [a], d, by simp, hjob, hd, hpath, hresult, ?_⟩
      rw [List.mem_append, List.mem_singleton, not_or]
      exact ⟨hafter, Ne.symm ha⟩

theorem lastFound_append_singleton :
    s.LastFound (as ++ [a]) p fs ↔
      (∃ job, a = .finish job ∧ s.IsUnderWay as job p (.ok fs)) ∨
        (s.LastFound as p fs ∧ ¬ s.Decides as p a) := by
  constructor
  · rintro ⟨before, job, after, has, hjob, hafter⟩
    rcases Lists.append_singleton_eq_append_cons_iff.mp has with ⟨rfl, rfl, -⟩ | ⟨rest, rfl, rfl⟩
    · exact Or.inl ⟨job, rfl, hjob⟩
    · refine Or.inr ⟨⟨before, job, rest, rfl, hjob, fun mid b rest' hrest => ?_⟩, ?_⟩
      · exact hafter mid b (rest' ++ [a]) (by rw [hrest]; simp)
      · exact hafter rest a [] rfl
  · rintro (⟨job, rfl, hjob⟩ | ⟨⟨before, job, after, rfl, hjob, hafter⟩, hnot⟩)
    · exact ⟨as, job, [], rfl, hjob, by simp⟩
    · refine ⟨before, job, after ++ [a], by simp, hjob, fun mid b rest hmid => ?_⟩
      rcases Lists.append_singleton_eq_append_cons_iff.mp hmid with ⟨rfl, rfl, -⟩ | ⟨rest', hmid, -⟩
      · exact hnot
      · exact hafter mid b rest' hmid

/-! ## What an action does to the scanner -/

theorem scanner_step_of_begins (h : s.begins? a = some d) :
    (s.step a).scanner = s.scanner.step (.begin s.begun d) ∧ (s.step a).begun = s.begun + 1 := by
  have hevent : s.event? a = some (.begin s.begun d) := by
    cases a with
    | scan d' =>
      have hd : d' = d := Option.some.inj h
      rw [event?, hd]
    | takeTurn round path =>
      rw [event?, show s.turn? round path = some d from h]
      rfl
    | _ => cases h
  rw [step, begunAfter, hevent]
  exact ⟨rfl, rfl⟩

theorem begun_step_of_not_begins (h : s.begins? a = none) : (s.step a).begun = s.begun := by
  cases a with
  | scan d => cases h
  | takeTurn round path =>
    rw [step, begunAfter, event?, show s.turn? round path = none from h]
    rfl
  | _ => rfl

theorem begun_le_run (s : Session) (as : List Action) : s.begun ≤ (s.run as).begun := by
  induction as using List.reverseRecOn with
  | nil => exact Nat.le_refl _
  | append_singleton as a ih =>
    rw [run_append_singleton]
    cases ha : (s.run as).begins? a with
    | none => rwa [begun_step_of_not_begins ha]
    | some d =>
      rw [(scanner_step_of_begins ha).2]
      omega

/-- The number of a scan under way is not given again. -/
theorem IsUnderWay.lt_begun (h : s.IsUnderWay as job p result) : job < (s.run as).begun := by
  obtain ⟨before, a, after, d, rfl, rfl, hd, -⟩ := h
  have hlater := begun_le_run ((s.run before).step a) after
  rw [(scanner_step_of_begins hd).2] at hlater
  rw [run_append]
  exact hlater

theorem state_step (s : Session) (a : Action) :
    (s.step a).scanner.workspace = s.scanner.workspace ∧
      (s.step a).scanner.settings = a.settings?.getD s.scanner.settings ∧
      (s.step a).scanner.now = a.now?.getD s.scanner.now := by
  cases a with
  | takeTurn round path =>
    rw [step, event?]
    cases s.turn? round path <;> exact ⟨rfl, rfl, rfl⟩
  | finish job =>
    rw [step, event?, Option.elim_some, Scanner.step]
    split <;> exact ⟨rfl, rfl, rfl⟩
  | _ => exact ⟨rfl, rfl, rfl⟩

theorem inspect_run (s : Session) (as : List Action) (d : Document) :
    (s.run as).scanner.inspect d = s.inspectAfter as d := by
  have hstate : (s.run as).scanner.workspace = s.scanner.workspace ∧
      (s.run as).scanner.settings = latest Action.settings? s.scanner.settings as ∧
      (s.run as).scanner.now = latest Action.now? s.scanner.now as := by
    induction as using List.reverseRecOn with
    | nil => exact ⟨rfl, rfl, rfl⟩
    | append_singleton as a ih =>
      rw [run_append_singleton, latest_append_singleton, latest_append_singleton, ← ih.1, ← ih.2.1,
        ← ih.2.2]
      exact state_step (s.run as) a
  unfold inspect inspectAfter
  rw [hstate.1, hstate.2.1, hstate.2.2]

theorem lookup_jobs_finish (s : Session) (k job : Nat) :
    (s.step (.finish k)).scanner.jobs.lookup job =
      if job = k then none else s.scanner.jobs.lookup job := by
  show (s.scanner.step (.finish k)).jobs.lookup job = _
  cases hlookup : s.scanner.jobs.lookup k with
  | some j =>
    rw [Scanner.step_finish_of_some hlookup]
    show (s.scanner.jobs.filter (·.1 != k)).lookup job = _
    by_cases hk : job = k
    · rw [if_pos hk, hk, Lists.lookup_filter_bne_self]
    · rw [if_neg hk, Lists.lookup_filter_bne_of_ne hk]
  | none =>
    rw [Scanner.step_finish_of_none hlookup]
    by_cases hk : job = k
    · rw [if_pos hk, hk, hlookup]
    · rw [if_neg hk]

/-- An action that neither begins a scan nor ends one leaves the scans under way. -/
theorem jobs_step_of_not_begins (h : s.begins? a = none) (hfinish : ∀ k, a ≠ .finish k) :
    (s.step a).scanner.jobs = s.scanner.jobs := by
  cases a with
  | scan d => cases h
  | takeTurn round path =>
    rw [step, event?, show s.turn? round path = none from h]
    rfl
  | finish k => exact absurd rfl (hfinish k)
  | _ => rfl

/-- The scans that the scanner keeps are those under way. -/
theorem lookup_jobs_run (hidle : s.scanner.jobs = []) (j : Job) :
    (s.run as).scanner.jobs.lookup job = some j ↔ s.IsUnderWay as job j.path j.result := by
  induction as using List.reverseRecOn with
  | nil =>
    have hnone : (s.run []).scanner.jobs.lookup job = none := by
      show s.scanner.jobs.lookup job = none
      rw [hidle]
      rfl
    rw [hnone]
    constructor
    · intro h
      cases h
    · rintro ⟨before, a, after, d, has, -⟩
      simp at has
  | append_singleton as a ih =>
    rw [run_append_singleton, isUnderWay_append_singleton, ← ih]
    cases ha : (s.run as).begins? a with
    | none =>
      rw [or_iff_right (by simp)]
      by_cases hfinish : ∃ k, a = .finish k
      · obtain ⟨k, rfl⟩ := hfinish
        rw [lookup_jobs_finish, Ne, Action.finish.injEq, eq_comm]
        by_cases hk : job = k <;> simp [hk, eq_comm]
      · have hne : ∀ k, a ≠ .finish k := fun k hk => hfinish ⟨k, hk⟩
        rw [jobs_step_of_not_begins ha hne, and_iff_left (hne job)]
    | some d =>
      have hne : a ≠ .finish job := by
        rintro rfl
        cases ha
      rw [(scanner_step_of_begins ha).1, and_iff_left hne]
      show List.lookup job (((s.run as).begun, (s.run as).scanner.jobOf d) ::
        (s.run as).scanner.jobs) = _ ↔ _
      rw [List.lookup_cons]
      by_cases hk : job = (s.run as).begun
      · -- The number is new, so no older scan has it.
        have hnew : ¬ (s.run as).scanner.jobs.lookup job = some j := by
          intro h
          have hless := (ih.mp h).lt_begun
          omega
        rw [or_iff_left hnew, hk, beq_self_eq_true]
        constructor
        · rintro h
          cases h
          exact ⟨rfl, d, rfl, rfl, (inspect_run s as d).symm⟩
        · rintro ⟨-, d', hd, hpath, hresult⟩
          cases hd
          rw [← inspect_run] at hresult
          exact congrArg some (congrArg₂ Job.mk hpath hresult)
      · have hfalse : (job == (s.run as).begun) = false := by simpa using hk
        have hother : ¬ (s.run as).begun = job := Ne.symm hk
        rw [hfalse, or_iff_right fun h => hother h.1]

/-! ## The board after its history -/

/-- An action that does not decide on the entry of a path leaves it as it is. -/
theorem find?_step_of_not_decides (hidle : s.scanner.jobs = []) (h : ¬ s.Decides as p a) :
    ((s.run as).step a).scanner.board.find? p = (s.run as).scanner.board.find? p := by
  cases a with
  | takeTurn round path =>
    rw [step, event?]
    cases (s.run as).turn? round path <;> rfl
  | clear q =>
    have hp : p ≠ q := by
      rintro rfl
      exact h (Or.inl rfl)
    exact Board.find?_clear_other _ hp
  | clearAll => exact absurd (Or.inr (Or.inl rfl)) h
  | finish job =>
    show ((s.run as).scanner.step (.finish job)).board.find? p = _
    cases hlookup : (s.run as).scanner.jobs.lookup job with
    | none => rw [Scanner.step_finish_of_none hlookup]
    | some j =>
      have hjob := (lookup_jobs_run hidle j).mp hlookup
      rw [Scanner.step_finish_of_some hlookup]
      dsimp only
      rw [find?_record]
      by_cases hp : j.path = p
      · subst hp
        cases hresult : j.result with
        | ok found =>
          rw [hresult] at hjob
          exact absurd (Or.inr (Or.inr ⟨job, found, rfl, hjob⟩)) h
        | error failure => rw [if_pos rfl]; rfl
      · rw [if_neg hp, Option.none_or]
  | _ => rfl

/-- The end of a scan that succeeds puts what it found on the board. -/
theorem find?_finish (hidle : s.scanner.jobs = []) (h : s.IsUnderWay as job p (.ok fs)) :
    ((s.run as).step (.finish job)).scanner.board.find? p = some fs := by
  have hlookup := (lookup_jobs_run hidle ⟨p, .ok fs⟩).mpr h
  show ((s.run as).scanner.step (.finish job)).board.find? p = _
  rw [Scanner.step_finish_of_some hlookup]
  exact Board.find?_set_self _ p fs

/-- A path has an entry on the board exactly if a scan of it has finished with success and its entry
has not been cleared afterwards; the entry is all that the last such scan found. -/
theorem find?_run_iff (hboard : s.scanner.board = {}) (hidle : s.scanner.jobs = []) :
    (s.run as).scanner.board.find? p = some fs ↔ s.LastFound as p fs := by
  induction as using List.reverseRecOn generalizing fs with
  | nil =>
    have hnone : (s.run []).scanner.board.find? p = none := by
      show s.scanner.board.find? p = none
      rw [hboard]
      rfl
    rw [hnone]
    constructor
    · intro h
      cases h
    · rintro ⟨before, job, after, has, -⟩
      simp at has
  | append_singleton as a ih =>
    rw [run_append_singleton, lastFound_append_singleton]
    by_cases hdecides : s.Decides as p a
    · have hnot : ¬ (s.LastFound as p fs ∧ ¬ s.Decides as p a) := fun h => h.2 hdecides
      rw [or_iff_left hnot]
      rcases hdecides with rfl | rfl | ⟨job, found, rfl, hjob⟩
      · have hnone : ((s.run as).step (.clear p)).scanner.board.find? p = none :=
          Board.find?_clear_self _ p
        rw [hnone]
        exact ⟨fun h => (by cases h), fun ⟨_, h, _⟩ => (by cases h)⟩
      · have hnone : ((s.run as).step .clearAll).scanner.board.find? p = none := rfl
        rw [hnone]
        exact ⟨fun h => (by cases h), fun ⟨_, h, _⟩ => (by cases h)⟩
      · have hfound := find?_finish hidle hjob
        constructor
        · intro h
          rw [hfound] at h
          cases h
          exact ⟨job, rfl, hjob⟩
        · rintro ⟨job', hsame, hjob'⟩
          rw [hsame]
          exact find?_finish hidle hjob'
    · rw [find?_step_of_not_decides hidle hdecides, ih]
      constructor
      · exact fun h => Or.inr ⟨h, hdecides⟩
      · rintro (⟨job, rfl, hjob⟩ | h)
        · exact absurd (Or.inr (Or.inr ⟨job, fs, rfl, hjob⟩)) hdecides
        · exact h.1

end TagLint.Scanner.Session
