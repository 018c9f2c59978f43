import TagLint.Proofs.Scanner
import Mathlib.Data.List.Nodup
/-!
A scan of the workspace, whose scans of documents overlap and finish in any order. At the end the
board and the number of documents are those of scanning the files one after the other
(`round_eq_sequential`). While it is under way, each scan of a document is still to begin, is under
way or is done (`Progress`), and the board depends on which scans are done but not on their order.
-/

namespace TagLint.Scanner

theorem Round.finish_of_mem {r : Round} {i : Nat} (h : i ∈ r.running) (succeeded : Bool) :
    r.finish i succeeded =
      { r with running := r.running.erase i, count := r.count + succeeded.toNat } := if_pos h

namespace Session

/-! ## What a step does -/

section Steps

variable {c : Session} {k i : Nat} {p : Text}

theorem step_takeTurn_of_none (h : c.turn? k p = none) :
    c.step (.takeTurn k p) =
      { c with rounds := c.rounds.modify k fun r => r.takeTurn p none } := by
  have hevent : c.event? (.takeTurn k p) = none := by
    rw [event?, h]
    rfl
  have hrounds : c.roundsAfter (.takeTurn k p) =
      c.rounds.modify k fun r => r.takeTurn p none := by
    rw [roundsAfter, h]
    rfl
  rw [step, begunAfter, hevent, hrounds]
  rfl

theorem step_takeTurn_of_some {d : Document} (h : c.turn? k p = some d) :
    c.step (.takeTurn k p) =
      { c with
        scanner := c.scanner.step (.begin c.begun d)
        begun := c.begun + 1
        rounds := c.rounds.modify k fun r => r.takeTurn p (some c.begun) } := by
  have hevent : c.event? (.takeTurn k p) = some (.begin c.begun d) := by
    rw [event?, h]
    rfl
  have hrounds : c.roundsAfter (.takeTurn k p) =
      c.rounds.modify k fun r => r.takeTurn p (some c.begun) := by
    rw [roundsAfter, h]
    rfl
  rw [step, begunAfter, hevent, hrounds]
  rfl

theorem step_finish_of_none (h : c.scanner.jobs.lookup i = none) : c.step (.finish i) = c := by
  have hscanner := Scanner.step_finish_of_none h
  have hrounds : c.roundsAfter (.finish i) = c.rounds := by
    rw [roundsAfter, h]
  show Session.mk (c.scanner.step (.finish i)) c.disk c.begun (c.roundsAfter (.finish i))
    c.snapshots = c
  rw [hscanner, hrounds]

theorem step_finish_of_some {j : Job} (h : c.scanner.jobs.lookup i = some j) :
    c.step (.finish i) =
      { c with
        scanner := { c.scanner with
          board := record c.scanner.board j
          jobs := c.scanner.jobs.filter (·.1 != i) }
        rounds := c.rounds.map fun r => r.finish i j.result.toBool } := by
  have hscanner := Scanner.step_finish_of_some h
  have hrounds : c.roundsAfter (.finish i) =
      c.rounds.map fun r => r.finish i j.result.toBool := by
    rw [roundsAfter, h]
  show Session.mk (c.scanner.step (.finish i)) c.disk c.begun (c.roundsAfter (.finish i))
    c.snapshots = _
  rw [hscanner, hrounds]

end Steps

/-! ## A round under way -/

/-- The turns of the files of a round and the ends of scans. -/
def Action.IsOfRound (k : Nat) : Action → Prop
  | .takeTurn round _ => round = k
  | .finish _ => True
  | _ => False

/-- How far a session has come with a round that began when it was in the state `s`, with no scan of
a document under way. Each scan of a document of the round is still to begin, is under way or is
done, and the board is what the scans that are done have made of it, one after the other. -/
structure Progress (s : Session) (paths : List Text) (c : Session) (r : Round)
    (jobs : List (Nat × Job)) (done : List Job) : Prop where
  scanner : c.scanner = { s.scanner with board := done.foldl record s.scanner.board, jobs }
  rounds : c.rounds.length = s.rounds.length + 1
  round : c.rounds[s.rounds.length]? = some r
  limits : r.limits = s.scanner.settings.limits
  running : r.running = jobs.map (·.1)
  nodup : r.running.Nodup
  fresh : ∀ i ∈ r.running, i < c.begun
  count : r.count = done.countP (·.result.toBool)
  shared : (paths.filterMap s.scanner.job?).Perm
    (r.waiting.filterMap s.scanner.job? ++ jobs.map (·.2) ++ done)

theorem progress_scanWorkspace {s : Session} (hidle : s.scanner.jobs = []) {paths : List Text}
    (hwalk : s.scanner.workspace.walk s.disk s.scanner.settings.limits = .ok paths) :
    Progress s paths (s.step .scanWorkspace)
      { limits := s.scanner.settings.limits, waiting := paths } [] [] := by
  have hrounds : (s.step .scanWorkspace).rounds =
      s.rounds ++ [{ limits := s.scanner.settings.limits, waiting := paths }] := by
    show s.roundsAfter .scanWorkspace = _
    rw [roundsAfter, hwalk]
  constructor
  · show s.scanner = _
    rw [← hidle]
    rfl
  · rw [hrounds, List.length_append]
    rfl
  · rw [hrounds, List.getElem?_concat_length]
  · rfl
  · rfl
  · exact List.nodup_nil
  · intro i hi
    cases hi
  · rfl
  · show (paths.filterMap _).Perm (paths.filterMap _ ++ [] ++ [])
    rw [List.append_nil, List.append_nil]

/-! ## Lists of files and of scans -/

theorem filterMap_erase_perm {α β : Type} [BEq α] [LawfulBEq α] (f : α → Option β) {xs : List α}
    {x : α} (h : x ∈ xs) :
    (xs.filterMap f).Perm ((f x).toList ++ (xs.erase x).filterMap f) := by
  have hperm := (List.perm_cons_erase h).filterMap f
  cases hx : f x with
  | none => rwa [List.filterMap_cons_none hx] at hperm
  | some y => rwa [List.filterMap_cons_some hx] at hperm

theorem perm_move_last {α : Type} (before left right after : List α) (x : α) :
    (before ++ (left ++ x :: right) ++ after).Perm
      (before ++ (left ++ right) ++ (after ++ [x])) := by
  have hfront : (before ++ (left ++ x :: right)).Perm (x :: (before ++ (left ++ right))) :=
    (List.perm_middle.append_left before).trans List.perm_middle
  rw [← List.append_assoc _ after]
  exact (hfront.append_right after).trans (List.perm_append_singleton x _).symm

/-- If no two entries have the same number, then leaving out a number leaves out one entry. -/
theorem filter_ne_middle {α : Type} {left right : List (Nat × α)} {i : Nat} {a : α}
    (h : ((left ++ (i, a) :: right).map (·.1)).Nodup) :
    (left ++ (i, a) :: right).filter (·.1 != i) = left ++ right ∧
      ((left ++ (i, a) :: right).map (·.1)).erase i = (left ++ right).map (·.1) := by
  rw [List.map_append, List.map_cons, List.nodup_middle, List.nodup_cons, ← List.map_append] at h
  constructor
  · rw [List.filter_append, List.filter_cons_of_neg (by simp), ← List.filter_append,
      List.filter_eq_self]
    intro e he
    rw [bne_iff_ne]
    intro hi
    exact h.1 (List.mem_map.mpr ⟨e, he, hi⟩)
  · have hleft : i ∉ left.map (·.1) := by
      intro hi
      rw [List.map_append] at h
      exact h.1 (List.mem_append_left _ hi)
    rw [List.map_append, List.map_cons, List.erase_append_right _ hleft, List.erase_cons_head,
      List.map_append]

/-! ## Steps and runs of a round -/

section Progress

variable {s c : Session} {paths : List Text} {r : Round} {jobs : List (Nat × Job)}
  {done : List Job}

theorem Progress.turn?_eq (h : Progress s paths c r jobs done) (p : Text) :
    c.turn? s.rounds.length p =
      if p ∈ r.waiting then s.scanner.open? s.scanner.settings.limits p else none := by
  have hopen : c.scanner.open? r.limits p = s.scanner.open? s.scanner.settings.limits p := by
    rw [h.scanner, h.limits]
    rfl
  unfold turn?
  rw [h.round, ← hopen]
  rfl

/-- The turn of a file takes its scan, if there is one, from those that are still to begin. -/
theorem Progress.perm_waiting (h : Progress s paths c r jobs done) (p : Text) :
    (r.waiting.filterMap s.scanner.job?).Perm
      (((c.turn? s.rounds.length p).map s.scanner.jobOf).toList ++
        (r.waiting.erase p).filterMap s.scanner.job?) := by
  rw [h.turn?_eq]
  by_cases hp : p ∈ r.waiting
  · rw [if_pos hp]
    exact filterMap_erase_perm s.scanner.job? hp
  · rw [if_neg hp, List.erase_of_not_mem hp]
    exact List.Perm.refl _

theorem Progress.takeTurn (h : Progress s paths c r jobs done) (p : Text) :
    ∃ job jobs', Progress s paths (c.step (.takeTurn s.rounds.length p)) (r.takeTurn p job)
      jobs' done := by
  have hwaiting := h.perm_waiting p
  cases hd : c.turn? s.rounds.length p with
  | none =>
    rw [hd] at hwaiting
    refine ⟨none, jobs, ?_⟩
    rw [step_takeTurn_of_none hd]
    constructor
    · exact h.scanner
    · rw [List.length_modify, h.rounds]
    · rw [List.getElem?_modify_eq, h.round]
      rfl
    · exact h.limits
    · exact h.running
    · exact h.nodup
    · exact h.fresh
    · exact h.count
    · exact h.shared.trans ((hwaiting.append_right _).append_right done)
  | some d =>
    have hnew : c.begun ∉ r.running := fun hin => Nat.lt_irrefl _ (h.fresh _ hin)
    rw [hd] at hwaiting
    refine ⟨some c.begun, (c.begun, s.scanner.jobOf d) :: jobs, ?_⟩
    rw [step_takeTurn_of_some hd]
    constructor
    · show c.scanner.step (.begin c.begun d) = _
      rw [h.scanner]
      rfl
    · rw [List.length_modify, h.rounds]
    · rw [List.getElem?_modify_eq, h.round]
      rfl
    · exact h.limits
    · show c.begun :: r.running = _
      rw [h.running, List.map_cons]
    · exact List.nodup_cons.mpr ⟨hnew, h.nodup⟩
    · intro i hi
      rcases List.mem_cons.mp hi with rfl | hi
      · exact Nat.lt_succ_self _
      · exact Nat.lt_succ_of_lt (h.fresh i hi)
    · exact h.count
    · refine h.shared.trans (((hwaiting.append_right _).trans ?_).append_right done)
      rw [List.map_cons, Option.map_some, Option.toList_some, List.append_assoc,
        List.singleton_append]
      exact List.perm_middle.symm

theorem Progress.finish (h : Progress s paths c r jobs done) (i : Nat) :
    ∃ succeeded jobs' done', Progress s paths (c.step (.finish i)) (r.finish i succeeded) jobs'
      done' := by
  have hjobs : c.scanner.jobs = jobs := by rw [h.scanner]
  cases hj : jobs.lookup i with
  | none =>
    have hnot : i ∉ r.running := by
      rw [h.running]
      intro hi
      obtain ⟨job, hjob, rfl⟩ := List.mem_map.mp hi
      have hne := List.lookup_eq_none_iff.mp hj job hjob
      simp at hne
    refine ⟨false, jobs, done, ?_⟩
    rw [step_finish_of_none (by rw [hjobs, hj]), Round.finish, if_neg hnot]
    exact h
  | some j =>
    obtain ⟨left, right, rfl, -⟩ := List.lookup_eq_some_iff.mp hj
    have hmem : i ∈ r.running := by
      rw [h.running, List.map_append, List.map_cons]
      exact List.mem_append_right _ List.mem_cons_self
    have hnodup := h.nodup
    rw [h.running] at hnodup
    obtain ⟨hfilter, herase⟩ := filter_ne_middle hnodup
    refine ⟨j.result.toBool, left ++ right, done ++ [j], ?_⟩
    rw [step_finish_of_some (by rw [hjobs, hj]), Round.finish_of_mem hmem]
    constructor
    · rw [hjobs, hfilter, h.scanner, List.foldl_append]
      rfl
    · rw [List.length_map, h.rounds]
    · rw [List.getElem?_map, h.round, Option.map_some, Round.finish_of_mem hmem]
    · exact h.limits
    · show r.running.erase i = _
      rw [h.running, herase]
    · exact h.nodup.erase i
    · exact fun k hk => h.fresh k (List.mem_of_mem_erase hk)
    · show r.count + _ = _
      rw [h.count, List.countP_append, List.countP_singleton]
      cases j.result.toBool <;> rfl
    · refine h.shared.trans ?_
      rw [List.map_append, List.map_append, List.map_cons]
      exact perm_move_last _ _ _ _ _

theorem Progress.step (h : Progress s paths c r jobs done) {a : Action}
    (ha : a.IsOfRound s.rounds.length) :
    ∃ r' jobs' done', Progress s paths (c.step a) r' jobs' done' := by
  cases a with
  | takeTurn k p =>
    have hk : k = s.rounds.length := ha
    obtain ⟨job, jobs', hnext⟩ := h.takeTurn p
    rw [hk]
    exact ⟨_, jobs', done, hnext⟩
  | finish i =>
    obtain ⟨succeeded, jobs', done', hnext⟩ := h.finish i
    exact ⟨_, jobs', done', hnext⟩
  | _ => exact absurd ha id

theorem Progress.run (h : Progress s paths c r jobs done) {actions : List Action}
    (hactions : ∀ a ∈ actions, a.IsOfRound s.rounds.length) :
    ∃ r' jobs' done', Progress s paths (c.run actions) r' jobs' done' := by
  induction actions generalizing c r jobs done with
  | nil => exact ⟨r, jobs, done, h⟩
  | cons a actions ih =>
    rw [List.forall_mem_cons] at hactions
    obtain ⟨r', jobs', done', hnext⟩ := h.step hactions.1
    exact ih hnext hactions.2

/-- A round can always be brought to its end. -/
theorem Progress.exists_result? (h : Progress s paths c r jobs done) :
    ∃ actions n, (∀ a ∈ actions, a.IsOfRound s.rounds.length) ∧
      (c.run actions).result? s.rounds.length = some n := by
  -- A turn takes a file from those that wait and adds at most one scan.
  induction hsize : 2 * r.waiting.length + r.running.length using Nat.strong_induction_on
    generalizing c r jobs done with
  | h size ih =>
    have hgo : ∀ {a : Action} {r' jobs' done'}, Progress s paths (c.step a) r' jobs' done' →
        a.IsOfRound s.rounds.length →
        2 * r'.waiting.length + r'.running.length < size →
        ∃ actions n, (∀ a ∈ actions, a.IsOfRound s.rounds.length) ∧
          (c.run actions).result? s.rounds.length = some n := by
      intro a r' jobs' done' hnext ha hless
      obtain ⟨actions, n, hactions, hn⟩ := ih _ hless hnext rfl
      exact ⟨a :: actions, n, List.forall_mem_cons.mpr ⟨ha, hactions⟩, hn⟩
    cases hwaiting : r.waiting with
    | cons p ps =>
      obtain ⟨job, jobs', hnext⟩ := h.takeTurn p
      refine hgo hnext rfl ?_
      have hlength : (r.takeTurn p job).waiting.length = ps.length := by
        show (r.waiting.erase p).length = _
        rw [hwaiting, List.erase_cons_head]
      have hrunning : (r.takeTurn p job).running.length ≤ 1 + r.running.length := by
        show (job.toList ++ r.running).length ≤ _
        cases job <;> simp [Nat.add_comm]
      rw [hwaiting, List.length_cons] at hsize
      omega
    | nil =>
      cases hrunning : r.running with
      | cons i is =>
        obtain ⟨succeeded, jobs', done', hnext⟩ := h.finish i
        refine hgo hnext trivial ?_
        have hmem : i ∈ r.running := by
          rw [hrunning]
          exact List.mem_cons_self
        have hlength : (r.running.erase i).length = is.length := by
          rw [hrunning, List.erase_cons_head]
        rw [hrunning, List.length_cons] at hsize
        rw [Round.finish_of_mem hmem]
        show 2 * r.waiting.length + (r.running.erase i).length < size
        omega
      | nil =>
        refine ⟨[], r.count, fun a ha => absurd ha List.not_mem_nil, ?_⟩
        show c.result? s.rounds.length = _
        unfold result?
        rw [h.round]
        show r.result? = _
        rw [Round.result?, hwaiting, hrunning]
        rfl

theorem Progress.of_result? (h : Progress s paths c r jobs done) {n : Nat}
    (hn : c.result? s.rounds.length = some n) :
    jobs = [] ∧ n = (paths.filterMap s.scanner.found?).length ∧
      ∀ p, c.scanner.board.find? p =
        (if p ∈ paths then s.scanner.found? p else none).or (s.scanner.board.find? p) := by
  have hresult : r.result? = some n := by
    unfold result? at hn
    rw [h.round] at hn
    exact hn
  unfold Round.result? at hresult
  split at hresult
  · rename_i hover
    cases hresult
    rw [Bool.and_eq_true, List.isEmpty_iff, List.isEmpty_iff] at hover
    have hjobs : jobs = [] := by
      rw [← List.map_eq_nil_iff, ← h.running, hover.2]
    have hdone : done.Perm (paths.filterMap s.scanner.job?) := by
      have hshared := h.shared
      rw [hover.1, hjobs] at hshared
      exact hshared.symm
    refine ⟨hjobs, ?_, fun p => ?_⟩
    · rw [h.count, hdone.countP_eq, countP_filterMap_job?]
    · rw [h.scanner]
      exact find?_foldl_record_of_perm s.scanner hdone p
  · cases hresult

end Progress

/-! ## Whole rounds -/

theorem disk_run (s : Session) (actions : List Action) : (s.run actions).disk = s.disk := by
  induction actions generalizing s with
  | nil => rfl
  | cons a actions ih => exact ih (s.step a)

section Whole

variable {s : Session} {paths : List Text} {turns : List Action}

/-- Every beginning of a round can be brought to its end. -/
theorem exists_result?_run (hidle : s.scanner.jobs = [])
    (hwalk : s.scanner.workspace.walk s.disk s.scanner.settings.limits = .ok paths)
    (hturns : ∀ a ∈ turns, a.IsOfRound s.rounds.length) :
    ∃ more, (∀ a ∈ more, a.IsOfRound s.rounds.length) ∧
      ((s.run (.scanWorkspace :: turns)).run more).result? s.rounds.length =
        some (paths.filterMap s.scanner.found?).length := by
  obtain ⟨r, jobs, done, h⟩ := (progress_scanWorkspace hidle hwalk).run hturns
  obtain ⟨more, n, hmore, hn⟩ := h.exists_result?
  obtain ⟨r', jobs', done', hend⟩ := h.run hmore
  refine ⟨more, hmore, ?_⟩
  rw [← (hend.of_result? hn).2.1]
  exact hn

/-- What a round has changed when it is over: only the rounds and the board. -/
theorem of_result?_run (hidle : s.scanner.jobs = [])
    (hwalk : s.scanner.workspace.walk s.disk s.scanner.settings.limits = .ok paths)
    (hturns : ∀ a ∈ turns, a.IsOfRound s.rounds.length) {n : Nat}
    (hn : (s.run (.scanWorkspace :: turns)).result? s.rounds.length = some n) :
    n = (paths.filterMap s.scanner.found?).length ∧
      (s.run (.scanWorkspace :: turns)).rounds.length = s.rounds.length + 1 ∧
      ∃ board, (s.run (.scanWorkspace :: turns)).scanner = { s.scanner with board } ∧
        ∀ p, board.find? p =
          (if p ∈ paths then s.scanner.found? p else none).or (s.scanner.board.find? p) := by
  obtain ⟨r, jobs, done, h⟩ := (progress_scanWorkspace hidle hwalk).run hturns
  obtain ⟨hjobs, hcount, hboard⟩ := h.of_result? hn
  have hscanner := h.scanner
  refine ⟨hcount, h.rounds, done.foldl record s.scanner.board, ?_, fun p => ?_⟩
  · rw [hjobs, ← hidle] at hscanner
    exact hscanner
  · rw [hscanner] at hboard
    exact hboard p

end Whole

/-- The scans of documents of a scan of the workspace may take turns and finish in any order: in the
end the number of documents and the board are those of scanning one file after the other. The board
is then the one before, overridden by what is found in each file that was walked to and can be
scanned when it is scanned alone. Every beginning of such a round can be brought to its end, and a
second round changes nothing. A walk that fails begins no scan at all. -/
theorem round_eq_sequential (cwd : Text) (folders : List Text) (disk : Storage.Disk)
    (settings : Settings) (now : Calendar.Instant) (board : Board) :
    let s := start (.ofFolders cwd folders disk.fileSystem) disk settings now board
    ((∃ paths, s.scanner.workspace.walk disk settings.limits = .ok paths) ↔
      folders = [] ∨ (∀ v ∈ settings.limits.excluded, v.isContainer = false) ∧
        ∀ f ∈ folders, '\x00' ∉ Path.absolute cwd f) ∧
    (∀ failure, s.scanner.workspace.walk disk settings.limits = .error failure →
      s.scanner.scanWorkspace disk = .error failure ∧ s.step .scanWorkspace = s) ∧
    ∀ paths, s.scanner.workspace.walk disk settings.limits = .ok paths →
      ∃ after n, s.scanner.scanWorkspace disk = .ok (after, n) ∧
        n = (paths.filterMap s.scanner.found?).length ∧
        (∀ p, after.board.find? p =
          (if p ∈ paths then s.scanner.found? p else none).or (board.find? p)) ∧
        ∀ turns, (∀ a ∈ turns, a.IsOfRound 0) →
          let first := s.run (.scanWorkspace :: turns)
          (∃ more, (∀ a ∈ more, a.IsOfRound 0) ∧ (first.run more).result? 0 = some n) ∧
          ∀ m, first.result? 0 = some m →
            m = n ∧ (∀ p, first.scanner.board.find? p = after.board.find? p) ∧
            ∀ again, (∀ a ∈ again, a.IsOfRound 1) →
              let second := first.run (.scanWorkspace :: again)
              ∀ m', second.result? 1 = some m' →
                m' = n ∧ ∀ p, second.scanner.board.find? p = first.scanner.board.find? p := by
  intro s
  have hfiles : s.scanner.workspace.files.IsTolerable := disk.isTolerable_fileSystem
  refine ⟨?_, fun failure hwalk => ⟨?_, ?_⟩, fun paths hwalk => ?_⟩
  · rw [Workspace.exists_walk_eq_ok_iff]
    show folders.map (Path.absolute cwd) = [] ∨ (_ ∧ ∀ f ∈ folders.map (Path.absolute cwd), _) ↔ _
    rw [List.map_eq_nil_iff, List.forall_mem_map]
  · have hsettings : s.scanner.settings = settings := rfl
    unfold scanWorkspace
    rw [hsettings, hwalk]
    rfl
  · have hrounds : s.roundsAfter .scanWorkspace = s.rounds := by
      have hwalk' : s.scanner.workspace.walk s.disk s.scanner.settings.limits = .error failure :=
        hwalk
      rw [roundsAfter, hwalk']
    show Session.mk s.scanner s.disk s.begun (s.roundsAfter .scanWorkspace) s.snapshots = s
    rw [hrounds]
  · have hall := find?_foldl_record_of_perm s.scanner (List.Perm.refl (paths.filterMap _))
    refine ⟨_, _, scanWorkspace_eq_ok hfiles hwalk, rfl, hall, fun turns hturns => ?_⟩
    intro first
    refine ⟨exists_result?_run (s := s) rfl hwalk hturns, fun m hm => ?_⟩
    obtain ⟨hcount, hlength, b, hscanner, hboard⟩ := of_result?_run (s := s) rfl hwalk hturns hm
    have hfirst : first.scanner = { s.scanner with board := b } := hscanner
    have hsame : ∀ p, first.scanner.board.find? p = _ := fun p => by rw [hfirst, hboard]
    refine ⟨hcount, fun p => (hsame p).trans (hall p).symm, ?_⟩
    intro again hagain second m' hm'
    have hidle : first.scanner.jobs = [] := by
      rw [hfirst]
      rfl
    have hwalk' : first.scanner.workspace.walk first.disk first.scanner.settings.limits =
        .ok paths := by
      rw [disk_run, hfirst]
      exact hwalk
    have hrounds : first.rounds.length = 1 := hlength
    have hfound : first.scanner.found? = s.scanner.found? := by
      rw [hfirst]
      rfl
    rw [← hrounds] at hagain hm'
    obtain ⟨hcount', -, b', hsecond, hboard'⟩ := of_result?_run hidle hwalk' hagain hm'
    rw [hfound] at hcount' hboard'
    refine ⟨hcount', fun p => ?_⟩
    show (first.run (.scanWorkspace :: again)).scanner.board.find? p = _
    rw [hsecond, hboard', hsame]
    split
    · rw [← Option.or_assoc, Option.or_self]
    · rfl

end Session

end TagLint.Scanner
