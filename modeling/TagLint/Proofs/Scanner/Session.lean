import TagLint.Proofs.Scanner.History
/-!
The board of a scanner in use. Whatever is asked of it in whatever order, and however the scans of
documents and of the workspace overlap, its board is the one that the history of the scans of
documents makes (`board_run`); and a snapshot stays what the board was when it was taken.
-/

namespace TagLint.Scanner.Session

/-- At every time of a session each path has at most one entry. -/
theorem isFunctional_run {s : Session} (h : ByPath.IsFunctional s.scanner.board.entries)
    (as : List Action) : ByPath.IsFunctional (s.run as).scanner.board.entries := by
  induction as generalizing s with
  | nil => exact h
  | cons a as ih =>
    apply ih
    show ByPath.IsFunctional ((s.event? a).elim s.scanner s.scanner.step).board.entries
    cases s.event? a with
    | none => exact h
    | some e => exact isFunctional_step h e

/-- Snapshots are added, and none is changed. -/
theorem snapshots_run (s : Session) (as : List Action) :
    ∃ later, (s.run as).snapshots = s.snapshots ++ later := by
  induction as generalizing s with
  | nil => exact ⟨[], (List.append_nil _).symm⟩
  | cons a as ih =>
    obtain ⟨later, hlater⟩ := ih (s.step a)
    have hstep : ∃ taken, (s.step a).snapshots = s.snapshots ++ taken := by
      cases a with
      | snapshot => exact ⟨[s.scanner.board], rfl⟩
      | _ => exact ⟨[], (List.append_nil _).symm⟩
    obtain ⟨taken, htaken⟩ := hstep
    refine ⟨taken ++ later, ?_⟩
    show ((s.step a).run as).snapshots = _
    rw [hlater, htaken, List.append_assoc]

/-- At every time of a session a path has the findings of its last scan that finished with success
since its entry was cleared, complete and as they were when that scan began, and it has no entry if
there is no such scan. What does not decide on the entry of the path, such as the end of a scan that
fails, a scan of another path or the clearing of another entry, leaves it as it is. A snapshot keeps
what was on the board when it was taken. -/
theorem board_run (workspace : Workspace) (disk : Storage.Disk) (settings : Settings)
    (now : Calendar.Instant) (actions : List Action) (p : Text) :
    let s := start workspace disk settings now
    (∀ fs, (s.run actions).scanner.board.find? p = some fs ↔ s.LastFound actions p fs) ∧
    ((∀ fs, ¬ s.LastFound actions p fs) → (s.run actions).scanner.board.get p = []) ∧
    (∀ a, ¬ s.Decides actions p a →
      ((s.run actions).step a).scanner.board.find? p =
        (s.run actions).scanner.board.find? p) ∧
    ∀ before after, actions = before ++ .snapshot :: after →
      (s.run actions).snapshots[(s.run before).snapshots.length]? =
        some (s.run before).scanner.board := by
  intro s
  have hentry : ∀ fs, (s.run actions).scanner.board.find? p = some fs ↔
      s.LastFound actions p fs := fun fs => find?_run_iff rfl rfl
  refine ⟨hentry, ?_, fun a ha => find?_step_of_not_decides rfl ha, ?_⟩
  · intro hnone
    have hfind : (s.run actions).scanner.board.find? p = none := by
      rw [Option.eq_none_iff_forall_ne_some]
      exact fun fs hfs => hnone fs ((hentry fs).mp hfs)
    unfold Board.get
    rw [hfind]
    rfl
  · rintro before after rfl
    obtain ⟨later, hlater⟩ := snapshots_run ((s.run before).step .snapshot) after
    have htaken : ((s.run before).step .snapshot).snapshots =
        (s.run before).snapshots ++ [(s.run before).scanner.board] := rfl
    have hrun : s.run (before ++ .snapshot :: after) = ((s.run before).step .snapshot).run after :=
      run_append s before (.snapshot :: after)
    rw [hrun, hlater, htaken, List.append_assoc]
    simp

end TagLint.Scanner.Session
