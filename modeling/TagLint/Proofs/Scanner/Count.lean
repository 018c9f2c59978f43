import TagLint.Proofs.Expiry.Deadline
import TagLint.Proofs.Scanner.Round
import TagLint.Proofs.Scanner.Session
import TagLint.Proofs.Workspace.Listed
import Mathlib
/-!
What a scan of the workspace counts. A file counts once for each root folder that leads down to it,
so the count is the number of the documents on the board exactly if no document has two root folders
above it (`count_eq_length_paths_iff`).
-/

namespace TagLint

/-! ## Counting with doubles and without -/

namespace Lists

section Counting

variable {α β : Type} [DecidableEq β] {f : α → List β} {xs : List α} {keys : List β}

/-- From lists without doubles a value comes as often as there are lists that hold it. -/
theorem count_flatMap_of_nodup (hf : ∀ x ∈ xs, (f x).Nodup) {b : β} {holds : α → Bool}
    (hholds : ∀ x ∈ xs, holds x = true ↔ b ∈ f x) : (xs.flatMap f).count b = xs.countP holds := by
  induction xs with
  | nil => rfl
  | cons x xs ih =>
    rw [List.forall_mem_cons] at hf hholds
    rw [List.flatMap_cons, List.count_append, ih hf.2 hholds.2, List.countP_cons, hf.1.count,
      Nat.add_comm]
    simp only [hholds.1]

variable (hkeys : keys.Nodup) (hmem : ∀ b, b ∈ keys ↔ b ∈ xs.flatMap f)
  (hf : ∀ x ∈ xs, (f x).Nodup)

include hkeys hmem

theorem perm_dedup_flatMap : keys.Perm (xs.flatMap f).dedup := by
  rw [List.perm_ext_iff_of_nodup hkeys (List.nodup_dedup _)]
  intro b
  rw [hmem, List.mem_dedup]

include hf

/-- Each key is counted once for each list that holds it. -/
theorem length_flatMap_eq_sum {holds : α → β → Bool}
    (hholds : ∀ b ∈ keys, ∀ x ∈ xs, holds x b = true ↔ b ∈ f x) :
    (xs.flatMap f).length = (keys.map fun b => xs.countP (holds · b)).sum := by
  have hcounts : keys.map (fun b => xs.countP (holds · b)) =
      keys.map fun b => (xs.flatMap f).count b :=
    List.map_congr_left fun b hb => (count_flatMap_of_nodup hf (hholds b hb)).symm
  rw [hcounts, ((perm_dedup_flatMap hkeys hmem).map _).sum_eq, List.sum_map_count_dedup_eq_length]

/-- There are as many keys as members if no two lists share a member, and only then. -/
theorem length_flatMap_eq_length_iff :
    (xs.flatMap f).length = keys.length ↔ xs.Pairwise fun x y => (f x).Disjoint (f y) := by
  have hpairwise : (xs.flatMap f).Nodup ↔ xs.Pairwise fun x y => (f x).Disjoint (f y) := by
    rw [List.nodup_flatMap, and_iff_right hf]
  rw [(perm_dedup_flatMap hkeys hmem).length_eq, ← hpairwise, ← List.dedup_eq_self]
  constructor
  · exact fun h => (List.dedup_sublist _).eq_of_length h.symm
  · exact fun h => by rw [h]

end Counting

end Lists

/-! ## Root folders above a document -/

namespace Workspace

variable {disk : Storage.Disk} {limits : Settings.Limits} {root root' p : Text}

/-- The root folder leads down to the document at the path. -/
def Covers (disk : Storage.Disk) (limits : Settings.Limits) (root p : Text) : Prop :=
  ∃ d, IsScanned disk limits root p d

/-- A document is named by its root folder and the names on the way down. -/
theorem Covers.components_isPrefix (htree : disk.IsTree) (h : Covers disk limits root p) :
    Path.components root <+: Path.components p := by
  obtain ⟨d, trail, names, -, hdown, rfl, -⟩ := h
  rw [Path.components_foldl_join root (hdown.isName htree)]
  exact List.prefix_append _ _

/-- Of two root folders above the same document one is above the other, or they are the same. -/
theorem Covers.isPrefix_or_isPrefix (htree : disk.IsTree) (h : Covers disk limits root p)
    (h' : Covers disk limits root' p) :
    Path.components root <+: Path.components root' ∨
      Path.components root' <+: Path.components root :=
  List.prefix_or_prefix_of_prefix (h.components_isPrefix htree) (h'.components_isPrefix htree)

end Workspace

namespace Board

/-- The paths that have an entry. -/
def paths (b : Board) : List Text := b.entries.map (·.1)

theorem mem_paths_iff {b : Board} {p : Text} : p ∈ b.paths ↔ (b.find? p).isSome = true := by
  unfold paths
  rw [List.mem_map]
  constructor
  · rintro ⟨e, he, rfl⟩
    rw [Option.isSome_iff_ne_none]
    exact fun hnone => ByPath.ne_of_find?_eq_none hnone e he rfl
  · intro h
    obtain ⟨fs, hfs⟩ := Option.isSome_iff_exists.mp h
    exact ⟨(p, fs), ByPath.mem_of_find? hfs, rfl⟩

end Board

namespace Scanner

/-- What can be scanned is a document on the disk. -/
theorem exists_isEligible_of_isSome_found? {s : Scanner} {disk : Storage.Disk}
    (hfiles : s.workspace.files = disk.fileSystem) {p : Text} (h : (s.found? p).isSome = true) :
    ∃ d, Workspace.IsEligible disk s.settings.limits p d := by
  obtain ⟨fs, hfs⟩ := Option.isSome_iff_exists.mp h
  obtain ⟨d, hd, -⟩ := Option.bind_eq_some_iff.mp hfs
  refine ⟨d, Workspace.openDocument_eq_ok_iff.mp ?_⟩
  rw [← hfiles, openDocument_eq_ok_open? (hfiles ▸ disk.isTolerable_fileSystem), hd]

namespace Session

/-! ## A scan of the workspace from beginning to end -/

/-- A scan of the workspace, whose scans of documents take turns and finish in some order, comes to
its end with this number of documents and this board. -/
def ScansTo (s : Session) (n : Nat) (board : Board) : Prop :=
  ∃ turns, (∀ a ∈ turns, a.IsOfRound s.rounds.length) ∧
    (s.run (.scanWorkspace :: turns)).result? s.rounds.length = some n ∧
    (s.run (.scanWorkspace :: turns)).scanner.board = board

theorem length_rounds_step {s : Session} {k : Nat} {a : Action} (ha : a.IsOfRound k) :
    (s.step a).rounds.length = s.rounds.length := by
  show (s.roundsAfter a).length = _
  cases a with
  | takeTurn round p => exact List.length_modify _ _ _
  | finish job =>
    unfold roundsAfter
    dsimp only
    split
    · exact List.length_map _
    · rfl
  | _ => exact absurd ha id

theorem length_rounds_run {s : Session} {k : Nat} {turns : List Action}
    (hturns : ∀ a ∈ turns, a.IsOfRound k) : (s.run turns).rounds.length = s.rounds.length := by
  induction turns generalizing s with
  | nil => rfl
  | cons a turns ih =>
    rw [List.forall_mem_cons] at hturns
    exact (ih hturns.2).trans (length_rounds_step hturns.1)

/-- A scan comes to its end exactly if its walk does not fail. -/
theorem exists_scansTo_iff {s : Session} (hidle : s.scanner.jobs = []) :
    (∃ n board, s.ScansTo n board) ↔
      ∃ paths, s.scanner.workspace.walk s.disk s.scanner.settings.limits = .ok paths := by
  constructor
  · rintro ⟨n, board, turns, hturns, hn, -⟩
    cases hwalk : s.scanner.workspace.walk s.disk s.scanner.settings.limits with
    | ok paths => exact ⟨paths, rfl⟩
    | error failure =>
      -- there is no round that could have a result
      have hrounds : (s.step .scanWorkspace).rounds = s.rounds := by
        show s.roundsAfter .scanWorkspace = _
        rw [roundsAfter, hwalk]
      have hlength : (s.run (.scanWorkspace :: turns)).rounds.length = s.rounds.length := by
        show ((s.step .scanWorkspace).run turns).rounds.length = _
        rw [length_rounds_run hturns, hrounds]
      unfold result? at hn
      rw [← hlength, List.getElem?_eq_none (Nat.le_refl _)] at hn
      cases hn
  · rintro ⟨paths, hwalk⟩
    obtain ⟨more, hmore, hresult⟩ := exists_result?_run hidle hwalk (List.forall_mem_nil _)
    exact ⟨_, _, more, hmore, hresult, rfl⟩

section Count

variable {s : Session} {n : Nat} {board : Board}

/-- The files below a root folder that can be scanned, as the walk comes to them. -/
def scannedBelow (s : Session) (excluded : List Text) (root : Text) : List Text :=
  (s.disk.walkDown excluded (s.disk.items.length + 1) root).filter (s.scanner.found? · |>.isSome)

theorem nodup_scannedBelow (htree : s.disk.IsTree) {excluded : List Text} {root : Text} :
    (s.scannedBelow excluded root).Nodup :=
  (Storage.Disk.nodup_walkDown htree excluded _ root).filter _

/-- From an empty board a scan has counted the files below each root folder that can be scanned, and
these are on the board. -/
structure Tallies (s : Session) (excluded : List Text) (n : Nat) (board : Board) : Prop where
  excludedNames : s.scanner.workspace.folders ≠ [] →
    s.scanner.settings.limits.excludedNames = .ok excluded
  count : n = (s.scanner.workspace.folders.flatMap (s.scannedBelow excluded)).length
  nodup : board.paths.Nodup
  mem_iff : ∀ p, p ∈ board.paths ↔
    p ∈ s.scanner.workspace.folders.flatMap (s.scannedBelow excluded)

theorem ScansTo.exists_tallies (hidle : s.scanner.jobs = []) (hempty : s.scanner.board = {})
    (h : s.ScansTo n board) : ∃ excluded, s.Tallies excluded n board := by
  obtain ⟨paths, hwalk⟩ := (exists_scansTo_iff hidle).mp ⟨n, board, h⟩
  obtain ⟨excluded, hexcluded, hpaths⟩ := Workspace.exists_eq_flatMap_of_walk hwalk
  obtain ⟨turns, hturns, hn, rfl⟩ := h
  obtain ⟨hcount, -, b, hscanner, hboard⟩ := of_result?_run hidle hwalk hturns hn
  have hscanned : s.scanner.workspace.folders.flatMap (s.scannedBelow excluded) =
      paths.filter (s.scanner.found? · |>.isSome) := by
    rw [hpaths, List.filter_flatMap]
    rfl
  refine ⟨excluded, hexcluded, ?_, ?_, fun p => ?_⟩
  · rw [hcount, hscanned, List.length_filterMap_eq_countP, List.countP_eq_length_filter]
  · apply isFunctional_run
    rw [hempty]
    exact ByPath.isFunctional_nil
  · rw [hscanned, List.mem_filter, Board.mem_paths_iff, hscanner, hboard, hempty]
    by_cases hp : p ∈ paths
    · rw [if_pos hp, and_iff_right hp]
      exact Iff.of_eq (congrArg (Option.isSome · = true) Option.or_none)
    · rw [if_neg hp]
      exact iff_of_false Bool.false_ne_true fun h => hp h.1

section Tallies

variable {excluded : List Text} {root p : Text}
  (hfiles : s.scanner.workspace.files = s.disk.fileSystem) (htree : s.disk.IsTree)

include hfiles htree

theorem Tallies.mem_scannedBelow_iff (h : s.Tallies excluded n board)
    (hroot : root ∈ s.scanner.workspace.folders) :
    p ∈ s.scannedBelow excluded root ↔
      Workspace.Covers s.disk s.scanner.settings.limits root p ∧
        (s.scanner.found? p).isSome = true := by
  have hexcluded := h.excludedNames (List.ne_nil_of_mem hroot)
  unfold scannedBelow
  rw [List.mem_filter]
  refine and_congr_left fun hfound => ?_
  obtain ⟨d, hd⟩ := exists_isEligible_of_isSome_found? hfiles hfound
  constructor
  · exact fun hp => ⟨d, (Workspace.mem_walkDown_and_isEligible_iff htree hexcluded).mp ⟨hp, hd⟩⟩
  · rintro ⟨d', hd'⟩
    exact ((Workspace.mem_walkDown_and_isEligible_iff htree hexcluded).mpr hd').1

/-- On the board are the documents below the root folders that can be scanned. -/
theorem Tallies.mem_paths_iff (h : s.Tallies excluded n board) :
    p ∈ board.paths ↔
      (∃ root ∈ s.scanner.workspace.folders,
        Workspace.Covers s.disk s.scanner.settings.limits root p) ∧
        (s.scanner.found? p).isSome = true := by
  rw [h.mem_iff, List.mem_flatMap]
  constructor
  · rintro ⟨root, hroot, hp⟩
    obtain ⟨hcovers, hfound⟩ := (h.mem_scannedBelow_iff hfiles htree hroot).mp hp
    exact ⟨⟨root, hroot, hcovers⟩, hfound⟩
  · rintro ⟨⟨root, hroot, hcovers⟩, hfound⟩
    exact ⟨root, hroot, (h.mem_scannedBelow_iff hfiles htree hroot).mpr ⟨hcovers, hfound⟩⟩

theorem Tallies.mem_scannedBelow_of_mem_paths (h : s.Tallies excluded n board)
    (hroot : root ∈ s.scanner.workspace.folders) (hp : p ∈ board.paths) :
    p ∈ s.scannedBelow excluded root ↔
      Workspace.Covers s.disk s.scanner.settings.limits root p := by
  rw [h.mem_scannedBelow_iff hfiles htree hroot,
    and_iff_left ((h.mem_paths_iff hfiles htree).mp hp).2]

open Classical in
theorem Tallies.eq_sum (h : s.Tallies excluded n board) :
    n = (board.paths.map fun p => s.scanner.workspace.folders.countP
      (Workspace.Covers s.disk s.scanner.settings.limits · p)).sum := by
  rw [h.count]
  refine Lists.length_flatMap_eq_sum h.nodup h.mem_iff (fun root _ => nodup_scannedBelow htree)
    fun p hp root hroot => ?_
  rw [decide_eq_true_iff, h.mem_scannedBelow_of_mem_paths hfiles htree hroot hp]

theorem Tallies.eq_length_iff (h : s.Tallies excluded n board) :
    n = board.paths.length ↔
      s.scanner.workspace.folders.Pairwise fun root root' => ∀ p ∈ board.paths,
        ¬ (Workspace.Covers s.disk s.scanner.settings.limits root p ∧
          Workspace.Covers s.disk s.scanner.settings.limits root' p) := by
  rw [h.count, Lists.length_flatMap_eq_length_iff h.nodup h.mem_iff fun root _ =>
    nodup_scannedBelow htree]
  refine List.Pairwise.iff_of_mem fun {root root'} hroot hroot' => ?_
  have hbelow : ∀ p ∈ board.paths, (p ∈ s.scannedBelow excluded root ↔ _) := fun p =>
    h.mem_scannedBelow_of_mem_paths hfiles htree hroot
  have hbelow' : ∀ p ∈ board.paths, (p ∈ s.scannedBelow excluded root' ↔ _) := fun p =>
    h.mem_scannedBelow_of_mem_paths hfiles htree hroot'
  rw [List.disjoint_left]
  constructor
  · intro hdisjoint p hp hcovers
    exact hdisjoint ((hbelow p hp).mpr hcovers.1) ((hbelow' p hp).mpr hcovers.2)
  · intro hshared p hin hin'
    have hp : p ∈ board.paths := (h.mem_iff p).mpr (List.mem_flatMap.mpr ⟨root, hroot, hin⟩)
    exact hshared p hp ⟨(hbelow p hp).mp hin, (hbelow' p hp).mp hin'⟩

end Tallies

open Classical in
/-- From an empty board a scan of the workspace, in whatever order its scans of documents take turns
and finish, comes to its end unless the excluded names are no list of simple values or a root folder
can name nothing on a disk. Then the documents to which a root folder leads down and that can be
scanned are on the board, once each. The count adds up, for each of them, the root folders that lead
down to it. So it is the number of documents exactly if no two root folders lead down to the same
one, and in any case if no root folder is another one or above it. -/
theorem count_eq_length_paths_iff (hfiles : s.scanner.workspace.files = s.disk.fileSystem)
    (htree : s.disk.IsTree) (hidle : s.scanner.jobs = []) (hempty : s.scanner.board = {}) :
    let roots := s.scanner.workspace.folders
    let limits := s.scanner.settings.limits
    let Covers := Workspace.Covers s.disk limits
    ((∃ n board, s.ScansTo n board) ↔
      roots = [] ∨ (∀ v ∈ limits.excluded, v.isContainer = false) ∧
        ∀ root ∈ roots, '\x00' ∉ root) ∧
    ∀ n board, s.ScansTo n board →
      board.paths.Nodup ∧
      (∀ p, p ∈ board.paths ↔
        (∃ root ∈ roots, Covers root p) ∧ (s.scanner.found? p).isSome = true) ∧
      n = (board.paths.map fun p => roots.countP (Covers · p)).sum ∧
      (n = board.paths.length ↔
        roots.Pairwise fun root root' =>
          ∀ p ∈ board.paths, ¬ (Covers root p ∧ Covers root' p)) ∧
      (roots.Pairwise (fun root root' =>
          ¬ Path.components root <+: Path.components root' ∧
            ¬ Path.components root' <+: Path.components root) →
        n = board.paths.length) := by
  intro roots limits Covers
  refine ⟨(exists_scansTo_iff hidle).trans Workspace.exists_walk_eq_ok_iff, fun n board h => ?_⟩
  obtain ⟨excluded, htally⟩ := h.exists_tallies hidle hempty
  have hexact := htally.eq_length_iff hfiles htree
  refine ⟨htally.nodup, fun p => htally.mem_paths_iff hfiles htree, htally.eq_sum hfiles htree,
    hexact, fun hapart => hexact.mpr (hapart.imp ?_)⟩
  rintro root root' ⟨hnot, hnot'⟩ p - ⟨hcovers, hcovers'⟩
  exact (hcovers.isPrefix_or_isPrefix htree hcovers').elim hnot hnot'

end Count

/-- A disk with two folders side by side, each of which holds a file. -/
def forkedDisk : Storage.Disk where
  items := [(["ws".toList], .folder), (["ws".toList, "doc".toList], .folder),
    (["ws".toList, "doc".toList, "b.md".toList], .file []),
    (["ws".toList, "src".toList], .folder),
    (["ws".toList, "src".toList, "a.py".toList], .file [])]

/-- A session on that disk with these root folders, before anything is asked of it. -/
def onForkedDisk (folders : List Text) : Session :=
  start (.ofFolders ['/'] folders forkedDisk.fileSystem) forkedDisk {} Expiry.newYear.instant

/-- The root folders side by side. -/
def sideBySide : Session := onForkedDisk ["/ws/doc".toList, "/ws/src".toList]

/-- The folders side by side share no document. -/
theorem count_eq_length_paths_sideBySide :
    sideBySide.disk.IsTree ∧ (∃ n board, sideBySide.ScansTo n board) ∧
      ∀ n board, sideBySide.ScansTo n board → n = board.paths.length := by
  have htree : sideBySide.disk.IsTree := ⟨by decide, by decide⟩
  have hroots : sideBySide.scanner.workspace.folders = ["/ws/doc".toList, "/ws/src".toList] := by
    decide
  obtain ⟨hends, hcount⟩ := count_eq_length_paths_iff (s := sideBySide) rfl htree rfl rfl
  refine ⟨htree, hends.mpr (Or.inr ⟨by decide, ?_⟩), fun n board h => ?_⟩
  · rw [hroots]
    decide
  · obtain ⟨-, -, -, -, hapart⟩ := hcount n board h
    apply hapart
    rw [hroots]
    decide

/-- One root folder in the other. -/
def nested : Session := onForkedDisk ["/ws".toList, "/ws/src".toList]

/-- The files below the nested folders as the walk comes to them. -/
def nestedWalk : List Text :=
  ["/ws/doc/b.md".toList, "/ws/src/a.py".toList, "/ws/src/a.py".toList]

/-- The file that is in both folders is counted twice. -/
theorem count_ne_length_paths_nested :
    nested.scanner.board = {} ∧
      ∃ board, nested.ScansTo 3 board ∧
        board.paths = ["/ws/doc/b.md".toList, "/ws/src/a.py".toList] := by
  have hwalk : nested.scanner.workspace.walk nested.disk nested.scanner.settings.limits =
      .ok nestedWalk := by
    cbv
  have hbegun : nested.step .scanWorkspace =
      { nested with rounds := [{ limits := {}, waiting := nestedWalk }] } := by
    show Session.mk nested.scanner nested.disk nested.begun (nested.roundsAfter .scanWorkspace)
      nested.snapshots = _
    rw [roundsAfter, hwalk]
    rfl
  have hturns : ∀ a ∈ nestedWalk.map (Action.takeTurn 0) ++ [.finish 0, .finish 1, .finish 2],
      a.IsOfRound nested.rounds.length := by
    simp [nestedWalk, Action.IsOfRound, nested, onForkedDisk, start]
  have hrun : ∀ turns, nested.run (.scanWorkspace :: turns) =
      Session.run { nested with rounds := [{ limits := {}, waiting := nestedWalk }] } turns := by
    intro turns
    unfold run
    rw [List.foldl_cons, hbegun]
  refine ⟨rfl, _, ⟨_, hturns, ?_, rfl⟩, ?_⟩
  · rw [hrun]
    decide +kernel
  · rw [hrun]
    decide +kernel

end Session

end Scanner

end TagLint
