import TagLint.Proofs.Reference.Destination
import TagLint.Storage.Staged
/-!
What becomes of the targets of a payload when folders are expanded. Without expansion there is one
target for each token. Expanding changes those alone that are folders: each is replaced, in its
place, by the files that are listed in it, or by one target that is missing. No target is lost, none
is doubled, and none changes its place or its token (`targets_expands`).
-/

namespace TagLint.Reference

namespace Target

/-- The token that a target belongs to. -/
def token : Target → Text
  | found token _ _ _ _ => token
  | missing token _ => token

/-- Whether a target was found and is a folder. -/
def isFolder : Target → Bool
  | found _ _ isFolder _ _ => isFolder
  | missing _ _ => false

/-- Whether a target is one of the files of a folder that was listed. -/
def fromFolder : Target → Bool
  | found _ _ _ fromFolder _ => fromFolder
  | missing _ _ => false

/-- What is meant in the file or folder of a target that was found. -/
def place? : Target → Option Place
  | found _ _ _ _ place => some place
  | missing _ _ => none

/-- A target that a token can have while no folder is expanded. -/
structure IsPlainOf (t : Target) (text : Text) : Prop where
  token : t.token = text
  fromFolder : t.fromFolder = false
  place : ∀ place, t.place? = some place → ∃ path, ofToken text = .ok { path, place }

end Target

/-- What a target becomes when folders are expanded. All but folders stay. A folder becomes the
files listed in it, in the order of the list; if there are none, or no list, it becomes one target
that is missing, without a candidate and not to be created. -/
inductive Expands (files : Storage.FileSystem) : Target → List Target → Prop
  | kept {t : Target} (h : t.isFolder = false) : Expands files t [t]
  | listed {token folder : Text} {place : Place} {entries : List (Text × Bool)}
      (hlist : files.list folder = .ok entries) (hsome : ∃ e ∈ entries, e.2 = true) :
      Expands files (.found token folder true false place)
        ((entries.filter (·.2)).map fun e =>
          .found token (Path.join folder e.1) false true place)
  | bare {token folder : Text} {place : Place} {o : Obstacle}
      (hnone : ∀ entries, files.list folder = .ok entries → ∀ e ∈ entries, e.2 = false)
      (hcandidate : o.candidate? = none) (hcreation : o.allowsCreation = false) :
      Expands files (.found token folder true false place) [.missing token o]

variable {w : Workspace} {document token : Text}

/-! ## One token -/

theorem expands_expand {folder : Text} {place : Place} {ts : List Target}
    (h : expand w token folder place = .ok ts) :
    Expands w.files (.found token folder true false place) ts := by
  unfold expand at h
  cases hlist : w.files.list folder with
  | error fault =>
    rw [hlist] at h
    dsimp only at h
    split at h
    · cases h
      refine .bare (fun entries hentries => ?_) rfl rfl
      rw [hlist] at hentries
      cases hentries
    · cases h
  | ok entries =>
    rw [hlist] at h
    dsimp only at h
    split at h
    · rename_i hempty
      cases h
      refine .bare (fun entries' hentries e he => ?_) rfl rfl
      rw [hlist] at hentries
      cases hentries
      rw [List.isEmpty_iff, List.filter_eq_nil_iff] at hempty
      simpa using hempty e he
    · rename_i hsome
      cases h
      refine .listed hlist ?_
      simpa [List.filter_eq_nil_iff] using hsome

/-- A destination has one target without expansion, and what this one becomes with it. -/
theorem exists_expands_targetsAt {r : Reference} {target : Text} {ts us : List Target}
    (hr : ofToken token = .ok r) (hts : targetsAt w false token r target = .ok ts)
    (hus : targetsAt w true token r target = .ok us) :
    ∃ t, ts = [t] ∧ t.IsPlainOf token ∧ Expands w.files t us := by
  have hplace : ∀ place, some r.place = some place →
      ∃ path, ofToken token = .ok { path, place } := by
    intro place hplace
    cases hplace
    exact ⟨r.path, hr⟩
  unfold targetsAt at hts hus
  obtain ⟨found, hfound, hts⟩ := Traverse.bind_eq_ok.mp hts
  rw [hfound, Traverse.ok_bind] at hus
  cases found with
  | none =>
    cases hts
    cases hus
    exact ⟨_, rfl, ⟨rfl, rfl, nofun⟩, .kept rfl⟩
  | some found =>
    dsimp only at hts hus
    rw [Bool.and_false, if_neg Bool.false_ne_true] at hts
    rw [Bool.and_true] at hus
    cases hts
    refine ⟨_, rfl, ⟨rfl, rfl, hplace⟩, ?_⟩
    cases hfolder : found.isFolder with
    | false =>
      rw [hfolder, if_neg Bool.false_ne_true] at hus
      cases hus
      exact .kept rfl
    | true =>
      rw [hfolder, if_pos rfl] at hus
      exact expands_expand hus

theorem exists_expands_targetsOfToken {ts us : List Target}
    (hts : targetsOfToken w document false token = .ok ts)
    (hus : targetsOfToken w document true token = .ok us) :
    ∃ t, ts = [t] ∧ t.IsPlainOf token ∧ Expands w.files t us := by
  rw [targetsOfToken_eq] at hts hus
  obtain ⟨r, hr, hts⟩ := Traverse.bind_eq_ok.mp hts
  rw [hr, Traverse.ok_bind] at hus
  cases hd : destination w document r.path with
  | error o =>
    rw [hd] at hts hus
    cases hts
    cases hus
    exact ⟨_, rfl, ⟨rfl, rfl, nofun⟩, .kept rfl⟩
  | ok target =>
    rw [hd] at hts hus
    exact exists_expands_targetsAt hr hts hus

/-! ## A whole payload -/

/-- The targets of several tokens: one for each without expansion, and a block for each with it. -/
theorem exists_forall₂_expands {ts : List Text} {found blocks : List (List Target)}
    (hfound : ts.mapM (targetsOfToken w document false) = .ok found)
    (hblocks : ts.mapM (targetsOfToken w document true) = .ok blocks) :
    List.Forall₂ (fun token t => t.IsPlainOf token) ts found.flatten ∧
      List.Forall₂ (Expands w.files) found.flatten blocks := by
  rw [Traverse.mapM_eq_ok_iff] at hfound hblocks
  induction hfound generalizing blocks with
  | nil =>
    cases hblocks
    exact ⟨.nil, .nil⟩
  | cons htoken _ ih =>
    cases hblocks with
    | cons hblock hblocks =>
      obtain ⟨t, rfl, hplain, hexpands⟩ := exists_expands_targetsOfToken htoken hblock
      obtain ⟨hplains, hexpand⟩ := ih hblocks
      exact ⟨.cons hplain hplains, .cons hexpands hexpand⟩

/-- Without expansion there is one target for each token, in the order of the tokens, and none of
them comes from a folder; a payload without tokens has a single target. With expansion each of these
targets becomes a block of targets, and the blocks stand in the same order. -/
theorem targets_expands {payload : Text} {plain expanded : List Target}
    (hplain : targets w document payload false = .ok plain)
    (hexpanded : targets w document payload true = .ok expanded) :
    (tokens payload = [] → plain = [.missing [] .noPath]) ∧
      (tokens payload ≠ [] →
        List.Forall₂ (fun token t => t.IsPlainOf token) (tokens payload) plain) ∧
      ∃ blocks, List.Forall₂ (Expands w.files) plain blocks ∧ expanded = blocks.flatten := by
  rw [targets_eq] at hplain hexpanded
  by_cases hnone : tokens payload = []
  · rw [if_pos hnone] at hplain hexpanded
    cases hplain
    cases hexpanded
    exact ⟨fun _ => rfl, fun hsome => absurd hnone hsome, [[.missing [] .noPath]],
      .cons (.kept rfl) .nil, rfl⟩
  · rw [if_neg hnone] at hplain hexpanded
    obtain ⟨found, hfound, hplain⟩ := Traverse.bind_eq_ok.mp hplain
    obtain ⟨blocks, hblocks, hexpanded⟩ := Traverse.bind_eq_ok.mp hexpanded
    cases hplain
    cases hexpanded
    obtain ⟨hplains, hexpands⟩ := exists_forall₂_expands hfound hblocks
    exact ⟨fun hno => absurd hno hnone, fun _ => hplains, blocks, hexpands, rfl⟩

/-- A tree with a file, a folder that holds files and another folder, and one that may not be
listed. -/
def mixedTree : Storage.FileSystem :=
  .ofStages [("/ws/a.py".toList, { probe := some (.ok { isFolder := false, size := 1 }) }),
    ("/ws/src".toList, {
      probe := some (.ok { isFolder := true, size := 0 })
      list := some (.ok [("z.py".toList, true), ("sub".toList, false), ("b.py".toList, true)]) }),
    ("/ws/locked".toList, {
      probe := some (.ok { isFolder := true, size := 0 })
      list := some (.error .refused) })]

/-- The targets of a payload of four tokens on the mixed tree, before and after expansion. -/
theorem targets_expands_mixedTree :
    ∃ plain expanded,
      targets (Workspace.ofFolders ['/'] ["/ws".toList] mixedTree) "/ws/docs/a.md".toList
        "src:L3, gone/, locked, a.py#f".toList false = .ok plain ∧
      targets (Workspace.ofFolders ['/'] ["/ws".toList] mixedTree) "/ws/docs/a.md".toList
        "src:L3, gone/, locked, a.py#f".toList true = .ok expanded ∧
      expanded.map Target.token =
        ["src:L3".toList, "src:L3".toList, "gone/".toList, "locked".toList, "a.py#f".toList] ∧
      ∃ blocks, List.Forall₂ (Expands mixedTree) plain blocks ∧ expanded = blocks.flatten := by
  have hplain : targets (Workspace.ofFolders ['/'] ["/ws".toList] mixedTree)
      "/ws/docs/a.md".toList "src:L3, gone/, locked, a.py#f".toList false =
      .ok [.found "src:L3".toList "/ws/src".toList true false (.lines { first := 3, last := none }),
        .missing "gone/".toList (.notFound "gone/".toList "/ws/gone".toList),
        .found "locked".toList "/ws/locked".toList true false .whole,
        .found "a.py#f".toList "/ws/a.py".toList false false (.symbol ['f'])] := by
    decide
  have hexpanded : targets (Workspace.ofFolders ['/'] ["/ws".toList] mixedTree)
      "/ws/docs/a.md".toList "src:L3, gone/, locked, a.py#f".toList true =
      .ok [.found "src:L3".toList "/ws/src/z.py".toList false true
          (.lines { first := 3, last := none }),
        .found "src:L3".toList "/ws/src/b.py".toList false true
          (.lines { first := 3, last := none }),
        .missing "gone/".toList (.notFound "gone/".toList "/ws/gone".toList),
        .missing "locked".toList (.unreadableFolder "locked".toList),
        .found "a.py#f".toList "/ws/a.py".toList false false (.symbol ['f'])] := by
    decide
  exact ⟨_, _, hplain, hexpanded, rfl, (targets_expands hplain hexpanded).2.2⟩

end TagLint.Reference
