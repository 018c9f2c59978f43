import TagLint.Proofs.ByPath
import TagLint.Proofs.Reference.Destination
import TagLint.Proofs.Workspace.Folders
import TagLint.Storage.Staged
/-!
The sandbox of a document is what lies strictly inside its root folder. Every target of a payload
lies there, and no question is ever asked about a place outside, so that nothing outside can be
told from the targets.
-/

namespace TagLint.Reference

open TagLint.Path

/-! ## The check against the root -/

/-- A place counts as inside the root exactly when it goes on from it and the first segment by which
it does so does not start with two dots. -/
theorem isWithin_iff (cwd : Text) {root target : Text} (hr : IsPlain root) (ht : IsPlain target) :
    isWithin cwd root target = true ↔
      ∃ s rest, components target = components root ++ s :: rest ∧ ¬ up <+: s := by
  by_cases h : components root <+: components target
  · obtain ⟨rest, hrest⟩ := h
    cases rest with
    | nil =>
      unfold isWithin
      rw [relative?_of_extending cwd hr ht hrest.symm, render_zero_nil, ← hrest]
      simp
    | cons s ss =>
      have hs : IsName s := ht.names s (by rw [← hrest]; simp)
      obtain ⟨hhere, habs, hup⟩ := render_zero_of_isName hs ss
      have hway : isWithin cwd root target = !up.isPrefixOf (render 0 (s :: ss)) := by
        unfold isWithin
        rw [relative?_of_extending cwd hr ht hrest.symm]
        simp [hhere, habs]
      constructor
      · intro h
        rw [hway, Bool.not_eq_true', ← Bool.not_eq_true, List.isPrefixOf_iff_prefix, hup] at h
        exact ⟨s, ss, hrest.symm, h⟩
      · rintro ⟨s', rest, hs', hns⟩
        rw [← hrest, List.append_cancel_left_eq, List.cons.injEq] at hs'
        rw [hway, Bool.not_eq_true', ← Bool.not_eq_true, List.isPrefixOf_iff_prefix, hup, hs'.1]
        exact hns
  · obtain ⟨ss, hway⟩ := relative?_of_not_extending cwd hr ht h
    obtain ⟨t, ht, -⟩ := render_zero_cons (show up ≠ [] by decide) ss
    have hup : up.isPrefixOf (up ++ t) = true := by simp
    unfold isWithin
    rw [hway, ht]
    simp only [hup, Bool.not_true, Bool.and_false, Bool.false_and, Bool.false_eq_true, false_iff]
    rintro ⟨s, rest, hs, -⟩
    exact h ⟨s :: rest, hs.symm⟩

theorem isPlain_place? {w : Workspace} (hw : w.IsPlain) {document root path target : Text}
    (hr : IsPlain root) (h : place? w document root path = some target) :
    IsPlain target ∧ isWithin w.cwd root target = true := by
  unfold place? at h
  dsimp only at h
  rw [Option.ite_none_right_eq_some] at h
  obtain ⟨hwithin, h⟩ := h
  cases h
  refine ⟨isPlain_normalize (isAbsolute_join ?_ path), hwithin⟩
  split
  · exact isAbsolute_parent (isPlain_absolute hw.cwd document).absolute
  · exact hr.absolute

/-- A destination lies in the sandbox, however its path is spelled. -/
theorem encloses_of_destination {w : Workspace} (hw : w.IsPlain) {document path target : Text}
    (h : destination w document path = .ok target) : w.Encloses document target := by
  rcases destination_cases w document path with ⟨o, ho, -⟩ | ⟨root, t, ht, hroot, hplace⟩
  · rw [ho] at h
    cases h
  · rw [ht] at h
    cases h
    have hr := hw.root hroot
    obtain ⟨hplain, hwithin⟩ := isPlain_place? hw hr hplace
    obtain ⟨s, rest, hc, -⟩ := (isWithin_iff w.cwd hr hplain).mp hwithin
    exact ⟨root, hroot, isInside_of_components hplain hc⟩

/-! ## Targets stay in the sandbox -/

/-- A target that is found lies in the sandbox; one that is missing has its candidate there, and may
be created only if it has a candidate. -/
def Target.IsConfined (w : Workspace) (document : Text) : Target → Prop
  | .found _ location _ _ _ => w.Encloses document location
  | .missing _ o =>
    (∀ p, o.candidate? = some p → w.Encloses document p) ∧
      (o.allowsCreation = true → ∃ p, o.candidate? = some p)

/-- The file system lists folders by the names of their entries. -/
def ListsNames (files : Storage.FileSystem) : Prop :=
  ∀ p entries, files.list p = .ok entries → ∀ e ∈ entries, IsName e.1

variable {w : Workspace} {document : Text}

theorem isConfined_missing {o : Obstacle} (token : Text)
    (h : o.candidate? = none ∧ o.allowsCreation = false) :
    (Target.missing token o).IsConfined w document := by
  constructor
  · intro p hp
    rw [h.1] at hp
    cases hp
  · intro ha
    rw [h.2] at ha
    cases ha

theorem isConfined_expand (hfiles : ListsNames w.files) {token folder : Text} {place : Place}
    (hfolder : w.Encloses document folder) {ts : List Target}
    (h : expand w token folder place = .ok ts) : ∀ t ∈ ts, t.IsConfined w document := by
  unfold expand at h
  split at h
  · split at h
    · cases h
      simpa using isConfined_missing token ⟨rfl, rfl⟩
    · cases h
  · rename_i entries hlist
    dsimp only at h
    split at h
    · cases h
      simpa using isConfined_missing token ⟨rfl, rfl⟩
    · cases h
      intro t ht
      obtain ⟨e, he, rfl⟩ := List.mem_map.mp ht
      obtain ⟨root, hroot, hin⟩ := hfolder
      have hname := hfiles folder entries hlist e (List.mem_filter.mp he).1
      exact ⟨root, hroot, isInside_join hin hname⟩

theorem isConfined_targetsAt (hfiles : ListsNames w.files) {expandFolders : Bool} {token : Text}
    {r : Reference} {target : Text} (hin : w.Encloses document target) {ts : List Target}
    (h : targetsAt w expandFolders token r target = .ok ts) :
    ∀ t ∈ ts, t.IsConfined w document := by
  unfold targetsAt at h
  obtain ⟨found, -, h⟩ := Traverse.bind_eq_ok.mp h
  cases found with
  | none =>
    cases h
    rw [List.forall_mem_singleton]
    constructor
    · intro p hp
      cases hp
      exact hin
    · intro _
      exact ⟨target, rfl⟩
  | some found =>
    dsimp only at h
    split at h
    · exact isConfined_expand hfiles hin h
    · cases h
      rw [List.forall_mem_singleton]
      exact hin

theorem isConfined_targetsOfToken (hw : w.IsPlain) (hfiles : ListsNames w.files)
    {expandFolders : Bool} {token : Text} {ts : List Target}
    (h : targetsOfToken w document expandFolders token = .ok ts) :
    ∀ t ∈ ts, t.IsConfined w document := by
  rw [targetsOfToken_eq] at h
  obtain ⟨r, -, h⟩ := Traverse.bind_eq_ok.mp h
  rcases destination_cases w document r.path with ⟨o, ho, hnone⟩ | ⟨root, target, htarget, -⟩
  · rw [ho] at h
    cases h
    rw [List.forall_mem_singleton]
    exact isConfined_missing token hnone
  · rw [htarget] at h
    exact isConfined_targetsAt hfiles (encloses_of_destination hw htarget) h

/-- Every target of a payload lies strictly inside the root folder of the document, and so does
every place that is offered for creation. -/
theorem targets_isConfined {cwd : Text} (hcwd : isAbsolute cwd = true) (folders : List Text)
    {files : Storage.FileSystem} (hfiles : ListsNames files) (document payload : Text)
    (expandFolders : Bool) {ts : List Target}
    (h : targets (Workspace.ofFolders cwd folders files) document payload expandFolders = .ok ts) :
    ∀ t ∈ ts, t.IsConfined (Workspace.ofFolders cwd folders files) document := by
  have hw := Workspace.isPlain_ofFolders hcwd folders files
  rw [targets_eq] at h
  split at h
  · cases h
    rw [List.forall_mem_singleton]
    exact isConfined_missing [] ⟨rfl, rfl⟩
  · obtain ⟨found, hfound, h⟩ := Traverse.bind_eq_ok.mp h
    cases h
    intro t ht
    obtain ⟨ts, hts, ht⟩ := List.mem_flatten.mp ht
    obtain ⟨token, -, htoken⟩ := (Traverse.mem_of_mapM_eq_ok hfound ts).mp hts
    exact isConfined_targetsOfToken hw hfiles htoken t ht

theorem listsNames_ofStages {stages : List (Text × Storage.Stage)}
    (h : ∀ s ∈ stages, ∀ entries, s.2.list = some (.ok entries) → ∀ e ∈ entries, IsName e.1) :
    ListsNames (Storage.FileSystem.ofStages stages) := by
  intro p entries hlist e he
  dsimp only [Storage.FileSystem.ofStages] at hlist
  split at hlist
  · rename_i answer _ _ hlookup
    refine h _ (ByPath.mem_of_find? hlookup) entries ?_ e he
    rw [← hlist]
  · cases hlist

/-- A folder with a file in it, and nothing else. -/
def sampleTree : Storage.FileSystem :=
  .ofStages [("/ws/src".toList, {
    probe := some (.ok { isFolder := true, size := 0 })
    list := some (.ok [("b.py".toList, true)]) })]

theorem targets_isConfined_sampleTree :
    isAbsolute ['/'] = true ∧ ListsNames sampleTree ∧
      targets (Workspace.ofFolders ['/'] ["/ws".toList] sampleTree) "/ws/docs/a.md".toList
        "../src, ./new.md, ../../secret".toList true =
        .ok [.found "../src".toList "/ws/src/b.py".toList false true .whole,
          .missing "./new.md".toList (.notFound "./new.md".toList "/ws/docs/new.md".toList),
          .missing "../../secret".toList .outside] ∧
      (Target.found "../src".toList "/ws/src/b.py".toList false true .whole).IsConfined
        (Workspace.ofFolders ['/'] ["/ws".toList] sampleTree) "/ws/docs/a.md".toList := by
  have hlists : ListsNames sampleTree := by
    apply listsNames_ofStages
    intro s hs entries hlist e he
    rw [List.mem_singleton] at hs
    subst hs
    cases hlist
    rw [List.mem_singleton] at he
    subst he
    exact ⟨by decide, by decide, by decide, by decide⟩
  have htargets : targets (Workspace.ofFolders ['/'] ["/ws".toList] sampleTree)
      "/ws/docs/a.md".toList "../src, ./new.md, ../../secret".toList true =
      .ok [.found "../src".toList "/ws/src/b.py".toList false true .whole,
        .missing "./new.md".toList (.notFound "./new.md".toList "/ws/docs/new.md".toList),
        .missing "../../secret".toList .outside] := by
    decide
  exact ⟨by decide, hlists, htargets,
    targets_isConfined (by decide) _ hlists _ _ _ htargets _ List.mem_cons_self⟩

/-! ## Nothing outside the sandbox is looked at -/

theorem probe_congr {files files' : Storage.FileSystem} {p : Text}
    (h : files.probe p = files'.probe p) : probe files p = probe files' p := by
  unfold probe
  rw [h]

theorem expand_congr {w w' : Workspace} {token folder : Text} {place : Place}
    (h : w.files.list folder = w'.files.list folder) :
    expand w token folder place = expand w' token folder place := by
  unfold expand
  rw [h]

theorem targetsAt_congr {w w' : Workspace} {target : Text}
    (hprobe : w.files.probe target = w'.files.probe target)
    (hlist : w.files.list target = w'.files.list target) (expandFolders : Bool) (token : Text)
    (r : Reference) :
    targetsAt w expandFolders token r target = targetsAt w' expandFolders token r target := by
  unfold targetsAt
  rw [probe_congr hprobe, expand_congr hlist]

section Agreement

variable {cwd : Text} (hcwd : isAbsolute cwd = true) (folders : List Text)
  (files files' : Storage.FileSystem) (document : Text)
  (h : ∀ root, (Workspace.ofFolders cwd folders files).folderFor? document = some root →
    ∀ p, IsInside root p → files.probe p = files'.probe p ∧ files.list p = files'.list p)

include hcwd h

theorem targetsOfToken_congr (expandFolders : Bool) (token : Text) :
    targetsOfToken (Workspace.ofFolders cwd folders files) document expandFolders token =
      targetsOfToken (Workspace.ofFolders cwd folders files') document expandFolders token := by
  have hw := Workspace.isPlain_ofFolders hcwd folders files
  rw [targetsOfToken_eq, targetsOfToken_eq]
  congr 1
  funext r
  -- the folders alone decide on the destination
  rw [show destination (Workspace.ofFolders cwd folders files') document r.path =
    destination (Workspace.ofFolders cwd folders files) document r.path from rfl]
  cases hd : destination (Workspace.ofFolders cwd folders files) document r.path with
  | error o => rfl
  | ok target =>
    obtain ⟨root, hroot, hin⟩ := encloses_of_destination hw hd
    obtain ⟨hprobe, hlist⟩ := h root hroot target hin
    exact targetsAt_congr hprobe hlist expandFolders token r

end Agreement

/-- Two file systems that answer alike strictly inside the root folder of the document give the same
targets. What they say about any other place plays no part, and without a root folder nothing does.
-/
theorem targets_eq_of_agree {cwd : Text} (hcwd : isAbsolute cwd = true) (folders : List Text)
    (files files' : Storage.FileSystem) (document payload : Text) (expandFolders : Bool)
    (h : ∀ root, (Workspace.ofFolders cwd folders files).folderFor? document = some root →
      ∀ p, IsInside root p → files.probe p = files'.probe p ∧ files.list p = files'.list p) :
    targets (Workspace.ofFolders cwd folders files) document payload expandFolders =
      targets (Workspace.ofFolders cwd folders files') document payload expandFolders := by
  rw [targets_eq, targets_eq]
  rw [Traverse.mapM_congr fun token _ =>
    targetsOfToken_congr hcwd folders files files' document h expandFolders token]

/-- The sample tree with a file beside its root folder. -/
def sampleTreeWithSecret : Storage.FileSystem :=
  .ofStages [("/secret".toList, { probe := some (.ok { isFolder := false, size := 1 }) }),
    ("/ws/src".toList, {
      probe := some (.ok { isFolder := true, size := 0 })
      list := some (.ok [("b.py".toList, true)]) })]

theorem ofStages_cons_of_ne {p q : Text} (hne : p ≠ q) (stage : Storage.Stage)
    (stages : List (Text × Storage.Stage)) :
    (Storage.FileSystem.ofStages ((q, stage) :: stages)).probe p =
        (Storage.FileSystem.ofStages stages).probe p ∧
      (Storage.FileSystem.ofStages ((q, stage) :: stages)).list p =
        (Storage.FileSystem.ofStages stages).list p := by
  have hb : (p == q) = false := by simpa using hne
  dsimp only [Storage.FileSystem.ofStages]
  rw [List.lookup_cons, hb]
  exact ⟨rfl, rfl⟩

theorem targets_eq_of_agree_secret :
    isAbsolute ['/'] = true ∧
      (∀ root, (Workspace.ofFolders ['/'] ["/ws".toList] sampleTreeWithSecret).folderFor?
          "/ws/docs/a.md".toList = some root →
        ∀ p, IsInside root p → sampleTreeWithSecret.probe p = sampleTree.probe p ∧
          sampleTreeWithSecret.list p = sampleTree.list p) ∧
      sampleTreeWithSecret.probe "/secret".toList ≠ sampleTree.probe "/secret".toList ∧
      targets (Workspace.ofFolders ['/'] ["/ws".toList] sampleTreeWithSecret)
          "/ws/docs/a.md".toList "../../secret ../src".toList true =
        targets (Workspace.ofFolders ['/'] ["/ws".toList] sampleTree)
          "/ws/docs/a.md".toList "../../secret ../src".toList true := by
  have hagree : ∀ root, (Workspace.ofFolders ['/'] ["/ws".toList]
        sampleTreeWithSecret).folderFor? "/ws/docs/a.md".toList = some root →
      ∀ p, IsInside root p → sampleTreeWithSecret.probe p = sampleTree.probe p ∧
        sampleTreeWithSecret.list p = sampleTree.list p := by
    intro root hroot p hin
    have hws : (Workspace.ofFolders ['/'] ["/ws".toList] sampleTreeWithSecret).folderFor?
        "/ws/docs/a.md".toList = some "/ws".toList := by decide
    rw [hws] at hroot
    cases hroot
    apply ofStages_cons_of_ne
    rintro rfl
    exact absurd hin.extending (by decide)
  exact ⟨by decide, hagree, by decide,
    targets_eq_of_agree (by decide) _ _ _ _ _ _ hagree⟩

end TagLint.Reference
