import TagLint.Proofs.Path.Below
import TagLint.Proofs.Workspace.Folders
import TagLint.Storage.Staged
/-!
The innermost root folder around a document. A folder is around a path if its names are the first
names of the path, and of the folders around a path the innermost one has the most names. The search
compares texts: what a folder and the path have in common is written with one slash in front, and
the longest folder written like that is taken. Among folders with one slash in front this is the
innermost one; a folder with two slashes in front is never found, so the search passes the innermost
folder over exactly if such a folder is further inside than all others.
-/

namespace TagLint.Workspace

open TagLint.Path

/-- The names of the folder are the first names of the path. -/
def IsAround (folder path : Text) : Prop := components folder <+: components path

/-- None of the folders is around the path, or the one given is, and none that is has more names. -/
def IsInnermost (folders : List Text) (path : Text) : Option Text → Prop
  | none => ∀ f ∈ folders, ¬ IsAround f path
  | some r => (r ∈ folders ∧ IsAround r path) ∧
      ∀ f ∈ folders, IsAround f path → (components f).length ≤ (components r).length

/-- A folder with two slashes in front is around the path and further inside than all that have one.
-/
def PassesOver (folders : List Text) (path : Text) : Prop :=
  ∃ f ∈ folders, rootSlashes f = 2 ∧ IsAround f path ∧
    ∀ g ∈ folders, rootSlashes g = 1 → IsAround g path →
      (components g).length < (components f).length

/-! ## The longest text -/

/-- Of a text and those that follow the longest is taken. -/
theorem exists_foldl_longer_eq (b : Text) (fs : List Text) :
    ∃ r, fs.foldl longer (some b) = some r ∧ b.length ≤ r.length ∧
      ∀ f ∈ fs, f.length ≤ r.length := by
  induction fs generalizing b with
  | nil => exact ⟨b, rfl, Nat.le_refl _, nofun⟩
  | cons f fs ih =>
    rw [List.foldl_cons, longer]
    by_cases hlt : b.length < f.length
    · obtain ⟨r, hr, hf, hfs⟩ := ih f
      rw [if_pos hlt]
      exact ⟨r, hr, by omega, List.forall_mem_cons.mpr ⟨hf, hfs⟩⟩
    · obtain ⟨r, hr, hb, hfs⟩ := ih b
      rw [if_neg hlt]
      exact ⟨r, hr, hb, List.forall_mem_cons.mpr ⟨by omega, hfs⟩⟩

variable {folders : List Text} {path : Text}

theorem contains_eq_false_of_innermost?_eq_none (h : innermost? folders path = none) :
    ∀ f ∈ folders, contains f path = false := by
  unfold innermost? at h
  cases hfound : folders.filter (contains · path) with
  | nil =>
    intro f hf
    have hnone := List.filter_eq_nil_iff.mp hfound f hf
    rwa [Bool.not_eq_true] at hnone
  | cons g gs =>
    obtain ⟨r, hr, -⟩ := exists_foldl_longer_eq g gs
    rw [hfound, List.foldl_cons, longer, hr] at h
    cases h

theorem length_le_of_innermost?_eq_some {r : Text} (h : innermost? folders path = some r) :
    ∀ f ∈ folders, contains f path = true → f.length ≤ r.length := by
  intro f hf hcontains
  have hmem : f ∈ folders.filter (contains · path) := List.mem_filter.mpr ⟨hf, hcontains⟩
  unfold innermost? at h
  cases hfound : folders.filter (contains · path) with
  | nil =>
    rw [hfound] at hmem
    cases hmem
  | cons g gs =>
    obtain ⟨longest, hlongest, hg, hgs⟩ := exists_foldl_longer_eq g gs
    rw [hfound, List.foldl_cons, longer, hlongest] at h
    have hr : longest = r := Option.some.inj h
    have hall : ∀ f ∈ g :: gs, f.length ≤ longest.length := List.forall_mem_cons.mpr ⟨hg, hgs⟩
    rw [hfound] at hmem
    rw [← hr]
    exact hall f hmem

/-! ## Folders with one slash in front -/

theorem common_eq {folder : Text} (hfolder : Path.IsPlain folder) (hpath : Path.IsPlain path) :
    common folder path = render 1 (commonStart (components folder) (components path)) := by
  have hnamed : ∀ p, Path.IsPlain p → (components p).filter (· != here) = components p := by
    intro p hp
    rw [List.filter_eq_self]
    intro s hs
    simpa using (hp.names s hs).ne_here
  unfold common
  dsimp only
  rw [hnamed folder hfolder, hnamed path hpath, render_one]

/-- The search takes a folder to be around a path if it is and has one slash in front. -/
theorem contains_iff {folder : Text} (hfolder : IsNormal folder) (hpath : Path.IsPlain path) :
    contains folder path = true ↔ rootSlashes folder = 1 ∧ IsAround folder path := by
  have hnames : ∀ s ∈ commonStart (components folder) (components path), IsName s := by
    intro s hs
    exact hfolder.plain.names s ((commonStart_sublist_left _ _).subset hs)
  unfold contains IsAround
  rw [beq_iff_eq, common_eq hfolder.plain hpath]
  constructor
  · intro heq
    have hslashes := rootSlashes_render (Or.inl rfl) hnames
    have hcomponents := components_render Nat.one_pos hnames
    rw [heq] at hslashes hcomponents
    refine ⟨hslashes, ?_⟩
    rw [hcomponents]
    exact commonStart_isPrefix_right _ _
  · rintro ⟨hslashes, rest, hrest⟩
    have hfolder := hfolder.eq_render
    rw [hslashes] at hfolder
    rw [← hrest, commonStart_append, ← hfolder]

/-- Of two folders around a path with one slash in front the longer text has more names. -/
theorem length_components_le {f g : Text} (hf : IsNormal f) (hg : IsNormal g)
    (hfslashes : rootSlashes f = 1) (hgslashes : rootSlashes g = 1) (hfaround : IsAround f path)
    (hgaround : IsAround g path) (hle : f.length ≤ g.length) :
    (components f).length ≤ (components g).length := by
  by_contra hlt
  have hprefix : components g <+: components f :=
    List.prefix_of_prefix_length_le hgaround hfaround (by omega)
  have htexts : g <+: f := by
    obtain ⟨rest, hrest⟩ := hprefix
    rw [hf.eq_render, hg.eq_render, hfslashes, hgslashes, ← hrest]
    exact render_one_isPrefix _ _
  have hsame : g = f := htexts.eq_of_length (Nat.le_antisymm htexts.length_le hle)
  rw [hsame] at hlt
  exact hlt (Nat.le_refl _)

/-- Of the folders with one slash in front the search finds the innermost one. -/
theorem isInnermost_single (hfolders : ∀ f ∈ folders, IsNormal f) (hpath : Path.IsPlain path) :
    IsInnermost (folders.filter (rootSlashes · == 1)) path (innermost? folders path) := by
  cases hfound : innermost? folders path with
  | none =>
    intro f hf haround
    rw [List.mem_filter, beq_iff_eq] at hf
    have hcontains := (contains_iff (hfolders f hf.1) hpath).mpr ⟨hf.2, haround⟩
    rw [contains_eq_false_of_innermost?_eq_none hfound f hf.1] at hcontains
    cases hcontains
  | some r =>
    obtain ⟨hr, hcontains⟩ := mem_of_innermost?_eq_some hfound
    obtain ⟨hslashes, haround⟩ := (contains_iff (hfolders r hr) hpath).mp hcontains
    refine ⟨⟨List.mem_filter.mpr ⟨hr, beq_iff_eq.mpr hslashes⟩, haround⟩, ?_⟩
    intro f hf hfaround
    rw [List.mem_filter, beq_iff_eq] at hf
    have hfcontains := (contains_iff (hfolders f hf.1) hpath).mpr ⟨hf.2, hfaround⟩
    have hle := length_le_of_innermost?_eq_some hfound f hf.1 hfcontains
    exact length_components_le (hfolders f hf.1) (hfolders r hr) hf.2 hslashes hfaround haround hle

/-! ## All folders -/

theorem IsInnermost.congr {others : List Text} {found : Option Text}
    (hsame : ∀ f, f ∈ others ↔ f ∈ folders) (h : IsInnermost others path found) :
    IsInnermost folders path found := by
  cases found with
  | none =>
    intro f hf
    exact h f ((hsame f).mpr hf)
  | some r =>
    obtain ⟨⟨hr, haround⟩, hmax⟩ := h
    refine ⟨⟨(hsame r).mp hr, haround⟩, ?_⟩
    intro f hf hfaround
    exact hmax f ((hsame f).mpr hf) hfaround

/-- Among folders with one slash in front there is only one innermost one. -/
theorem IsInnermost.unique {found other : Option Text}
    (hfolders : ∀ f ∈ folders, IsNormal f ∧ rootSlashes f = 1)
    (hfound : IsInnermost folders path found) (hother : IsInnermost folders path other) :
    found = other := by
  cases found with
  | none =>
    cases other with
    | none => rfl
    | some s => exact absurd hother.1.2 (hfound s hother.1.1)
  | some r =>
    cases other with
    | none => exact absurd hfound.1.2 (hother r hfound.1.1)
    | some s =>
      obtain ⟨⟨hr, hraround⟩, hrmax⟩ := hfound
      obtain ⟨⟨hs, hsaround⟩, hsmax⟩ := hother
      have hlength : (components r).length = (components s).length :=
        Nat.le_antisymm (hsmax r hr hraround) (hrmax s hs hsaround)
      have hprefix : components r <+: components s :=
        List.prefix_of_prefix_length_le hraround hsaround (Nat.le_of_eq hlength)
      have hcomponents : components r = components s := hprefix.eq_of_length hlength
      have hslashes : rootSlashes r = rootSlashes s := by
        rw [(hfolders r hr).2, (hfolders s hs).2]
      have htexts : r = s := by
        rw [(hfolders r hr).1.eq_render, (hfolders s hs).1.eq_render, hslashes, hcomponents]
      rw [htexts]

/-- The search finds the innermost folder exactly if it passes none over. -/
theorem isInnermost_iff (hfolders : ∀ f ∈ folders, IsNormal f) (hpath : Path.IsPlain path) :
    IsInnermost folders path (innermost? folders path) ↔ ¬ PassesOver folders path := by
  have hsingle := isInnermost_single hfolders hpath
  have hmem : ∀ f, f ∈ folders.filter (rootSlashes · == 1) ↔ f ∈ folders ∧ rootSlashes f = 1 := by
    intro f
    rw [List.mem_filter, beq_iff_eq]
  cases hfound : innermost? folders path with
  | none =>
    rw [hfound] at hsingle
    constructor
    · rintro hnone ⟨f, hf, -, haround, -⟩
      exact hnone f hf haround
    · intro hpasses f hf haround
      rcases rootSlashes_cases (hfolders f hf).plain.absolute with hone | htwo
      · exact hsingle f ((hmem f).mpr ⟨hf, hone⟩) haround
      · refine hpasses ⟨f, hf, htwo, haround, fun g hg hone hgaround => ?_⟩
        exact absurd hgaround (hsingle g ((hmem g).mpr ⟨hg, hone⟩))
  | some r =>
    rw [hfound] at hsingle
    obtain ⟨⟨hr, haround⟩, hmax⟩ := hsingle
    rw [hmem] at hr
    constructor
    · rintro ⟨-, hall⟩ ⟨f, hf, -, hfaround, hfurther⟩
      have hle := hall f hf hfaround
      have hlt := hfurther r hr.1 hr.2 haround
      omega
    · intro hpasses
      refine ⟨⟨hr.1, haround⟩, fun f hf hfaround => ?_⟩
      rcases rootSlashes_cases (hfolders f hf).plain.absolute with hone | htwo
      · exact hmax f ((hmem f).mpr ⟨hf, hone⟩) hfaround
      · by_contra hlt
        refine hpasses ⟨f, hf, htwo, hfaround, fun g hg hgone hgaround => ?_⟩
        have hle := hmax g ((hmem g).mpr ⟨hg, hgone⟩) hgaround
        omega

/-- What is found depends on which folders there are, not on their order or on repetitions. -/
theorem innermost?_eq_of_mem_iff {others : List Text} (hfolders : ∀ f ∈ folders, IsNormal f)
    (hpath : Path.IsPlain path) (hsame : ∀ f, f ∈ others ↔ f ∈ folders) :
    innermost? others path = innermost? folders path := by
  have hothers : ∀ f ∈ others, IsNormal f := fun f hf => hfolders f ((hsame f).mp hf)
  have hsingles : ∀ f, f ∈ others.filter (rootSlashes · == 1) ↔
      f ∈ folders.filter (rootSlashes · == 1) := by
    intro f
    rw [List.mem_filter, List.mem_filter, hsame]
  have hnormal : ∀ f ∈ folders.filter (rootSlashes · == 1), IsNormal f ∧ rootSlashes f = 1 := by
    intro f hf
    rw [List.mem_filter, beq_iff_eq] at hf
    exact ⟨hfolders f hf.1, hf.2⟩
  have hfound := isInnermost_single hfolders hpath
  have hother := (isInnermost_single hothers hpath).congr hsingles
  exact hother.unique hnormal hfound

/-- The folder found for a document is the innermost one around it exactly if none that has two
slashes in front is passed over; without these it always is; and the folders may be given in any
order and repeated. -/
theorem isInnermost_folderFor?_iff {cwd : Text} (hcwd : isAbsolute cwd = true)
    (folders : List Text) (files : Storage.FileSystem) (document : Text) :
    (IsInnermost (folders.map (absolute cwd)) (absolute cwd document)
        ((ofFolders cwd folders files).folderFor? document) ↔
      ¬ PassesOver (folders.map (absolute cwd)) (absolute cwd document)) ∧
    IsInnermost ((folders.map (absolute cwd)).filter (rootSlashes · == 1)) (absolute cwd document)
      ((ofFolders cwd folders files).folderFor? document) ∧
    ∀ others, (∀ f, f ∈ others ↔ f ∈ folders) →
      (ofFolders cwd others files).folderFor? document =
        (ofFolders cwd folders files).folderFor? document := by
  have hpath : Path.IsPlain (absolute cwd document) := isPlain_absolute hcwd document
  have hfolders : ∀ f ∈ folders.map (absolute cwd), IsNormal f := by
    intro f hf
    obtain ⟨g, -, rfl⟩ := List.mem_map.mp hf
    exact isNormal_absolute hcwd g
  refine ⟨isInnermost_iff hfolders hpath, isInnermost_single hfolders hpath, ?_⟩
  intro others hsame
  have hmapped : ∀ f, f ∈ others.map (absolute cwd) ↔ f ∈ folders.map (absolute cwd) := by
    intro f
    rw [List.mem_map, List.mem_map]
    simp only [hsame]
  exact innermost?_eq_of_mem_iff hfolders hpath hmapped

/-- Of a folder, one inside it and one whose name only begins like it, the one inside is found. -/
theorem isInnermost_folderFor?_iff_sample :
    isAbsolute ['/'] = true ∧
    IsInnermost ["/a".toList, "/a/b".toList, "/ab".toList] "/a/b/c.py".toList
      (some "/a/b".toList) := by
  have hcwd : isAbsolute ['/'] = true := rfl
  have hiff := (isInnermost_folderFor?_iff hcwd ["/a".toList, "/a/b".toList, "/ab".toList]
    (.ofStages []) "/a/b/c.py".toList).1
  have hnone : ¬ PassesOver (["/a".toList, "/a/b".toList, "/ab".toList].map (absolute ['/']))
      (absolute ['/'] "/a/b/c.py".toList) := by
    rintro ⟨f, hf, htwo, -⟩
    have hsingle : ∀ f ∈ ["/a".toList, "/a/b".toList, "/ab".toList].map (absolute ['/']),
        rootSlashes f = 1 := by decide
    rw [hsingle f hf] at htwo
    cases htwo
  exact ⟨hcwd, hiff.mpr hnone⟩

/-- A folder with two slashes in front is not found for a document inside it. -/
theorem not_isInnermost_doubleSlash :
    (ofFolders ['/'] ["//ws".toList] (.ofStages [])).folderFor? "//ws/a.md".toList = none ∧
    (ofFolders ['/'] ["//ws".toList] (.ofStages [])).folders = ["//ws".toList] ∧
    absolute ['/'] "//ws/a.md".toList = "//ws/a.md".toList ∧
    ¬ IsInnermost ["//ws".toList] "//ws/a.md".toList none := by
  refine ⟨by decide, by decide, by decide, ?_⟩
  intro hnone
  have haround : components "//ws".toList <+: components "//ws/a.md".toList := by decide
  exact hnone _ List.mem_cons_self haround

end TagLint.Workspace
