import TagLint.Proofs.Path.Below
import TagLint.Proofs.Reference.Containment
/-!
Two spellings of one path. A path that is written from the document's folder leads where the path
leads that is written from the root folder, through the names of the document's folder. The answers
are the same but for the path that they quote, on every file system, and however the path climbs
(`locate_spelledAlike`).
-/

namespace TagLint.Reference

open TagLint.Path

/-- Answers about the paths `p` and `q` that differ only in which of the two is quoted. -/
inductive SpelledAlike (p q : Text) :
    Except Failure (Except Obstacle (Text × Bool)) →
      Except Failure (Except Obstacle (Text × Bool)) → Prop
  | same (answer : Except Failure (Except Obstacle (Text × Bool))) : SpelledAlike p q answer answer
  | notFound (candidate : Text) (hcreation : allowsCreation p = allowsCreation q) :
      SpelledAlike p q (.ok (.error (.notFound p candidate)))
        (.ok (.error (.notFound q candidate)))

/-! ## Paths from the document's folder and from the root -/

theorem isDocumentRelative_here (t : Text) : isDocumentRelative ("./".toList ++ t) = true := by
  simp [isDocumentRelative]

/-- A path that starts with a name is read in the root, unless the name begins with one or two dots
and a backslash. -/
theorem isDocumentRelative_eq_false {name : Text} (hname : IsName name)
    (hone : ¬ ".\\".toList <+: name) (htwo : ¬ "..\\".toList <+: name) (t : Text) :
    isDocumentRelative (name ++ '/' :: t) = false := by
  have hhere := hname.ne_here
  have hup := hname.ne_up
  have hslash := hname.no_slash
  suffices h : ∀ s ∈ ["./", "../", ".\\", "..\\"], ¬ s.toList <+: name ++ '/' :: t by
    unfold isDocumentRelative
    rw [List.any_eq_false]
    exact fun s hs hprefix => h s hs (List.isPrefixOf_iff_prefix.mp hprefix)
  -- No marker is longer than three characters, so the first three of the name decide.
  match name with
  | [] => exact absurd rfl hname.ne_nil
  | [c] =>
    have hc : '.' ≠ c := fun e => hhere (by rw [← e]; rfl)
    simp [hc]
  | [c, d] =>
    obtain rfl | hdot := eq_or_ne '.' c
    · have hd : '.' ≠ d := fun e => hup (by rw [← e]; rfl)
      simp_all
    · simp [hdot]
  | c :: d :: e :: r =>
    obtain rfl | hdot := eq_or_ne '.' c
    · obtain rfl | hdots := eq_or_ne '.' d <;> simp_all
    · simp [hdot]

theorem exists_joinWith_append_eq (s : Text) (ss : List Text) (t : Text) :
    ∃ r, Text.joinWith ['/'] (s :: ss) ++ '/' :: t = s ++ '/' :: r := by
  cases ss with
  | nil => exact ⟨t, rfl⟩
  | cons s' ss =>
    refine ⟨Text.joinWith ['/'] (s' :: ss) ++ '/' :: t, ?_⟩
    rw [Text.joinWith_cons_cons, List.append_assoc, List.append_assoc, List.singleton_append]

theorem isAbsolute_joinWith_append {s : Text} (hs : IsName s) (ss : List Text) (t : Text) :
    isAbsolute (Text.joinWith ['/'] (s :: ss) ++ '/' :: t) = false := by
  obtain ⟨r, hr⟩ := exists_joinWith_append_eq s ss t
  obtain ⟨c, s, rfl⟩ := List.exists_cons_of_ne_nil hs.ne_nil
  have hc : c ≠ '/' := fun e => hs.no_slash (e ▸ List.mem_cons_self)
  rw [hr]
  simpa [isAbsolute] using hc

/-- The walk along a path from the document's folder, less the segment that stays. -/
theorem walkFrom_segments_here (folder : List Text) (t : Text) :
    walkFrom folder (segments ("./".toList ++ t)) = walkFrom folder (segments t) := by
  have hsegments : segments (here ++ '/' :: t) = here :: segments t :=
    Text.splitAtEach_append_cut (by decide) here t
  rw [show "./".toList ++ t = here ++ '/' :: t from rfl, hsegments, walkFrom,
    if_pos (Or.inr rfl)]

theorem allowsCreation_append_slash (s t : Text) :
    allowsCreation (s ++ '/' :: t) = allowsCreation ('/' :: t) := by
  unfold allowsCreation
  rw [List.getLast?_append_of_ne_nil _ (List.cons_ne_nil _ t)]

/-! ## Places and answers -/

/-- What two paths lead to whose place is the same. -/
theorem spelledAlike_of_place?_eq {w : Workspace} {document root p q : Text}
    (hroot : w.folderFor? document = some root) (hp : p ≠ []) (hq : q ≠ [])
    (hprel : isAbsolute p = false) (hqrel : isAbsolute q = false)
    (hcreation : allowsCreation p = allowsCreation q)
    (hplace : place? w document root p = place? w document root q) :
    SpelledAlike p q (locate w document p) (locate w document q) := by
  have hdestination : destination w document p = destination w document q := by
    unfold destination
    rw [if_neg (by simpa using hp), if_neg (by simp [hprel]), if_neg (by simpa using hq),
      if_neg (by simp [hqrel]), hroot]
    dsimp only
    rw [hplace]
  rw [locate_eq, locate_eq, hdestination]
  cases destination w document q with
  | error o => exact .same _
  | ok target =>
    dsimp only
    cases probe w.files target with
    | error failure => exact .same _
    | ok found =>
      cases found with
      | none => exact .notFound target hcreation
      | some found => exact .same _

/-- The two spellings have one place: from the document's folder, and from the root through the
names of the document's folder. -/
theorem place?_spelledAlike {w : Workspace} {document first : Text} {ss names : List Text}
    (hss : ∀ s ∈ ss, IsName s) (hnames : ∀ s ∈ first :: names, IsName s)
    (hone : ¬ ".\\".toList <+: first) (htwo : ¬ "..\\".toList <+: first)
    (hbase : parent (absolute w.cwd document) = render 1 (ss ++ first :: names)) (x : Text) :
    place? w document (render 1 ss) ("./".toList ++ x) =
      place? w document (render 1 ss) (Text.joinWith ['/'] (first :: names) ++ '/' :: x) := by
  have hfirst := hnames first List.mem_cons_self
  obtain ⟨t, ht⟩ := exists_joinWith_append_eq first names x
  have hfromHere : normalize (join (render 1 (ss ++ first :: names)) ("./".toList ++ x)) =
      render 1 (walkFrom (ss ++ first :: names) (segments x)) := by
    rw [normalize_join_render_one (List.forall_mem_append.mpr ⟨hss, hnames⟩) rfl,
      walkFrom_segments_here]
  have hfromRoot : normalize (join (render 1 ss)
      (Text.joinWith ['/'] (first :: names) ++ '/' :: x)) =
      render 1 (walkFrom (ss ++ first :: names) (segments x)) := by
    rw [normalize_join_render_one hss (isAbsolute_joinWith_append hfirst names x),
      segments_joinWith_append hnames (List.cons_ne_nil first names), walkFrom_append hnames]
  unfold place?
  rw [isDocumentRelative_here, ht, isDocumentRelative_eq_false hfirst hone htwo, ← ht, hbase]
  dsimp only
  rw [if_pos rfl, if_neg Bool.false_ne_true, hfromHere, hfromRoot]

/-- A document in a folder below its root folder, whose first name on the way down is not taken for
a way from the document's folder. A path written from the document's folder, and the same path
written from the root through the names of the document's folder, have the same answer but for the
path quoted. -/
theorem locate_spelledAlike {cwd : Text} (hcwd : isAbsolute cwd = true) (folders : List Text)
    (files : Storage.FileSystem) {document root first file : Text} {names : List Text}
    (hroot : (Workspace.ofFolders cwd folders files).folderFor? document = some root)
    (hsingle : rootSlashes root = 1) (hnames : ∀ s ∈ first :: names, IsName s)
    (hone : ¬ ".\\".toList <+: first) (htwo : ¬ "..\\".toList <+: first) (hfile : IsName file)
    (hdocument : absolute cwd document =
      join root (Text.joinWith ['/'] (first :: names ++ [file]))) (x : Text) :
    SpelledAlike ("./".toList ++ x) (Text.joinWith ['/'] (first :: names) ++ '/' :: x)
      (locate (Workspace.ofFolders cwd folders files) document ("./".toList ++ x))
      (locate (Workspace.ofFolders cwd folders files) document
        (Text.joinWith ['/'] (first :: names) ++ '/' :: x)) := by
  have hmem := (Workspace.mem_of_innermost?_eq_some hroot).1
  obtain ⟨folder, -, hfolder⟩ := List.mem_map.mp hmem
  have hnormal : IsNormal root := hfolder ▸ isNormal_absolute hcwd folder
  have hss := hnormal.plain.names
  have hrender : root = render 1 (components root) := by
    conv_lhs => rw [hnormal.eq_render, hsingle]
  have hbase : parent (absolute cwd document) = render 1 (components root ++ first :: names) := by
    have hmore : ∀ s ∈ first :: names ++ [file], IsName s :=
      List.forall_mem_append.mpr ⟨hnames, List.forall_mem_singleton.mpr hfile⟩
    have hne : first :: names ++ [file] ≠ [] := List.cons_ne_nil first (names ++ [file])
    have hway : absolute cwd document = render 1 (components root ++ first :: names ++ [file]) := by
      rw [hdocument, ← render_zero_of_ne_nil hmore hne]
      conv_lhs => rw [hrender]
      rw [join_render hss hmore hne, ← List.append_assoc]
    rw [hway, parent_render_one (List.forall_mem_append.mpr ⟨hss, hnames⟩) hfile]
  have hrelative := isAbsolute_joinWith_append (hnames first List.mem_cons_self) names x
  have hhere : isAbsolute ("./".toList ++ x) = false := rfl
  apply spelledAlike_of_place?_eq hroot (by simp) (by simp) hhere hrelative
  · rw [show "./".toList ++ x = here ++ '/' :: x from rfl, allowsCreation_append_slash,
      allowsCreation_append_slash]
  · have hplace := place?_spelledAlike (w := Workspace.ofFolders cwd folders files) hss hnames
      hone htwo hbase x
    rw [← hrender] at hplace
    exact hplace

/-- A way up from the document's folder and down again, in both spellings. -/
theorem locate_spelledAlike_sampleTree :
    isAbsolute ['/'] = true ∧
      (Workspace.ofFolders ['/'] ["/ws".toList] sampleTree).folderFor? "/ws/docs/a.md".toList =
        some "/ws".toList ∧
      rootSlashes "/ws".toList = 1 ∧ (∀ s ∈ ["docs".toList], IsName s) ∧
      ¬ ".\\".toList <+: "docs".toList ∧ ¬ "..\\".toList <+: "docs".toList ∧
      IsName "a.md".toList ∧
      absolute ['/'] "/ws/docs/a.md".toList =
        join "/ws".toList (Text.joinWith ['/'] (["docs".toList] ++ ["a.md".toList])) ∧
      locate (Workspace.ofFolders ['/'] ["/ws".toList] sampleTree) "/ws/docs/a.md".toList
        "./../src".toList = .ok (.ok ("/ws/src".toList, true)) ∧
      SpelledAlike "./../src".toList "docs/../src".toList
        (locate (Workspace.ofFolders ['/'] ["/ws".toList] sampleTree) "/ws/docs/a.md".toList
          "./../src".toList)
        (locate (Workspace.ofFolders ['/'] ["/ws".toList] sampleTree) "/ws/docs/a.md".toList
          "docs/../src".toList) := by
  have hcwd : isAbsolute ['/'] = true := rfl
  have hroot : (Workspace.ofFolders ['/'] ["/ws".toList] sampleTree).folderFor?
      "/ws/docs/a.md".toList = some "/ws".toList := by decide
  have hnames : ∀ s ∈ ["docs".toList], IsName s :=
    List.forall_mem_singleton.mpr ⟨by decide, by decide, by decide, by decide⟩
  have hfile : IsName "a.md".toList := ⟨by decide, by decide, by decide, by decide⟩
  have hone : ¬ ".\\".toList <+: "docs".toList := by decide
  have htwo : ¬ "..\\".toList <+: "docs".toList := by decide
  have hdocument : absolute ['/'] "/ws/docs/a.md".toList =
      join "/ws".toList (Text.joinWith ['/'] (["docs".toList] ++ ["a.md".toList])) := by decide
  exact ⟨hcwd, hroot, rfl, hnames, hone, htwo, hfile, hdocument, by decide,
    locate_spelledAlike hcwd _ _ hroot rfl hnames hone htwo hfile hdocument "../src".toList⟩

end TagLint.Reference
