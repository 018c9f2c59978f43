import TagLint.Proofs.Path.Inside
import TagLint.Proofs.Path.Walk
/-!
Paths that go down from the root by names, one slash in front. Normalising leaves such a path as it
is; joining a name to it goes one step further down; and the way to it from a folder above is what
has to be joined to that folder to come back to it. A normalised path is of this kind, or has two
slashes in front.
-/

namespace TagLint.Path

/-! ## The text of a path -/

theorem render_one (ss : List Text) : render 1 ss = '/' :: Text.joinWith ['/'] ss := rfl

theorem render_zero_of_ne_nil {ss : List Text} (hss : ∀ s ∈ ss, IsName s) (hne : ss ≠ []) :
    render 0 ss = Text.joinWith ['/'] ss := by
  obtain ⟨s, rest, rfl⟩ := List.exists_cons_of_ne_nil hne
  have hs : s ≠ [] := (hss s List.mem_cons_self).ne_nil
  unfold render
  rw [List.replicate_zero, List.nil_append]
  exact if_neg (by simpa using Text.joinWith_cons_ne_nil ['/'] hs rest)

theorem isPlain_render_one {ss : List Text} (h : ∀ s ∈ ss, IsName s) : IsPlain (render 1 ss) where
  absolute := rfl
  names := by
    rw [components_render Nat.one_pos h]
    exact h

/-- What stands after a slash does not begin with one. -/
theorem head?_joinWith_ne_slash {ss : List Text} (h : ∀ s ∈ ss, IsName s) :
    (Text.joinWith ['/'] ss).head? ≠ some '/' := by
  cases ss with
  | nil => simp [Text.joinWith]
  | cons s ss =>
    have hs := h s List.mem_cons_self
    rw [← render_zero_of_ne_nil h (List.cons_ne_nil s ss)]
    have hrel := (render_zero_of_isName hs ss).2.1
    unfold isAbsolute at hrel
    rw [beq_eq_false_iff_ne] at hrel
    exact hrel

theorem rootSlashes_of_single {r : Text} (h : r.head? ≠ some '/') : rootSlashes ('/' :: r) = 1 := by
  cases r with
  | nil => rfl
  | cons c r =>
    have hc : c ≠ '/' := by simpa using h
    unfold rootSlashes
    split <;> simp_all

/-! ## Normalising -/

/-- A path with one slash in front is normalised to one that goes down by names. -/
theorem exists_normalize_eq_render_one {r : Text} (h : r.head? ≠ some '/') :
    ∃ ss, (∀ s ∈ ss, IsName s) ∧ normalize ('/' :: r) = render 1 ss := by
  refine ⟨walk true (segments ('/' :: r)), ?_, ?_⟩
  · exact isName_of_mem_walk fun s hs => no_slash_of_mem_segments hs
  · rw [normalize_of_isAbsolute rfl, rootSlashes_of_single h]

theorem normalize_render_one {ss : List Text} (h : ∀ s ∈ ss, IsName s) :
    normalize (render 1 ss) = render 1 ss := by
  have hplain := isPlain_render_one h
  have hwalk := components_normalize hplain.absolute
  rw [components_normalize_of_isPlain hplain, components_render Nat.one_pos h] at hwalk
  rw [normalize_of_isAbsolute hplain.absolute, ← hwalk, render_one,
    rootSlashes_of_single (head?_joinWith_ne_slash h), render_one]

theorem absolute_render_one (cwd : Text) {ss : List Text} (h : ∀ s ∈ ss, IsName s) :
    absolute cwd (render 1 ss) = render 1 ss := by
  unfold absolute
  rw [if_pos (isPlain_render_one h).absolute, normalize_render_one h]

theorem rootSlashes_of_double {r : Text} (h : r.head? ≠ some '/') :
    rootSlashes ('/' :: '/' :: r) = 2 := by
  apply rootSlashes.eq_2
  rintro t rfl
  exact h rfl

theorem rootSlashes_cases {p : Text} (h : isAbsolute p = true) :
    rootSlashes p = 1 ∨ rootSlashes p = 2 := by
  obtain ⟨r, rfl⟩ := isAbsolute_iff.mp h
  by_cases hsingle : r.head? = some '/'
  · obtain ⟨r, rfl⟩ := List.head?_eq_some_iff.mp hsingle
    by_cases hdouble : r.head? = some '/'
    · obtain ⟨r, rfl⟩ := List.head?_eq_some_iff.mp hdouble
      exact Or.inl rfl
    · exact Or.inr (rootSlashes_of_double hdouble)
  · exact Or.inl (rootSlashes_of_single hsingle)

/-- A path that is told by how many slashes stand in front and by its names. -/
structure IsNormal (p : Text) : Prop where
  plain : IsPlain p
  eq_render : p = render (rootSlashes p) (components p)

theorem rootSlashes_render {n : Nat} (hn : n = 1 ∨ n = 2) {ss : List Text}
    (h : ∀ s ∈ ss, IsName s) : rootSlashes (render n ss) = n := by
  rcases hn with rfl | rfl
  · exact rootSlashes_of_single (head?_joinWith_ne_slash h)
  · exact rootSlashes_of_double (head?_joinWith_ne_slash h)

theorem isNormal_normalize {p : Text} (h : isAbsolute p = true) : IsNormal (normalize p) where
  plain := isPlain_normalize h
  eq_render := by
    have hnames := (isPlain_normalize h).names
    rw [components_normalize h] at hnames
    rw [components_normalize h, normalize_of_isAbsolute h,
      rootSlashes_render (rootSlashes_cases h) hnames]

theorem isNormal_absolute {cwd : Text} (hcwd : isAbsolute cwd = true) (p : Text) :
    IsNormal (absolute cwd p) := by
  unfold absolute
  apply isNormal_normalize
  split
  · assumption
  · exact isAbsolute_join hcwd p

/-! ## Going down -/

theorem getLast?_render_one {ss : List Text} (h : ∀ s ∈ ss, IsName s) (hne : ss ≠ []) :
    (render 1 ss).getLast? ≠ some '/' := by
  obtain ⟨s, rest, rfl⟩ := List.exists_cons_of_ne_nil hne
  have hs : s ≠ [] := (h s List.mem_cons_self).ne_nil
  rw [render_one, List.getLast?_cons_of_ne_nil (Text.joinWith_cons_ne_nil ['/'] hs rest)]
  exact Text.getLast?_joinWith_ne fun s hs => ⟨(h s hs).ne_nil, (h s hs).no_slash⟩

/-- Joining a way down to a path goes on by the names of the way. -/
theorem join_render {ss names : List Text} (hss : ∀ s ∈ ss, IsName s)
    (hnames : ∀ s ∈ names, IsName s) (hne : names ≠ []) :
    join (render 1 ss) (render 0 names) = render 1 (ss ++ names) := by
  obtain ⟨name, rest, rfl⟩ := List.exists_cons_of_ne_nil hne
  have hrel := (render_zero_of_isName (hnames name List.mem_cons_self) rest).2.1
  unfold join
  rw [hrel, if_neg Bool.false_ne_true, render_zero_of_ne_nil hnames hne]
  by_cases hnil : ss = []
  · subst hnil
    rfl
  · have hlast := getLast?_render_one hss hnil
    rw [if_neg (by simpa [render_one] using hlast), render_one, render_one,
      Text.joinWith_append ['/'] hnil hne, List.append_assoc, List.append_assoc, List.cons_append]

theorem join_render_one {ss : List Text} {name : Text} (hss : ∀ s ∈ ss, IsName s)
    (hname : IsName name) : join (render 1 ss) name = render 1 (ss ++ [name]) := by
  have hnames : ∀ s ∈ [name], IsName s := by simpa using hname
  rw [← join_render hss hnames (List.cons_ne_nil name []),
    render_zero_of_ne_nil hnames (List.cons_ne_nil name [])]
  rfl

theorem foldl_join_render_one {ss names : List Text} (hss : ∀ s ∈ ss, IsName s)
    (hnames : ∀ s ∈ names, IsName s) :
    names.foldl join (render 1 ss) = render 1 (ss ++ names) := by
  induction names generalizing ss with
  | nil => rw [List.append_nil, List.foldl_nil]
  | cons name names ih =>
    rw [List.forall_mem_cons] at hnames
    have hmore : ∀ s ∈ ss ++ [name], IsName s := by
      rw [List.forall_mem_append, List.forall_mem_singleton]
      exact ⟨hss, hnames.1⟩
    rw [List.foldl_cons, join_render_one hss hnames.1, ih hmore hnames.2, List.append_assoc,
      List.singleton_append]

theorem render_one_isPrefix (ss names : List Text) :
    render 1 ss <+: render 1 (ss ++ names) := by
  rw [render_one, render_one, List.cons_prefix_cons]
  refine ⟨rfl, ?_⟩
  by_cases hss : ss = []
  · subst hss
    exact List.nil_prefix
  by_cases hnames : names = []
  · simp [hnames]
  · rw [Text.joinWith_append ['/'] hss hnames, List.append_assoc]
    exact List.prefix_append _ _

/-- Joining a relative path to a path of names and normalising leads where the walk along its
segments ends. -/
theorem normalize_join_render_one {ss : List Text} {path : Text} (hss : ∀ s ∈ ss, IsName s)
    (hpath : isAbsolute path = false) :
    normalize (join (render 1 ss) path) = render 1 (walkFrom ss (segments path)) := by
  have hplain := isPlain_render_one hss
  have habsolute := isAbsolute_join hplain.absolute path
  have hslashes : rootSlashes (join (render 1 ss) path) = 1 := by
    have hrelative : path.head? ≠ some '/' := by simpa [isAbsolute] using hpath
    by_cases hnil : ss = []
    · subst hnil
      unfold join
      rw [hpath, if_neg Bool.false_ne_true]
      exact rootSlashes_of_single hrelative
    · obtain ⟨gap, hjoin⟩ := exists_join_eq (render 1 ss) hpath
      rw [hjoin, render_one, List.append_assoc, List.cons_append]
      apply rootSlashes_of_single
      obtain ⟨s, rest, rfl⟩ := List.exists_cons_of_ne_nil hnil
      rw [List.head?_append_of_ne_nil _
        (Text.joinWith_cons_ne_nil ['/'] (hss s List.mem_cons_self).ne_nil rest)]
      exact head?_joinWith_ne_slash hss
  have hwalk := components_normalize_join hplain hpath
  rw [components_normalize habsolute, components_render Nat.one_pos hss] at hwalk
  rw [normalize_of_isAbsolute habsolute, hslashes, hwalk]

/-- The parent of a path of names is one name shorter. -/
theorem parent_render_one {ss : List Text} {s : Text} (hss : ∀ s ∈ ss, IsName s)
    (hs : IsName s) : parent (render 1 (ss ++ [s])) = render 1 ss := by
  by_cases hnil : ss = []
  · subst hnil
    exact parent_append hs.no_slash []
  · obtain ⟨front, c, hfront⟩ :=
      (List.eq_nil_or_concat (render 1 ss)).resolve_left (render_ne_nil 1 ss)
    have hc : c ≠ '/' := by
      have hlast := getLast?_render_one hss hnil
      simpa [hfront] using hlast
    have hrender : render 1 (ss ++ [s]) = render 1 ss ++ '/' :: s := by
      rw [render_one, render_one, Text.joinWith_append ['/'] hnil (List.cons_ne_nil s []),
        List.append_assoc]
      rfl
    rw [hrender, hfront, parent_append hs.no_slash, if_neg (by simp [hc])]
    simp [hc]

/-- The way to a path from a folder above it. -/
theorem relative?_render_one (cwd : Text) {ss names : List Text} (hss : ∀ s ∈ ss, IsName s)
    (hnames : ∀ s ∈ names, IsName s) :
    relative? cwd (render 1 (ss ++ names)) (render 1 ss) = some (render 0 names) := by
  have hall : ∀ s ∈ ss ++ names, IsName s := List.forall_mem_append.mpr ⟨hss, hnames⟩
  apply relative?_of_extending cwd (isPlain_render_one hss) (isPlain_render_one hall)
  rw [components_render Nat.one_pos hall, components_render Nat.one_pos hss]

end TagLint.Path
