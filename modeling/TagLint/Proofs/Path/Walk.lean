import TagLint.Proofs.Path.Normal
/-!
Walking along the segments of a path. A path that is joined to a folder and normalised leads where
the walk along its segments ends that starts in the folder; and the parent of a normalised path is
one name shorter.
-/

namespace TagLint.Path

/-- Where the walk along segments ends that starts in the folder with these names: an empty segment
and `.` stay, `..` goes up by one name, if there is one, and any other segment goes down. -/
def walkFrom (folder : List Text) : List Text → List Text
  | [] => folder
  | s :: ss =>
    if s = [] ∨ s = here then walkFrom folder ss
    else if s = up then walkFrom folder.dropLast ss
    else walkFrom (folder ++ [s]) ss

/-- A walk along names goes down by them. -/
theorem walkFrom_append {names : List Text} (h : ∀ s ∈ names, IsName s)
    (folder rest : List Text) :
    walkFrom folder (names ++ rest) = walkFrom (folder ++ names) rest := by
  induction names generalizing folder with
  | nil => rw [List.nil_append, List.append_nil]
  | cons name names ih =>
    rw [List.forall_mem_cons] at h
    rw [List.cons_append, walkFrom, if_neg (by simp [h.1.ne_nil, h.1.ne_here]), if_neg h.1.ne_up,
      ih h.2, List.append_assoc, List.singleton_append]

/-- The segments of a path that starts with names. -/
theorem segments_joinWith_append {names : List Text} (h : ∀ s ∈ names, IsName s)
    (hne : names ≠ []) (t : Text) :
    segments (Text.joinWith ['/'] names ++ '/' :: t) = names ++ segments t := by
  unfold segments
  rw [Text.splitAtEach_append_cut (by decide), Text.splitAtEach_joinWith (by decide) hne]
  intro s hs c hc
  have hslash : c ≠ '/' := fun e => (h s hs).no_slash (e ▸ hc)
  simpa using hslash

/-! ## The walk of a path that is joined to a folder -/

/-- A stack of names, innermost first, and the folder with these names walk alike. -/
theorem reverse_foldl_step {ss stack : List Text} (hs : ∀ s ∈ ss, '/' ∉ s)
    (hstack : ∀ x ∈ stack, IsName x) :
    (ss.foldl (step true) stack).reverse = walkFrom stack.reverse ss := by
  induction ss generalizing stack with
  | nil => rfl
  | cons s ss ih =>
    rw [List.forall_mem_cons] at hs
    rw [List.foldl_cons, ih hs.2 (step_names hs.1 hstack), walkFrom]
    unfold step
    by_cases hstay : s = [] ∨ s = here
    · rw [if_pos hstay, if_pos hstay]
    rw [if_neg hstay, if_neg hstay]
    by_cases hup : s = up
    · rw [if_pos hup, if_pos hup]
      cases stack with
      | nil => rfl
      | cons top rest =>
        have htop := (hstack top List.mem_cons_self).ne_up
        dsimp only
        rw [if_neg htop, List.reverse_cons, List.dropLast_concat]
    · rw [if_neg hup, if_neg hup, List.reverse_cons]

/-- A path joined to a plain folder leads where the walk along its segments ends. -/
theorem components_normalize_join {base path : Text} (hbase : IsPlain base)
    (hpath : isAbsolute path = false) :
    components (normalize (join base path)) = walkFrom (components base) (segments path) := by
  obtain ⟨ss, hss, hfolder⟩ := exists_segments_join base hpath
  have hnames : ∀ s ∈ ss, s ≠ [] → IsName s := by
    intro s hs hne
    apply hbase.names
    rw [← hfolder, List.mem_filter]
    exact ⟨hs, by simpa using hne⟩
  rw [components_normalize (isAbsolute_join hbase.absolute path), hss]
  unfold walk
  rw [List.foldl_append, foldl_step_of_names true [] hnames, hfolder, List.append_nil,
    reverse_foldl_step, List.reverse_reverse]
  · exact fun s hs => no_slash_of_mem_segments hs
  · exact fun x hx => hbase.names x (List.mem_reverse.mp hx)

/-! ## Parents -/

theorem components_replicate_slash_nil (n : Nat) : components (List.replicate n '/') = [] := by
  have h := components_replicate_slash n []
  rw [List.append_nil] at h
  exact h

theorem components_append_slashes (t : Text) {u : Text} (hu : ∀ c ∈ u, c = '/') :
    components (t ++ u) = components t := by
  cases u with
  | nil => rw [List.append_nil]
  | cons c u =>
    rw [List.forall_mem_cons] at hu
    rw [hu.1, components_append_slash, List.eq_replicate_of_mem hu.2,
      components_replicate_slash_nil, List.append_nil]

/-- The parent of a path is what stands before its last slash, without slashes at its end; a root
keeps them. -/
theorem parent_append {s : Text} (hs : '/' ∉ s) (t : Text) :
    parent (t ++ '/' :: s) =
      if (t ++ ['/']).all (· == '/') then t ++ ['/']
      else ((t ++ ['/']).reverse.dropWhile (· == '/')).reverse := by
  have hhead : ((t ++ '/' :: s).reverse.dropWhile (· != '/')).reverse = t ++ ['/'] := by
    have hdrop : ∀ c ∈ s.reverse, (c != '/') = true := by
      intro c hc
      have hne : c ≠ '/' := fun e => hs (e ▸ List.mem_reverse.mp hc)
      simpa using hne
    rw [List.reverse_append, List.reverse_cons, List.append_assoc,
      List.dropWhile_append_of_pos hdrop]
    simp
  unfold parent
  rw [hhead]

/-- The parent of a path names what stands before the last slash. -/
theorem components_parent_append {s : Text} (hs : '/' ∉ s) (t : Text) :
    components (parent (t ++ '/' :: s)) = components t := by
  have hcomponents : components (t ++ ['/']) = components t :=
    components_append_slashes t (List.forall_mem_singleton.mpr rfl)
  rw [parent_append hs]
  split
  · exact hcomponents
  · obtain ⟨u, hu, hslashes⟩ := Text.exists_eq_dropWhile_append (· == '/') (t ++ ['/'])
    rw [← hcomponents]
    conv_rhs => rw [hu]
    exact (components_append_slashes _ fun c hc => beq_iff_eq.mp (hslashes c hc)).symm

/-- The last name of a path stands behind its last slash. -/
theorem exists_render_concat (n : Nat) {ss : List Text} (hss : ∀ s ∈ ss, s ≠ [] ∧ '/' ∉ s)
    (s : Text) :
    ∃ t, render (n + 1) (ss ++ [s]) = t ++ '/' :: s ∧ components t = ss := by
  have hrender : ∀ ts, render (n + 1) ts =
      List.replicate (n + 1) '/' ++ Text.joinWith ['/'] ts := fun _ => rfl
  by_cases hnil : ss = []
  · subst hnil
    refine ⟨List.replicate n '/', ?_, components_replicate_slash_nil n⟩
    rw [hrender, List.replicate_succ', List.append_assoc]
    rfl
  · refine ⟨List.replicate (n + 1) '/' ++ Text.joinWith ['/'] ss, ?_, ?_⟩
    · rw [hrender, Text.joinWith_append ['/'] hnil (List.cons_ne_nil s []), List.append_assoc,
        List.append_assoc]
      rfl
    · rw [components_replicate_slash, components_joinWith hss]

/-- The parent of a normalised path is one name shorter. -/
theorem components_parent_normalize {p : Text} (h : isAbsolute p = true) :
    components (parent (normalize p)) = (components (normalize p)).dropLast := by
  obtain ⟨n, hn⟩ := Nat.exists_eq_add_of_lt ((rootSlashes_pos_iff p).mpr h)
  rw [Nat.zero_add] at hn
  have hnames := (isPlain_normalize h).names
  rw [components_normalize h] at hnames ⊢
  rw [normalize_of_isAbsolute h, hn]
  rcases List.eq_nil_or_concat (walk true (segments p)) with hnil | ⟨ss, s, hss⟩
  · rw [hnil]
    show components (parent (List.replicate (n + 1) '/' ++ [])) = []
    rw [List.append_nil, List.replicate_succ', components_parent_append List.not_mem_nil,
      components_replicate_slash_nil]
  · rw [List.concat_eq_append] at hss
    rw [hss, List.forall_mem_append, List.forall_mem_singleton] at hnames
    obtain ⟨t, ht, hcomponents⟩ := exists_render_concat n
      (fun s hs => ⟨(hnames.1 s hs).ne_nil, (hnames.1 s hs).no_slash⟩) s
    rw [hss, ht, components_parent_append hnames.2.no_slash, hcomponents, List.dropLast_concat]

variable {cwd : Text} (hcwd : isAbsolute cwd = true)

include hcwd

theorem components_parent_absolute (p : Text) :
    components (parent (absolute cwd p)) = (components (absolute cwd p)).dropLast := by
  unfold absolute
  apply components_parent_normalize
  split
  · assumption
  · exact isAbsolute_join hcwd p

theorem isPlain_parent_absolute (p : Text) : IsPlain (parent (absolute cwd p)) where
  absolute := isAbsolute_parent (isPlain_absolute hcwd p).absolute
  names := by
    rw [components_parent_absolute hcwd]
    exact fun s hs => (isPlain_absolute hcwd p).names s (List.dropLast_subset _ hs)

end TagLint.Path
