import TagLint.Path
import TagLint.Proofs.Text.Pieces
import Mathlib.Data.List.TakeWhile
/-!
Plain paths: absolute paths all of whose segments name an entry of a folder, so that the path leads
down from the root and nowhere up. Normalising an absolute path makes it plain, and leaves the
segments of a plain path as they are.
-/

namespace TagLint.Path

/-- A segment that names an entry of a folder. -/
structure IsName (s : Text) : Prop where
  ne_nil : s ≠ []
  no_slash : '/' ∉ s
  ne_here : s ≠ here
  ne_up : s ≠ up

instance (s : Text) : Decidable (IsName s) :=
  decidable_of_iff (s ≠ [] ∧ '/' ∉ s ∧ s ≠ here ∧ s ≠ up)
    ⟨fun ⟨hne, hslash, hhere, hup⟩ => ⟨hne, hslash, hhere, hup⟩,
      fun h => ⟨h.ne_nil, h.no_slash, h.ne_here, h.ne_up⟩⟩

/-- An absolute path that leads down all the way. -/
structure IsPlain (p : Text) : Prop where
  absolute : isAbsolute p = true
  names : ∀ s ∈ components p, IsName s

/-! ## Segments and components -/

theorem no_slash_of_mem_segments {p s : Text} (h : s ∈ segments p) : '/' ∉ s := by
  intro hs
  have := Text.uncut_of_mem_splitAtEach h '/' hs
  simp at this

theorem mem_components {p s : Text} : s ∈ components p ↔ s ∈ segments p ∧ s ≠ [] := by
  simp [components]

theorem components_append_slash (s t : Text) :
    components (s ++ '/' :: t) = components s ++ components t := by
  unfold components segments
  rw [Text.splitAtEach_append_cut (by decide), List.filter_append]

@[simp] theorem components_nil : components [] = [] := rfl

theorem components_replicate_slash (n : Nat) (t : Text) :
    components (List.replicate n '/' ++ t) = components t := by
  induction n with
  | zero => rfl
  | succ n ih =>
    rw [List.replicate_succ, List.cons_append]
    have h := components_append_slash [] (List.replicate n '/' ++ t)
    rw [List.nil_append, components_nil, List.nil_append] at h
    rw [h, ih]

theorem components_of_isName {s : Text} (h : IsName s) : components s = [s] := by
  have hs : segments s = [s] := by
    apply Text.splitAtEach_of_uncut
    intro c hc
    have hne : c ≠ '/' := fun e => h.no_slash (e ▸ hc)
    simpa using hne
  simp [components, hs, h.ne_nil]

theorem components_joinWith {ss : List Text} (h : ∀ s ∈ ss, s ≠ [] ∧ '/' ∉ s) :
    components (Text.joinWith ['/'] ss) = ss := by
  cases ss with
  | nil => rfl
  | cons s ss =>
    unfold components segments
    rw [Text.splitAtEach_joinWith (by decide) (List.cons_ne_nil s ss), List.filter_eq_self]
    · intro t ht
      have hne := (h t ht).1
      simpa using hne
    · intro t ht c hc
      have hne : c ≠ '/' := fun e => (h t ht).2 (e ▸ hc)
      simpa using hne

/-! ## Absolute paths -/

theorem isAbsolute_iff {p : Text} : isAbsolute p = true ↔ ∃ t, p = '/' :: t := by
  cases p with
  | nil => simp [isAbsolute]
  | cons c t => simp [isAbsolute]

theorem IsName.isAbsolute_eq_false {s : Text} (h : IsName s) : isAbsolute s = false := by
  rw [Bool.eq_false_iff]
  intro ha
  obtain ⟨t, rfl⟩ := isAbsolute_iff.mp ha
  exact h.no_slash List.mem_cons_self

theorem rootSlashes_pos_iff (p : Text) : 0 < rootSlashes p ↔ isAbsolute p = true := by
  rw [isAbsolute_iff]
  unfold rootSlashes
  split
  · simp
  · simp
  · simp
  · rename_i h
    simp only [Nat.lt_irrefl, false_iff, not_exists]
    exact fun t ht => h t ht

theorem isAbsolute_append {p : Text} (h : isAbsolute p = true) (t : Text) :
    isAbsolute (p ++ t) = true := by
  obtain ⟨r, rfl⟩ := isAbsolute_iff.mp h
  rfl

theorem isAbsolute_join {a : Text} (h : isAbsolute a = true) (b : Text) :
    isAbsolute (join a b) = true := by
  unfold join
  split
  · assumption
  · split
    · exact isAbsolute_append h b
    · rw [List.append_assoc]
      exact isAbsolute_append h _

theorem join_ne_nil {a : Text} (ha : a ≠ []) (b : Text) : join a b ≠ [] := by
  unfold join
  split
  · rename_i hb
    obtain ⟨t, rfl⟩ := isAbsolute_iff.mp hb
    exact List.cons_ne_nil _ _
  · split <;> simp [ha]

/-- A relative path is joined behind the folder, with or without a slash between them. -/
theorem exists_join_eq (a : Text) {b : Text} (hb : isAbsolute b = false) :
    ∃ gap, join a b = a ++ gap ++ b := by
  unfold join
  rw [hb, if_neg Bool.false_ne_true]
  split
  · exact ⟨[], by rw [List.append_nil]⟩
  · exact ⟨['/'], rfl⟩

theorem isPrefix_join (a : Text) {b : Text} (hb : isAbsolute b = false) : a <+: join a b := by
  obtain ⟨gap, hjoin⟩ := exists_join_eq a hb
  rw [hjoin, List.append_assoc]
  exact List.prefix_append a _

theorem not_mem_join {a b : Text} {c : Char} (ha : c ∉ a) (hb : c ∉ b) (hc : c ≠ '/') :
    c ∉ join a b := by
  unfold join
  split
  · exact hb
  · split <;> simp [ha, hb, hc]

/-- The segments of a joined path are those of the folder, but for an empty last one, and then those
of what is joined. -/
theorem exists_segments_join (a : Text) {b : Text} (hb : isAbsolute b = false) :
    ∃ ss, segments (join a b) = ss ++ segments b ∧
      ss.filter (fun s => !s.isEmpty) = components a := by
  unfold join
  rw [hb, if_neg Bool.false_ne_true]
  by_cases hnil : a = []
  · subst hnil
    exact ⟨[], rfl, rfl⟩
  by_cases hlast : a.getLast? = some '/'
  · obtain ⟨r, rfl⟩ := List.getLast?_eq_some_iff.mp hlast
    have hr := components_append_slash r []
    rw [components_nil, List.append_nil] at hr
    refine ⟨segments r, ?_, hr.symm⟩
    rw [if_pos (by simp), List.append_assoc]
    exact Text.splitAtEach_append_cut (by decide) r b
  · refine ⟨segments a, ?_, rfl⟩
    rw [if_neg (by simp [hnil, hlast]), List.append_assoc]
    exact Text.splitAtEach_append_cut (by decide) a b

theorem components_join (a : Text) {b : Text} (hb : isAbsolute b = false) :
    components (join a b) = components a ++ components b := by
  obtain ⟨ss, hss, hfolder⟩ := exists_segments_join a hb
  rw [components, hss, List.filter_append, hfolder]
  rfl

theorem components_foldl_join (a : Text) {names : List Text} (h : ∀ s ∈ names, IsName s) :
    components (names.foldl join a) = components a ++ names := by
  induction names generalizing a with
  | nil => rw [List.foldl_nil, List.append_nil]
  | cons name rest ih =>
    rw [List.forall_mem_cons] at h
    rw [List.foldl_cons, ih (join a name) h.2, components_join a h.1.isAbsolute_eq_false,
      components_of_isName h.1, List.append_assoc, List.singleton_append]

theorem isPrefix_foldl_join (a : Text) {names : List Text} (h : ∀ s ∈ names, IsName s) :
    a <+: names.foldl join a := by
  induction names generalizing a with
  | nil => exact List.prefix_refl a
  | cons name rest ih =>
    rw [List.forall_mem_cons] at h
    exact (isPrefix_join a h.1.isAbsolute_eq_false).trans (ih (join a name) h.2)

theorem dropWhile_reverse_ne_nil {p : Text} {stay : Char → Bool} (c : Char) (hc : c ∈ p)
    (hs : stay c = false) : p.reverse.dropWhile stay ≠ [] := by
  intro h
  rw [List.dropWhile_eq_nil_iff] at h
  have := h c (List.mem_reverse.mpr hc)
  rw [hs] at this
  exact Bool.false_ne_true this

/-- What is left of an absolute path when its end is cut away is absolute unless it is empty. -/
theorem isAbsolute_of_isPrefix {p t : Text} (h : isAbsolute p = true) (hp : t <+: p)
    (hne : t ≠ []) : isAbsolute t = true := by
  obtain ⟨r, rfl⟩ := isAbsolute_iff.mp h
  cases t with
  | nil => exact absurd rfl hne
  | cons c t =>
    rw [List.cons_prefix_cons] at hp
    rw [hp.1]
    rfl

theorem reverse_dropWhile_isPrefix (stay : Char → Bool) (p : Text) :
    (p.reverse.dropWhile stay).reverse <+: p := by
  obtain ⟨u, hu, -⟩ := Text.exists_eq_dropWhile_append stay p
  exact ⟨u, hu.symm⟩

theorem isAbsolute_parent {p : Text} (h : isAbsolute p = true) : isAbsolute (parent p) = true := by
  have hslash : '/' ∈ p := by
    obtain ⟨t, rfl⟩ := isAbsolute_iff.mp h
    exact List.mem_cons_self
  have hhead : isAbsolute (p.reverse.dropWhile (· != '/')).reverse = true := by
    apply isAbsolute_of_isPrefix h (reverse_dropWhile_isPrefix _ p)
    rw [Ne, List.reverse_eq_nil_iff]
    exact dropWhile_reverse_ne_nil '/' hslash (by decide)
  unfold parent
  dsimp only
  split
  · exact hhead
  · rename_i hall
    -- some character of the head is no slash, so stripping its slashes leaves something
    simp only [List.all_eq_true, not_forall] at hall
    obtain ⟨c, hc, hne⟩ := hall
    apply isAbsolute_of_isPrefix hhead (reverse_dropWhile_isPrefix _ _)
    rw [Ne, List.reverse_eq_nil_iff]
    exact dropWhile_reverse_ne_nil c hc (by simpa using hne)

/-! ## The walk along the segments -/

theorem step_of_isName {s : Text} (h : IsName s) (absolute : Bool) (stack : List Text) :
    step absolute stack s = s :: stack := by
  unfold step
  rw [if_neg (by simp [h.ne_nil, h.ne_here]), if_neg h.ne_up]

/-- From the root down, the way so far only ever holds names. -/
theorem step_names {stack : List Text} {s : Text} (hs : '/' ∉ s) (h : ∀ x ∈ stack, IsName x) :
    ∀ x ∈ step true stack s, IsName x := by
  unfold step
  split
  · exact h
  · rename_i hstay
    rw [not_or] at hstay
    split
    · cases stack with
      | nil => simp
      | cons top rest =>
        rw [List.forall_mem_cons] at h
        dsimp only
        rw [if_neg h.1.ne_up]
        exact h.2
    · rename_i hup
      rw [List.forall_mem_cons]
      exact ⟨⟨hstay.1, hs, hstay.2, hup⟩, h⟩

theorem foldl_step_names {ss stack : List Text} (hs : ∀ s ∈ ss, '/' ∉ s)
    (h : ∀ x ∈ stack, IsName x) : ∀ x ∈ ss.foldl (step true) stack, IsName x := by
  induction ss generalizing stack with
  | nil => exact h
  | cons s ss ih =>
    rw [List.forall_mem_cons] at hs
    exact ih hs.2 (step_names hs.1 h)

theorem isName_of_mem_walk {ss : List Text} (hs : ∀ s ∈ ss, '/' ∉ s) :
    ∀ x ∈ walk true ss, IsName x := by
  intro x hx
  exact foldl_step_names hs (List.forall_mem_nil _) x (List.mem_reverse.mp hx)

theorem foldl_step_of_names {ss : List Text} (absolute : Bool) (stack : List Text)
    (h : ∀ s ∈ ss, s ≠ [] → IsName s) :
    ss.foldl (step absolute) stack = (ss.filter fun s => !s.isEmpty).reverse ++ stack := by
  induction ss generalizing stack with
  | nil => rfl
  | cons s ss ih =>
    rw [List.forall_mem_cons] at h
    rw [List.foldl_cons, ih _ h.2]
    by_cases hs : s = []
    · simp [hs, step]
    · rw [step_of_isName (h.1 hs)]
      simp [hs]

/-! ## Normalising -/

theorem render_ne_nil (slashes : Nat) (ss : List Text) : render slashes ss ≠ [] := by
  unfold render
  dsimp only
  split
  · exact List.cons_ne_nil _ _
  · rename_i h
    simpa using h

theorem absolute_ne_nil (cwd p : Text) : absolute cwd p ≠ [] := render_ne_nil _ _

theorem isAbsolute_render {n : Nat} (hn : 0 < n) (ss : List Text) :
    isAbsolute (render n ss) = true := by
  obtain ⟨m, rfl⟩ := Nat.exists_eq_add_of_lt hn
  rw [Nat.zero_add]
  rfl

theorem components_render {n : Nat} (hn : 0 < n) {ss : List Text} (h : ∀ s ∈ ss, IsName s) :
    components (render n ss) = ss := by
  obtain ⟨m, rfl⟩ := Nat.exists_eq_add_of_lt hn
  have hr : render (0 + m + 1) ss
      = List.replicate (0 + m + 1) '/' ++ Text.joinWith ['/'] ss := by
    unfold render
    rw [List.replicate_succ]
    rfl
  rw [hr, components_replicate_slash,
    components_joinWith fun s hs => ⟨(h s hs).ne_nil, (h s hs).no_slash⟩]

theorem normalize_of_isAbsolute {p : Text} (h : isAbsolute p = true) :
    normalize p = render (rootSlashes p) (walk true (segments p)) := by
  have hpos := (rootSlashes_pos_iff p).mpr h
  unfold normalize
  dsimp only
  rw [show (rootSlashes p != 0) = true by simpa using Nat.pos_iff_ne_zero.mp hpos]

theorem components_normalize {p : Text} (h : isAbsolute p = true) :
    components (normalize p) = walk true (segments p) := by
  rw [normalize_of_isAbsolute h, components_render ((rootSlashes_pos_iff p).mpr h)]
  exact isName_of_mem_walk fun s hs => no_slash_of_mem_segments hs

theorem isPlain_normalize {p : Text} (h : isAbsolute p = true) : IsPlain (normalize p) where
  absolute := by
    rw [normalize_of_isAbsolute h]
    exact isAbsolute_render ((rootSlashes_pos_iff p).mpr h) _
  names := by
    rw [components_normalize h]
    exact isName_of_mem_walk fun s hs => no_slash_of_mem_segments hs

theorem components_normalize_of_isPlain {p : Text} (h : IsPlain p) :
    components (normalize p) = components p := by
  rw [components_normalize h.absolute]
  unfold walk
  rw [foldl_step_of_names true [] fun s hs hne => h.names s (mem_components.mpr ⟨hs, hne⟩),
    List.append_nil, List.reverse_reverse]
  rfl

theorem isPlain_absolute {cwd : Text} (hcwd : isAbsolute cwd = true) (p : Text) :
    IsPlain (absolute cwd p) := by
  unfold absolute
  apply isPlain_normalize
  split
  · assumption
  · exact isAbsolute_join hcwd p

theorem components_absolute_of_isPlain {p : Text} (h : IsPlain p) (cwd : Text) :
    components (absolute cwd p) = components p := by
  unfold absolute
  rw [if_pos h.absolute, components_normalize_of_isPlain h]

end TagLint.Path
