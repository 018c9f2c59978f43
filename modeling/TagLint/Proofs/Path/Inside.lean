import TagLint.Proofs.Path.Normal
/-!
Paths strictly inside a folder, and the way from a folder to a path. Between plain paths the way
starts with one step up for each segment of the folder that the path does not share, so a way
without steps up leads inside the folder.
-/

namespace TagLint.Path

/-- `p` is absolute, has no dotted segment, and goes on from `root` by at least one segment. -/
structure IsInside (root p : Text) : Prop where
  absolute : isAbsolute p = true
  undotted : ∀ s ∈ components p, s ≠ here ∧ s ≠ up
  extending : components root <+: components p
  proper : components root ≠ components p

theorem isInside_of_components {root p : Text} (hp : IsPlain p) {s : Text} {rest : List Text}
    (h : components p = components root ++ s :: rest) : IsInside root p where
  absolute := hp.absolute
  undotted := fun t ht => ⟨(hp.names t ht).ne_here, (hp.names t ht).ne_up⟩
  extending := ⟨s :: rest, h.symm⟩
  proper := by
    intro he
    rw [he] at h
    simp at h

/-- An entry of a folder that lies inside the root lies inside it too. -/
theorem isInside_join {root p name : Text} (h : IsInside root p) (hn : IsName name) :
    IsInside root (join p name) := by
  have hc : components (join p name) = components p ++ [name] := by
    rw [components_join p hn.isAbsolute_eq_false, components_of_isName hn]
  refine ⟨isAbsolute_join h.absolute name, ?_, ?_, ?_⟩
  · intro s hs
    rw [hc, List.mem_append, List.mem_singleton] at hs
    rcases hs with hs | rfl
    · exact h.undotted s hs
    · exact ⟨hn.ne_here, hn.ne_up⟩
  · rw [hc]
    exact h.extending.trans (List.prefix_append _ _)
  · rw [hc]
    intro he
    have hle := h.extending.length_le
    rw [he, List.length_append, List.length_singleton] at hle
    omega

/-! ## What two lists have in common -/

theorem commonStart_isPrefix_right (as bs : List Text) : commonStart as bs <+: bs := by
  induction as generalizing bs with
  | nil => simp [commonStart]
  | cons a as ih =>
    cases bs with
    | nil => simp [commonStart]
    | cons b bs =>
      rw [commonStart]
      split
      · rename_i h
        rw [List.cons_prefix_cons]
        exact ⟨h, ih bs⟩
      · exact List.nil_prefix

theorem commonStart_append (as bs : List Text) : commonStart as (as ++ bs) = as := by
  induction as with
  | nil => simp [commonStart]
  | cons a as ih => rw [List.cons_append, commonStart, if_pos rfl, ih]

/-- The whole first list is shared exactly when the second one starts with it. -/
theorem length_commonStart_lt {as bs : List Text} (h : ¬ as <+: bs) :
    (commonStart as bs).length < as.length := by
  rcases Nat.lt_or_ge (commonStart as bs).length as.length with hlt | hge
  · exact hlt
  · have hl := commonStart_sublist_left as bs
    have he := List.IsPrefix.eq_of_length hl (Nat.le_antisymm hl.length_le hge)
    exact absurd (he ▸ commonStart_isPrefix_right as bs) h

/-! ## The way from one path to another -/

/-- The way from a plain folder to a plain path below it: what the path has in addition. -/
theorem relative?_of_extending {start target : Text} (cwd : Text) (hs : IsPlain start)
    (ht : IsPlain target) {rest : List Text}
    (h : components target = components start ++ rest) :
    relative? cwd target start = some (render 0 rest) := by
  have hne : target ≠ [] := by
    rintro rfl
    exact Bool.false_ne_true ht.absolute
  unfold relative?
  rw [if_neg (by simpa using hne), components_absolute_of_isPlain hs,
    components_absolute_of_isPlain ht, h]
  dsimp only
  rw [commonStart_append, Nat.sub_self, List.drop_left]
  rfl

/-- The way from a plain folder to a plain path that is not below it starts with a step up. -/
theorem relative?_of_not_extending {start target : Text} (cwd : Text) (hs : IsPlain start)
    (ht : IsPlain target) (h : ¬ components start <+: components target) :
    ∃ ss, relative? cwd target start = some (render 0 (up :: ss)) := by
  have hne : target ≠ [] := by
    rintro rfl
    exact Bool.false_ne_true ht.absolute
  obtain ⟨n, hn⟩ := Nat.exists_eq_add_of_lt (length_commonStart_lt h)
  have hsub : (components start).length
      - (commonStart (components start) (components target)).length = n + 1 := by omega
  unfold relative?
  rw [if_neg (by simpa using hne), components_absolute_of_isPlain hs,
    components_absolute_of_isPlain ht]
  dsimp only
  rw [hsub, List.replicate_succ, List.cons_append]
  exact ⟨_, rfl⟩

theorem render_zero_nil : render 0 [] = here := rfl

theorem render_zero_cons {s : Text} (hs : s ≠ []) (ss : List Text) :
    ∃ t, render 0 (s :: ss) = s ++ t ∧ (t = [] ∨ ∃ r, t = '/' :: r) := by
  have hr : ∀ t : Text, t ≠ [] → (if t.isEmpty then here else t) = t := by
    intro t ht
    rw [if_neg (by simpa using ht)]
  cases ss with
  | nil =>
    refine ⟨[], ?_, Or.inl rfl⟩
    unfold render
    rw [List.append_nil]
    exact hr s hs
  | cons s' ss =>
    refine ⟨'/' :: Text.joinWith ['/'] (s' :: ss), ?_, Or.inr ⟨_, rfl⟩⟩
    unfold render
    rw [List.replicate_zero, List.nil_append, Text.joinWith_cons_cons, List.append_assoc,
      List.singleton_append]
    exact hr _ (by simp [hs])

/-- A way that starts with a name is neither empty nor absolute, and that name decides alone whether
it starts with two dots. -/
theorem render_zero_of_isName {s : Text} (hs : IsName s) (ss : List Text) :
    render 0 (s :: ss) ≠ here ∧ isAbsolute (render 0 (s :: ss)) = false ∧
      (up <+: render 0 (s :: ss) ↔ up <+: s) := by
  obtain ⟨t, hway, ht⟩ := render_zero_cons hs.ne_nil ss
  rw [hway]
  match s, hs, ht with
  | [], hs, _ => exact absurd rfl hs.ne_nil
  | [c], hs, Or.inl ht =>
    subst ht
    exact ⟨hs.ne_here, hs.isAbsolute_eq_false, Iff.rfl⟩
  | [c], hs, Or.inr ht =>
    obtain ⟨r, rfl⟩ := ht
    refine ⟨by simp [here], hs.isAbsolute_eq_false, ?_⟩
    simp [up]
  | c :: d :: s, hs, _ =>
    refine ⟨by simp [here], hs.isAbsolute_eq_false, ?_⟩
    simp [up]

end TagLint.Path
