import TagLint.Index.Session
import TagLint.Proofs.ByPath
import TagLint.Proofs.Index.Entries
import TagLint.Proofs.Index.Groups
import TagLint.Proofs.Workspace.Documents
/-!
What has been asked of an index, and what its groups show. `IsLatest` is read off the list of
actions: a document has been brought, and no later action concerns its path. `Holds` says that an
index keeps the entries of certain documents and nothing else. Each action preserves it for the
documents that are the latest (`holds_run`), and the groups are settled by it.
-/

namespace TagLint.Index

/-! ## Reading the history -/

/-- The action brings this document to the index: it puts it in, or it makes the index anew, and the
document is one of those opened on the way. -/
def Action.Brings : Action → Document → Prop
  | .upsert d', d => d' = d
  | .remove _, _ => False
  | .rebuild w disk limits, d =>
    (Index.rebuild w disk limits).2 = .ok () ∧ ∃ paths, w.walk disk limits = .ok paths ∧
      ∃ p ∈ paths, Workspace.openDocument w.files limits p = .ok (some d)

/-- Whether the action decides on what the index has of a path. -/
def Action.concerns (p : Text) : Action → Bool
  | .upsert d => d.path == p
  | .remove q => q == p
  | .rebuild .. => true

/-- The document has been brought, and no later action concerns its path. -/
def IsLatest (as : List Action) (d : Document) : Prop :=
  ∃ before a after, as = before ++ a :: after ∧ a.Brings d ∧ ∀ b ∈ after, b.concerns d.path = false

variable {as bs : List Action} {a : Action} {d d' : Document} {i j : Index}

theorem Action.Brings.concerns (h : a.Brings d) : a.concerns d.path = true := by
  cases a with
  | upsert d' =>
    cases h
    exact beq_self_eq_true _
  | remove path => exact absurd h id
  | rebuild w disk limits => rfl

/-- No action brings two documents with one path. -/
theorem Action.Brings.unique (h : a.Brings d) (h' : a.Brings d') (hpath : d.path = d'.path) :
    d = d' := by
  cases a with
  | upsert => exact h.symm.trans h'
  | remove path => exact absurd h id
  | rebuild w disk limits =>
    obtain ⟨-, paths, -, p, -, hp⟩ := h
    obtain ⟨-, paths', -, p', -, hp'⟩ := h'
    have hsame : p = p' := by
      rw [← Workspace.path_of_openDocument hp, hpath, Workspace.path_of_openDocument hp']
    rw [hsame, hp'] at hp
    cases hp
    rfl

theorem not_isLatest_nil : ¬ IsLatest [] d := by
  rintro ⟨before, a, after, h, -⟩
  simp at h

theorem isLatest_append_singleton :
    IsLatest (as ++ [a]) d ↔ a.Brings d ∨ (a.concerns d.path = false ∧ IsLatest as d) := by
  constructor
  · rintro ⟨before, b, after, has, hb, hafter⟩
    rcases Lists.append_singleton_eq_append_cons_iff.mp has with ⟨rfl, rfl, -⟩ | ⟨rest, rfl, rfl⟩
    · exact Or.inl hb
    · rw [List.forall_mem_append, List.forall_mem_singleton] at hafter
      exact Or.inr ⟨hafter.2, before, b, rest, rfl, hb, hafter.1⟩
  · rintro (ha | ⟨ha, before, b, after, rfl, hb, hafter⟩)
    · exact ⟨as, a, [], rfl, ha, List.forall_mem_nil _⟩
    · refine ⟨before, b, after ++ [a], by simp, hb, ?_⟩
      rw [List.forall_mem_append, List.forall_mem_singleton]
      exact ⟨hafter, ha⟩

/-- A path has at most one latest document. -/
theorem IsLatest.unique (h : IsLatest as d) (h' : IsLatest as d') (hpath : d.path = d'.path) :
    d = d' := by
  induction as using List.reverseRecOn with
  | nil => exact absurd h not_isLatest_nil
  | append_singleton as a ih =>
    rw [isLatest_append_singleton] at h h'
    rcases h with h | ⟨ha, h⟩
    · rcases h' with h' | ⟨ha', -⟩
      · exact h.unique h' hpath
      · rw [← hpath, h.concerns] at ha'
        cases ha'
    · rcases h' with h' | ⟨-, h'⟩
      · rw [hpath, h'.concerns] at ha
        cases ha
      · exact ih h h'

/-- Which document is the latest of its path is decided by the actions that concern the path. -/
theorem isLatest_filter_iff : IsLatest (as.filter (·.concerns d.path)) d ↔ IsLatest as d := by
  induction as using List.reverseRecOn with
  | nil => exact Iff.rfl
  | append_singleton as a ih =>
    rw [List.filter_append, isLatest_append_singleton]
    cases ha : a.concerns d.path with
    | true =>
      rw [List.filter_cons_of_pos ha, List.filter_nil, isLatest_append_singleton, ha]
      simp
    | false =>
      have hnot : ¬ a.Brings d := by
        intro h
        rw [h.concerns] at ha
        cases ha
      rw [List.filter_cons_of_neg (by simp [ha]), List.filter_nil, List.append_nil, ih]
      simp [hnot]

/-! ## What an index holds -/

/-- The index has the entries of the documents with this property, each list under the path of its
document, and no other entries. -/
structure Holds (i : Index) (latest : Document → Prop) : Prop where
  functional : ByPath.IsFunctional i.entries
  mem_iff : ∀ p es, (p, es) ∈ i.entries ↔
    es ≠ [] ∧ ∃ d, latest d ∧ d.path = p ∧ entriesOf d = es

theorem Holds.congr {latest latest' : Document → Prop} (h : i.Holds latest)
    (hsame : ∀ d, latest d ↔ latest' d) : i.Holds latest' := by
  rwa [← funext fun d => propext (hsame d)]

theorem holds_empty : Holds {} fun _ => False where
  functional := ByPath.isFunctional_nil
  mem_iff := by
    intro p es
    constructor
    · intro h
      cases h
    · rintro ⟨-, d, h, -⟩
      exact h.elim

variable {latest : Document → Prop}

theorem Holds.remove (h : i.Holds latest) (q : Text) :
    (i.remove q).Holds fun d => latest d ∧ d.path ≠ q where
  functional := h.functional.erase q
  mem_iff := by
    intro p es
    show (p, es) ∈ ByPath.erase i.entries q ↔ _
    rw [ByPath.mem_erase, h.mem_iff]
    constructor
    · rintro ⟨⟨hne, d, hd, rfl, hes⟩, hpath⟩
      exact ⟨hne, d, ⟨hd, hpath⟩, rfl, hes⟩
    · rintro ⟨hne, d, ⟨hd, hpath⟩, rfl, hes⟩
      exact ⟨⟨hne, d, hd, rfl, hes⟩, hpath⟩

theorem Holds.upsert (h : i.Holds latest) (d : Document) :
    (i.upsert d).Holds fun d' => d = d' ∨ (latest d' ∧ d'.path ≠ d.path) := by
  have hold := h.remove d.path
  unfold Index.upsert
  cases hes : entriesOf d with
  | nil =>
    -- a document without tags takes the old entries of its path away and leaves none
    refine ⟨hold.functional, fun p es => ?_⟩
    show (p, es) ∈ (i.remove d.path).entries ↔ _
    rw [hold.mem_iff]
    constructor
    · rintro ⟨hne, d', hd', hrest⟩
      exact ⟨hne, d', Or.inr hd', hrest⟩
    · rintro ⟨hne, d', rfl | hd', hpath, hsame⟩
      · exact absurd (hsame.symm.trans hes) hne
      · exact ⟨hne, d', hd', hpath, hsame⟩
  | cons e rest =>
    refine ⟨h.functional.put d.path _, fun p es => ?_⟩
    show (p, es) ∈ ByPath.put i.entries d.path (e :: rest) ↔ _
    rw [ByPath.mem_put, ← ByPath.mem_erase]
    show (p, es) ∈ (i.remove d.path).entries ∨ _ ↔ _
    rw [hold.mem_iff]
    constructor
    · rintro (⟨hne, d', hd', hrest⟩ | hnew)
      · exact ⟨hne, d', Or.inr hd', hrest⟩
      · cases hnew
        exact ⟨List.cons_ne_nil _ _, d, Or.inl rfl, rfl, hes⟩
    · rintro ⟨hne, d', rfl | hd', hpath, hsame⟩
      · rw [← hpath, ← hsame, hes]
        exact Or.inr rfl
      · exact Or.inl ⟨hne, d', hd', hpath, hsame⟩

/-- An index made of documents holds just these, if no two of them have one path. -/
theorem holds_ofDocuments {ds : List Document}
    (hds : ∀ d ∈ ds, ∀ d' ∈ ds, d.path = d'.path → d = d') : (ofDocuments ds).Holds (· ∈ ds) := by
  induction ds using List.reverseRecOn with
  | nil => exact holds_empty.congr fun d => by simp
  | append_singleton ds d ih =>
    have hold := ih fun d₁ h₁ d₂ h₂ =>
      hds d₁ (List.mem_append_left _ h₁) d₂ (List.mem_append_left _ h₂)
    have hnew := hold.upsert d
    have hfold : ofDocuments (ds ++ [d]) = (ofDocuments ds).upsert d := List.foldl_append
    rw [hfold]
    refine hnew.congr fun d' => ?_
    rw [List.mem_append, List.mem_singleton]
    constructor
    · rintro (rfl | ⟨hd', -⟩)
      · exact Or.inr rfl
      · exact Or.inl hd'
    · rintro (hd' | rfl)
      · by_cases hpath : d'.path = d.path
        · exact Or.inl (hds d' (by simp [hd']) d (by simp) hpath).symm
        · exact Or.inr ⟨hd', hpath⟩
      · exact Or.inl rfl

section Rebuild

variable {w : Workspace} {disk : Storage.Disk} {limits : Settings.Limits}

theorem rebuild_of_walk_error {failure : Failure} (h : w.walk disk limits = .error failure) :
    rebuild w disk limits = ({}, .error failure) := by
  unfold rebuild
  rw [h]
  rfl

theorem rebuild_of_openAll {paths : List Text} {ds : List Document}
    (hwalk : w.walk disk limits = .ok paths) (hopen : w.openAll limits paths = .ok ds) :
    rebuild w disk limits = (ofDocuments ds, .ok ()) := by
  unfold rebuild
  rw [hwalk, Traverse.ok_bind, hopen]

end Rebuild

theorem holds_rebuild (w : Workspace) (disk : Storage.Disk) (limits : Settings.Limits) :
    (rebuild w disk limits).1.Holds (Action.Brings (.rebuild w disk limits)) := by
  cases hwalk : w.walk disk limits with
  | error failure =>
    rw [rebuild_of_walk_error hwalk]
    refine holds_empty.congr fun d => ?_
    unfold Action.Brings
    simp [hwalk]
  | ok paths =>
    cases hopen : w.openAll limits paths with
    | error failure =>
      have hrebuild : rebuild w disk limits = ({}, .error failure) := by
        unfold rebuild
        rw [hwalk, Traverse.ok_bind, hopen]
      rw [hrebuild]
      refine holds_empty.congr fun d => ?_
      unfold Action.Brings
      simp [hrebuild]
    | ok ds =>
      have hrebuild := rebuild_of_openAll hwalk hopen
      have hmem : ∀ d, d ∈ ds ↔ Action.Brings (.rebuild w disk limits) d := by
        intro d
        obtain ⟨found, hfound, hds⟩ := Traverse.bind_eq_ok.mp hopen
        cases hds
        unfold Action.Brings
        simp [hrebuild, hwalk, Traverse.mem_of_mapM_eq_ok hfound]
      rw [hrebuild]
      refine (holds_ofDocuments fun d hd d' hd' => ?_).congr hmem
      exact ((hmem d).mp hd).unique ((hmem d').mp hd')

theorem holds_run (as : List Action) : (run as).Holds (IsLatest as) := by
  induction as using List.reverseRecOn with
  | nil => exact holds_empty.congr fun d => by simp [not_isLatest_nil]
  | append_singleton as a ih =>
    have hrun : run (as ++ [a]) = (run as).step a := List.foldl_append
    rw [hrun]
    cases a with
    | upsert d =>
      refine (ih.upsert d).congr fun d' => ?_
      have hother : (Action.upsert d).concerns d'.path = false ↔ d'.path ≠ d.path := by
        rw [Action.concerns, beq_eq_false_iff_ne, ne_comm]
      rw [isLatest_append_singleton, hother, and_comm]
      exact Iff.rfl
    | remove path =>
      refine (ih.remove path).congr fun d' => ?_
      have hother : (Action.remove path).concerns d'.path = false ↔ d'.path ≠ path := by
        rw [Action.concerns, beq_eq_false_iff_ne, ne_comm]
      rw [isLatest_append_singleton, hother, and_comm]
      exact (or_iff_right id).symm
    | rebuild w disk limits =>
      refine (holds_rebuild w disk limits).congr fun d' => ?_
      rw [isLatest_append_singleton]
      exact (or_iff_left fun hlater => Bool.noConfusion hlater.1).symm

/-! ## Groups -/

section Groups

variable (h : i.Holds latest) (hunique : ∀ d d', latest d → latest d' → d.path = d'.path → d = d')

theorem Holds.mem_all (h : i.Holds latest) {e : Entry} :
    e ∈ i.all ↔ ∃ d, latest d ∧ e ∈ entriesOf d := by
  unfold all
  rw [List.mem_flatMap]
  constructor
  · rintro ⟨⟨p, es⟩, hmem, he⟩
    obtain ⟨-, d, hd, -, rfl⟩ := (h.mem_iff p es).mp hmem
    exact ⟨d, hd, he⟩
  · rintro ⟨d, hd, he⟩
    exact ⟨(d.path, entriesOf d),
      (h.mem_iff _ _).mpr ⟨List.ne_nil_of_mem he, d, hd, rfl, rfl⟩, he⟩

include h

theorem Holds.nodup_all : i.all.Nodup := by
  refine Lists.flatMap_nodup h.functional.of_map ?_ ?_
  · rintro ⟨p, es⟩ hmem
    obtain ⟨-, d, -, -, rfl⟩ := (h.mem_iff p es).mp hmem
    refine (pairwise_line_entriesOf d).imp ?_
    rintro e e' hline rfl
    exact Nat.lt_irrefl _ hline
  · rintro ⟨p, es⟩ hmem ⟨q, fs⟩ hmem' e he he'
    obtain ⟨-, d, -, rfl, rfl⟩ := (h.mem_iff p es).mp hmem
    obtain ⟨-, d', -, rfl, rfl⟩ := (h.mem_iff q fs).mp hmem'
    have hpath : d.path = d'.path :=
      (path_of_mem_entriesOf he).symm.trans (path_of_mem_entriesOf he')
    exact List.inj_on_of_nodup_map h.functional hmem hmem' hpath

include hunique

theorem Holds.hasDistinctPlaces : HasDistinctPlaces i.all := by
  intro a ha b hb hpath hline
  obtain ⟨d, hd, ha⟩ := h.mem_all.mp ha
  obtain ⟨d', hd', hb⟩ := h.mem_all.mp hb
  rw [path_of_mem_entriesOf ha, path_of_mem_entriesOf hb] at hpath
  have hsame := hunique d d' hd hd' hpath
  subst hsame
  have hlines : ((entriesOf d).map (·.line)).Nodup := by
    rw [List.Nodup, List.pairwise_map]
    exact (pairwise_line_entriesOf d).imp fun hless => Nat.ne_of_lt hless
  exact List.inj_on_of_nodup_map hlines ha hb hline

theorem Holds.groups_eq (h' : j.Holds latest) : i.groups = j.groups := by
  refine groups_eq_of_perm ?_ (h.hasDistinctPlaces hunique)
  rw [List.perm_ext_iff_of_nodup h.nodup_all h'.nodup_all]
  intro e
  rw [h.mem_all, h'.mem_all]

end Groups

/-- The groups show the entries of the latest document of each path, each entry once, and no others.
The keys are in order, no group is empty, and the entries of a group are in order of path and line.
Two runs show the same if each path sees the same actions in the same order, and an index that is
made anew shows what a fresh one shows. -/
theorem groups_run (as : List Action) :
    (∀ e, (∃ g ∈ (run as).groups, e ∈ g.entries) ↔ ∃ d, IsLatest as d ∧ e ∈ entriesOf d) ∧
    (∀ d d', IsLatest as d → IsLatest as d' → d.path = d'.path → d = d') ∧
    ((run as).groups.flatMap (·.entries)).Nodup ∧
    ((run as).groups.map (·.key)).Pairwise Text.Before ∧
    (∀ g ∈ (run as).groups, g.entries ≠ [] ∧ (∀ e ∈ g.entries, e.key = g.key) ∧
      g.entries.Pairwise Entry.Before) ∧
    (∀ bs : List Action, (∀ p, bs.filter (·.concerns p) = as.filter (·.concerns p)) →
      (run bs).groups = (run as).groups) ∧
    ∀ w disk limits, (run (as ++ [.rebuild w disk limits])).groups =
      (run [.rebuild w disk limits]).groups := by
  have h := holds_run as
  have hunique : ∀ d d', IsLatest as d → IsLatest as d' → d.path = d'.path → d = d' :=
    fun d d' => IsLatest.unique
  have hplaces := h.hasDistinctPlaces hunique
  refine ⟨fun e => ?_, hunique, nodup_flatMap_groups h.nodup_all, ?_, fun g hg => ?_,
    fun bs hbs => ?_, fun w disk limits => ?_⟩
  · rw [exists_mem_groups_iff, h.mem_all]
  · rw [map_key_groups]
    exact pairwise_usedKeys _
  · refine ⟨entries_ne_nil_of_mem_groups hg,
      fun e he => ((mem_entries_of_mem_groups hg).mp he).2, ?_⟩
    rw [entries_of_mem_groups hg]
    exact pairwise_before_mergeSort (h.nodup_all.filter _) (hplaces.filter _)
  · have hsame : ∀ d, IsLatest bs d ↔ IsLatest as d := fun d => by
      rw [← isLatest_filter_iff, hbs d.path, isLatest_filter_iff]
    exact (h.groups_eq hunique ((holds_run bs).congr hsame)).symm
  · have hrun : run (as ++ [.rebuild w disk limits]) = run [.rebuild w disk limits] :=
      List.foldl_append
    rw [hrun]

end TagLint.Index
