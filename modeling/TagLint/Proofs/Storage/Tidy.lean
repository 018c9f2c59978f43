import TagLint.Storage.Disk
import TagLint.Proofs.Path.Normal
import TagLint.Proofs.Traverse
/-!
Reading goes by the tidy form of a path. A file that a path finds, its tidy form finds too: a step
that stays only asks that a folder is there, so leaving it out does no harm, and the tidy form is no
longer than the path.
-/

namespace TagLint

theorem Text.byteLength_le_of_sublist {s t : Text} (h : s.Sublist t) :
    byteLength s ≤ byteLength t := by
  induction h with
  | slnil => exact Nat.le_refl _
  | cons c _ ih => exact ih.trans (Nat.le_add_left _ _)
  | cons_cons c _ ih => exact Nat.add_le_add_left ih _

namespace Storage.Disk

/-! ## The tidy form -/

/-- The names that the tidy form of a path keeps. -/
def keptNames (path : Text) : List Text := (Path.components path).filter (· != Path.here)

theorem ne_nil_of_mem_keptNames {path s : Text} (h : s ∈ keptNames path) : s ≠ [] ∧ '/' ∉ s := by
  obtain ⟨hseg, hne⟩ := Path.mem_components.mp (List.mem_filter.mp h).1
  exact ⟨hne, Path.no_slash_of_mem_segments hseg⟩

theorem joinWith_keptNames_sublist (path : Text) :
    (Text.joinWith ['/'] (keptNames path)).Sublist path := by
  have h : (keptNames path).Sublist (Path.segments path) :=
    List.filter_sublist.trans List.filter_sublist
  have hjoin := Text.joinWith_sublist ['/'] h
  unfold Path.segments at hjoin
  rw [Text.joinWith_splitAtEach] at hjoin
  exact hjoin

theorem keptNames_cons_slash (path : Text) : keptNames ('/' :: path) = keptNames path := by
  unfold keptNames
  rw [show Path.components ('/' :: path) = Path.components path from
    Path.components_replicate_slash 1 path]

section Kept

variable {path : Text} (h : keptNames path ≠ [])

include h

theorem joinWith_keptNames_ne_nil : Text.joinWith ['/'] (keptNames path) ≠ [] := by
  obtain ⟨s, ss, hs⟩ := List.exists_cons_of_ne_nil h
  have hmem : s ∈ keptNames path := hs ▸ List.mem_cons_self
  rw [hs]
  exact Text.joinWith_cons_ne_nil ['/'] (ne_nil_of_mem_keptNames hmem).1 ss

theorem tidy_eq :
    tidy path = List.replicate (Path.rootSlashes path) '/' ++
      Text.joinWith ['/'] (keptNames path) := by
  change (if (_ ++ Text.joinWith ['/'] (keptNames path)).isEmpty then Path.here else _) = _
  exact if_neg (by simp [joinWith_keptNames_ne_nil h])

theorem tidy_sublist : (tidy path).Sublist path := by
  rw [tidy_eq h]
  unfold Path.rootSlashes
  split
  · rw [keptNames_cons_slash]
    exact (joinWith_keptNames_sublist _).cons_cons '/'
  · rw [keptNames_cons_slash, keptNames_cons_slash]
    exact ((joinWith_keptNames_sublist _).cons_cons '/').cons_cons '/'
  · rw [keptNames_cons_slash]
    exact (joinWith_keptNames_sublist _).cons_cons '/'
  · exact joinWith_keptNames_sublist _

theorem stepsOf_tidy : stepsOf (tidy path) = keptNames path := by
  have hnames : ∀ s ∈ keptNames path, s ≠ [] ∧ '/' ∉ s := fun s => ne_nil_of_mem_keptNames
  unfold stepsOf
  rw [tidy_eq h, Path.components_replicate_slash, Path.components_joinWith hnames,
    List.getLast?_append_of_ne_nil _ (joinWith_keptNames_ne_nil h),
    if_neg (Text.getLast?_joinWith_ne hnames), List.append_nil]

end Kept

/-! ## Steps that stay -/

/-- The first list is the second one with some of the steps that stay left out. -/
inductive Shortens : List Text → List Text → Prop
  | nil : Shortens [] []
  | keep (s : Text) {ss ts : List Text} : Shortens ss ts → Shortens (s :: ss) (s :: ts)
  | drop {ss ts : List Text} : Shortens ss ts → Shortens ss (Path.here :: ts)

theorem shortens_append_left (ss : List Text) {ts us : List Text} (h : Shortens ts us) :
    Shortens (ss ++ ts) (ss ++ us) := by
  induction ss with
  | nil => exact h
  | cons s ss ih => exact .keep s ih

theorem shortens_filter (ss : List Text) {ts : List Text} (h : Shortens [] ts) :
    Shortens (ss.filter (· != Path.here)) (ss ++ ts) := by
  induction ss with
  | nil => exact h
  | cons s ss ih =>
    by_cases hs : s = Path.here
    · subst hs
      exact .drop ih
    · rw [List.filter_cons_of_pos (by simpa using hs)]
      exact .keep s ih

theorem shortens_stepsOf (path : Text) : Shortens (keptNames path) (stepsOf path) := by
  apply shortens_filter
  split
  · exact .drop .nil
  · exact .nil

variable (d : Disk)

theorem descend_of_shortens {jump : Trail → List Text → Except Fault Trail}
    {target : Trail} (hjump : ∀ trail ss ts, Shortens ss ts → jump trail ts = .ok target →
      jump trail ss = .ok target)
    {ss ts : List Text} (hs : Shortens ss ts) (trail : Trail)
    (h : descend d jump true trail ts = .ok target) :
    descend d jump true trail ss = .ok target := by
  induction hs generalizing trail with
  | nil => exact h
  | @keep s ss ts hs ih =>
    rw [descend] at h ⊢
    split at h
    · cases h
    rename_i hfolder
    rw [if_neg hfolder]
    split at h
    · rename_i hhere
      rw [if_pos hhere]
      exact ih trail h
    rename_i hhere
    rw [if_neg hhere]
    split at h
    · rename_i hup
      rw [if_pos hup]
      exact ih _ h
    rename_i hup
    rw [if_neg hup]
    split at h
    · cases h
    rename_i hlong
    rw [if_neg hlong]
    -- a link is followed even if it is the last step, so the rest plays no part
    cases hitem : d.item? (trail ++ [s]) with
    | none =>
      rw [hitem] at h
      cases h
    | some item =>
      rw [hitem] at h
      cases item with
      | link link =>
        simp only [Bool.not_true, Bool.and_false, Bool.false_eq_true, if_false] at h ⊢
        exact hjump _ _ _ (shortens_append_left _ hs) h
      | file bytes => exact ih _ h
      | folder => exact ih _ h
  | @drop ss ts hs ih =>
    rw [descend] at h
    split at h
    · cases h
    · exact ih trail h

theorem follow_of_shortens (links : Nat) (trail : Trail) (ss ts : List Text) (target : Trail)
    (hs : Shortens ss ts) (h : d.follow true links trail ts = .ok target) :
    d.follow true links trail ss = .ok target := by
  induction links generalizing trail ss ts with
  | zero =>
    refine descend_of_shortens d ?_ hs trail h
    intro trail ss ts _ h
    cases h
  | succ links ih => exact descend_of_shortens d ih hs trail h

/-! ## Finding and reading -/

theorem locate_eq_ok {followLast : Bool} {path : Text} {trail : Trail}
    (h : d.locate followLast path = .ok trail) :
    d.follow followLast linkLimit [] (stepsOf path) = .ok trail := by
  unfold locate at h
  split at h
  · cases h
  split at h
  · cases h
  split at h
  · cases h
  · exact h

theorem locate_tidy {path : Text} {trail : Trail} (h : keptNames path ≠ [])
    (hlocate : d.locate true path = .ok trail) : d.locate true (tidy path) = .ok trail := by
  have hsub := tidy_sublist h
  have hne : tidy path ≠ [] := by
    intro hnil
    have hsteps := stepsOf_tidy h
    rw [hnil] at hsteps
    exact h hsteps.symm
  unfold locate at hlocate ⊢
  split at hlocate
  · cases hlocate
  rename_i hnul
  split at hlocate
  · cases hlocate
  split at hlocate
  · cases hlocate
  rename_i hlong
  rw [if_neg, if_neg, if_neg, stepsOf_tidy h]
  · exact follow_of_shortens d _ _ _ _ _ (shortens_stepsOf path) hlocate
  · exact fun hlt => hlong (Nat.lt_of_lt_of_le hlt (Text.byteLength_le_of_sublist hsub))
  · simpa using hne
  · rw [List.contains_iff_mem] at hnul ⊢
    exact fun hmem => hnul (hsub.subset hmem)

theorem exists_locate_of_find {path : Text} {item : Item} (h : d.find path = .ok item) :
    ∃ last, d.locate true path = .ok last ∧ d.item? last = some item := by
  unfold find at h
  split at h
  · cases h
  · rename_i last hlast
    split at h
    · cases h
    · rename_i hitem
      cases h
      exact ⟨last, hlast, hitem⟩

/-- A file that a path finds is found by the tidy form of the path. -/
theorem find_tidy {path : Text} {bytes : List UInt8} (h : d.find path = .ok (.file bytes)) :
    d.find (tidy path) = .ok (.file bytes) := by
  unfold find at h
  cases hlocate : d.locate true path with
  | error fault =>
    rw [hlocate] at h
    cases h
  | ok trail =>
    rw [hlocate] at h
    have hkept : keptNames path ≠ [] := by
      intro hnil
      -- without names to follow the path leads to the root, which is a folder
      have hshort := shortens_stepsOf path
      rw [hnil] at hshort
      have hroot := follow_of_shortens d linkLimit [] [] _ trail hshort (locate_eq_ok d hlocate)
      cases hroot
      cases h
    unfold find
    rw [locate_tidy d hkept hlocate]
    exact h

theorem probe_eq_ok {path : Text} {bytes : List UInt8} (h : d.find path = .ok (.file bytes)) :
    d.probe path = .ok (some { isFolder := false, size := bytes.length }) := by
  unfold probe
  rw [h]

theorem read_eq_ok {path t : Text} {bytes : List UInt8} (h : d.find path = .ok (.file bytes))
    (ht : Text.decode? bytes = some t) : d.read path = .ok (Text.unifyBreaks t) := by
  unfold read
  rw [find_tidy d h, Traverse.ok_bind]
  dsimp only
  rw [ht]
  rfl

theorem exists_file_of_probe {path : Text} {found : Probe} (h : d.probe path = .ok (some found))
    (hfile : found.isFolder = false) :
    ∃ bytes, d.find path = .ok (.file bytes) ∧ found.size = bytes.length := by
  unfold probe at h
  split at h
  · rename_i bytes hfind
    cases h
    exact ⟨bytes, hfind, rfl⟩
  · cases h
    cases hfile
  · cases h
  · cases h
  · cases h

theorem exists_text_of_read {path text : Text} {bytes : List UInt8}
    (hfile : d.find path = .ok (.file bytes)) (h : d.read path = .ok text) :
    ∃ t, Text.decode? bytes = some t ∧ text = Text.unifyBreaks t := by
  unfold read at h
  rw [find_tidy d hfile, Traverse.ok_bind] at h
  dsimp only at h
  split at h
  · rename_i t ht
    cases h
    exact ⟨t, ht, rfl⟩
  · cases h

end Storage.Disk

end TagLint
