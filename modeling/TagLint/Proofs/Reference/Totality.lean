import TagLint.Proofs.Reference.Destination
import TagLint.Proofs.Reference.Suffix
import TagLint.Proofs.Storage.Faults
import TagLint.Proofs.Tag.Key
import TagLint.Proofs.Text.Pieces
/-!
When the targets of a payload can be told. On a file system whose faults may all be passed over the
only thing that can go wrong is a line number with more digits than are read; without one there is
a target for every token, and at least one target.
-/

namespace TagLint.Reference

/-! ## Tokens -/

theorem withoutFinalBreak_of_mem_tokens {payload token : Text} (h : token ∈ tokens payload) :
    Tag.withoutFinalBreak token = token := by
  apply Tag.withoutFinalBreak_of_not_isBlank
  intro c hc
  unfold tokens at h
  split at h
  · obtain ⟨piece, -, rfl⟩ := List.mem_map.mp (List.mem_filter.mp h).1
    exact Text.not_isBlank_of_getLast?_trim hc
  · exact Text.not_isBlank_of_mem_words h c (List.mem_of_getLast? hc)

theorem tokens_of_unbroken {t : Text} (hne : t ≠ [])
    (h : ∀ c ∈ t, c ≠ ',' ∧ Text.isBlank c = false) : tokens t = [t] := by
  have hcomma : t.contains ',' = false := by
    rw [Bool.eq_false_iff, Ne, List.contains_iff_mem]
    exact fun hc => (h ',' hc).1 rfl
  unfold tokens
  rw [hcomma, if_neg Bool.false_ne_true, Text.words_of_unbroken hne fun c hc => (h c hc).2]

/-! ## One token -/

variable {w : Workspace}

theorem exists_probe_eq_ok (hfiles : w.files.IsTolerable) (p : Text) :
    ∃ found, probe w.files p = .ok found := by
  unfold probe
  cases h : w.files.probe p with
  | ok found => exact ⟨found, rfl⟩
  | error fault =>
    dsimp only
    rw [if_pos (hfiles.probe p fault h)]
    exact ⟨none, rfl⟩

theorem exists_expand_eq_ok (hfiles : w.files.IsTolerable) (token folder : Text) (place : Place) :
    ∃ ts, expand w token folder place = .ok ts ∧ ts ≠ [] := by
  unfold expand
  cases h : w.files.list folder with
  | error fault =>
    dsimp only
    rw [if_pos (hfiles.list folder fault h)]
    exact ⟨_, rfl, List.cons_ne_nil _ _⟩
  | ok entries =>
    dsimp only
    split
    · exact ⟨_, rfl, List.cons_ne_nil _ _⟩
    · rename_i hne
      refine ⟨_, rfl, ?_⟩
      rw [Ne, List.map_eq_nil_iff]
      simpa using hne

theorem exists_targetsAt_eq_ok (hfiles : w.files.IsTolerable) (expandFolders : Bool)
    (token : Text) (r : Reference) (target : Text) :
    ∃ ts, targetsAt w expandFolders token r target = .ok ts ∧ ts ≠ [] := by
  obtain ⟨found, hfound⟩ := exists_probe_eq_ok hfiles target
  unfold targetsAt
  rw [hfound, Traverse.ok_bind]
  cases found with
  | none => exact ⟨_, rfl, List.cons_ne_nil _ _⟩
  | some found =>
    dsimp only
    split
    · exact exists_expand_eq_ok hfiles token target r.place
    · exact ⟨_, rfl, List.cons_ne_nil _ _⟩

theorem exists_targetsOfToken_eq_ok (hfiles : w.files.IsTolerable) (document : Text)
    (expandFolders : Bool) {token : Text}
    (h : ¬ HasLongNumeral (Tag.withoutFinalBreak token)) :
    ∃ ts, targetsOfToken w document expandFolders token = .ok ts ∧ ts ≠ [] := by
  obtain ⟨r, hr⟩ := exists_ofToken_eq_ok h
  rw [targetsOfToken_eq, hr, Traverse.ok_bind]
  cases destination w document r.path with
  | error o => exact ⟨_, rfl, List.cons_ne_nil _ _⟩
  | ok target => exact exists_targetsAt_eq_ok hfiles expandFolders token r target

theorem targetsOfToken_eq_error (document : Text) (expandFolders : Bool) {token : Text}
    (h : HasLongNumeral (Tag.withoutFinalBreak token)) :
    ∃ n, Failure.digitLimit < n ∧
      targetsOfToken w document expandFolders token = .error (.longNumeral n) := by
  obtain ⟨n, hn, herror⟩ := ofToken_eq_error h
  refine ⟨n, hn, ?_⟩
  rw [targetsOfToken_eq, herror]
  rfl

/-! ## A whole payload -/

theorem exists_targets_eq_ok (hfiles : w.files.IsTolerable) (document : Text) {payload : Text}
    (expandFolders : Bool) (h : ∀ token ∈ tokens payload, ¬ HasLongNumeral token) :
    ∃ ts, targets w document payload expandFolders = .ok ts ∧ ts ≠ [] := by
  have htoken : ∀ token ∈ tokens payload,
      ∃ ts, targetsOfToken w document expandFolders token = .ok ts ∧ ts ≠ [] := by
    intro token ht
    apply exists_targetsOfToken_eq_ok hfiles
    rw [withoutFinalBreak_of_mem_tokens ht]
    exact h token ht
  rw [targets_eq]
  cases htokens : tokens payload with
  | nil => exact ⟨_, rfl, List.cons_ne_nil _ _⟩
  | cons token rest =>
    rw [htokens] at htoken
    rw [if_neg (List.cons_ne_nil token rest)]
    obtain ⟨found, hfound⟩ := (Traverse.exists_mapM_eq_ok_iff _ _).mpr fun t ht =>
      (htoken t ht).imp fun _ hts => hts.1
    obtain ⟨ts, hts, hne⟩ := htoken token List.mem_cons_self
    have hmem : ts ∈ found :=
      (Traverse.mem_of_mapM_eq_ok hfound ts).mpr ⟨token, List.mem_cons_self, hts⟩
    refine ⟨found.flatten, by rw [hfound]; rfl, ?_⟩
    rw [Ne, List.flatten_eq_nil_iff]
    intro hnil
    exact hne (hnil ts hmem)

theorem targets_eq_error (hfiles : w.files.IsTolerable) (document : Text) {payload : Text}
    (expandFolders : Bool) {failure : Failure}
    (h : targets w document payload expandFolders = .error failure) :
    ∃ n, Failure.digitLimit < n ∧ failure = .longNumeral n := by
  rw [targets_eq] at h
  split at h
  · cases h
  · rcases Traverse.bind_eq_error.mp h with h | ⟨found, -, h⟩
    · obtain ⟨token, -, htoken⟩ := Traverse.exists_of_mapM_eq_error h
      by_cases hlong : HasLongNumeral (Tag.withoutFinalBreak token)
      · obtain ⟨n, hn, herror⟩ := targetsOfToken_eq_error (w := w) document expandFolders hlong
        rw [htoken] at herror
        exact ⟨n, hn, Except.error.inj herror⟩
      · obtain ⟨ts, hts, -⟩ := exists_targetsOfToken_eq_ok hfiles document expandFolders hlong
        rw [htoken] at hts
        cases hts
    · cases h

theorem not_exists_targets_eq_ok (w : Workspace) (document : Text) {payload token : Text}
    (expandFolders : Bool) (ht : token ∈ tokens payload) (hlong : HasLongNumeral token) :
    ¬ ∃ ts, targets w document payload expandFolders = .ok ts := by
  rintro ⟨ts, hts⟩
  rw [targets_eq, if_neg (List.ne_nil_of_mem ht)] at hts
  obtain ⟨found, hfound, -⟩ := Traverse.bind_eq_ok.mp hts
  obtain ⟨ts', hts'⟩ := (Traverse.exists_mapM_eq_ok_iff _ _).mp ⟨found, hfound⟩ token ht
  rw [← withoutFinalBreak_of_mem_tokens ht] at hlong
  obtain ⟨n, -, herror⟩ := targetsOfToken_eq_error (w := w) document expandFolders hlong
  rw [hts'] at herror
  cases herror

/-- The targets of a payload can be told exactly when no token has a line number with too many
digits, and then there is at least one; no other failure occurs. -/
theorem targets_eq_ok_iff (hfiles : w.files.IsTolerable) (document payload : Text)
    (expandFolders : Bool) :
    ((∃ ts, targets w document payload expandFolders = .ok ts ∧ ts ≠ []) ↔
      ∀ token ∈ tokens payload, ¬ HasLongNumeral token) ∧
    ∀ failure, targets w document payload expandFolders = .error failure →
      ∃ n, Failure.digitLimit < n ∧ failure = .longNumeral n := by
  refine ⟨⟨?_, exists_targets_eq_ok hfiles document expandFolders⟩,
    fun failure => targets_eq_error hfiles document expandFolders⟩
  rintro ⟨ts, hts, -⟩ token ht hlong
  exact not_exists_targets_eq_ok w document expandFolders ht hlong ⟨ts, hts⟩

/-- A tree with a place that may not be looked at and a folder that may not be listed. -/
def faultyTree : Storage.FileSystem :=
  .ofStages [("/ws/locked".toList, { probe := some (.error .refused) }),
    ("/ws/src".toList, {
      probe := some (.ok { isFolder := true, size := 0 })
      list := some (.error (.invalid "injected".toList)) })]

theorem targets_eq_ok_iff_faultyTree :
    faultyTree.IsTolerable ∧ ∀ token ∈ tokens "locked:L3-l12, src/, ../../secret".toList,
      ¬ HasLongNumeral token := by
  have hfiles : faultyTree.IsTolerable := by
    apply Storage.isTolerable_ofStages
    simp [Storage.Tolerable, Storage.Fault.isTolerable]
  have htargets : targets (Workspace.ofFolders ['/'] ["/ws".toList] faultyTree)
      "/ws/docs/a.md".toList "locked:L3-l12, src/, ../../secret".toList true =
      .ok [.missing "locked:L3-l12".toList (.notFound "locked".toList "/ws/locked".toList),
        .missing "src/".toList (.unreadableFolder "src/".toList),
        .missing "../../secret".toList .outside] := by
    decide
  refine ⟨hfiles, ?_⟩
  exact (targets_eq_ok_iff (w := Workspace.ofFolders ['/'] ["/ws".toList] faultyTree) hfiles _ _
    true).1.mp ⟨_, htargets, List.cons_ne_nil _ _⟩

/-- A token whose line number has one digit too many. -/
def overlongToken : Text := "a:L".toList ++ List.replicate (Failure.digitLimit + 1) '1'

theorem hasLongNumeral_overlongToken : HasLongNumeral overlongToken := by
  have hnumeral : isNumeral (List.replicate (Failure.digitLimit + 1) '1') = true := by
    rw [isNumeral_iff]
    refine ⟨by simp, ?_⟩
    intro c hc
    rw [List.eq_of_mem_replicate hc]
    rfl
  have hlong : Failure.digitLimit < (List.replicate (Failure.digitLimit + 1) '1').length := by
    rw [List.length_replicate]
    exact Nat.lt_succ_self _
  exact ⟨['a'], _, _, none, rfl, .single (c := 'L') rfl hnumeral, Or.inl hlong⟩

theorem mem_overlongToken {c : Char} (h : c ∈ overlongToken) : c ∈ "a:L1".toList := by
  rcases List.mem_append.mp h with h | h
  · exact List.mem_append_left ['1'] h
  · rw [List.eq_of_mem_replicate h]
    decide

/-- One numeral that is too long, and no target of the payload is told at all. -/
theorem not_exists_targets_overlongToken :
    (Storage.FileSystem.ofStages []).IsTolerable ∧
      ¬ ∃ ts, targets (Workspace.ofFolders ['/'] [] (.ofStages [])) "/a.md".toList overlongToken
        false = .ok ts := by
  refine ⟨Storage.isTolerable_ofStages (List.forall_mem_nil _), ?_⟩
  have htokens : tokens overlongToken = [overlongToken] := by
    apply tokens_of_unbroken (List.cons_ne_nil _ _)
    intro c hc
    have hall : "a:L1".toList.all (fun c => c != ',' && !Text.isBlank c) = true := by decide
    have hone := List.all_eq_true.mp hall c (mem_overlongToken hc)
    simpa using hone
  exact not_exists_targets_eq_ok _ _ false (htokens ▸ List.mem_cons_self)
    hasLongNumeral_overlongToken

end TagLint.Reference
