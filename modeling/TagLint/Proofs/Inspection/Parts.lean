import TagLint.Proofs.Expiry.Deadline
import TagLint.Proofs.Inspection
import TagLint.Storage.Staged
/-!
The two parts of what is found in a document: first the findings about expiry tags, then those about
sync tags. In each part they stand in blocks, one for each tag, in the order of the lines. The block
of an expiry tag is one finding at most; that of a sync tag has one finding for each target that is
missing. Neither part depends on what only the other one asks for (`findings_inParts`).
-/

namespace TagLint

open Calendar

/-! ## Blocks -/

namespace Finding

/-- The findings of one kind. -/
def ofKind (kind : Tag.Kind) (fs : List Finding) : List Finding := fs.filter (·.kind = kind)

/-- Findings in blocks, one for each tag. -/
def AreAbout (tags : List Tag) (blocks : List (List Finding)) : Prop :=
  List.Forall₂ (fun tag block => ∀ f ∈ block, f.IsAbout tag) tags blocks

variable {tags : List Tag} {blocks : List (List Finding)} {kind : Tag.Kind}

theorem AreAbout.exists_isAbout (h : AreAbout tags blocks) {f : Finding}
    (hf : f ∈ blocks.flatten) : ∃ tag ∈ tags, f.IsAbout tag := by
  induction h with
  | nil => cases hf
  | cons hblock _ ih =>
    rcases List.mem_append.mp hf with hf | hf
    · exact ⟨_, List.mem_cons_self, hblock f hf⟩
    · obtain ⟨tag, htag, habout⟩ := ih hf
      exact ⟨tag, List.mem_cons_of_mem _ htag, habout⟩

/-- Findings about tags on different lines are in order if those of each block are. -/
theorem AreAbout.pairwise_flatten {r : Finding → Finding → Prop} (h : AreAbout tags blocks)
    (htags : tags.Pairwise fun t t' => t.line < t'.line) (hr : ∀ f g, f.line < g.line → r f g)
    (hblocks : List.Forall₂ (fun _ block => block.Pairwise r) tags blocks) :
    blocks.flatten.Pairwise r := by
  induction h with
  | nil => exact List.Pairwise.nil
  | cons hblock hrest ih =>
    rw [List.pairwise_cons] at htags
    obtain ⟨hfirst, hblocks⟩ := List.forall₂_cons.mp hblocks
    rw [List.flatten_cons, List.pairwise_append]
    refine ⟨hfirst, ih htags.2 hblocks, fun f hf g hg => hr f g ?_⟩
    obtain ⟨tag, htag, habout⟩ := AreAbout.exists_isAbout hrest hg
    rw [(hblock f hf).line, habout.line]
    exact htags.1 tag htag

/-- What holds of each tag and its block holds of the tag and the findings on its line. -/
theorem AreAbout.on_line {r : Tag → List Finding → Prop} (h : AreAbout tags blocks)
    (htags : tags.Pairwise fun t t' => t.line < t'.line) (hr : List.Forall₂ r tags blocks)
    {tag : Tag} (htag : tag ∈ tags) : r tag (blocks.flatten.filter (·.line = tag.line)) := by
  induction h with
  | nil => cases htag
  | @cons first block tags blocks hblock hrest ih =>
    rw [List.pairwise_cons] at htags
    obtain ⟨hfirst, hr⟩ := List.forall₂_cons.mp hr
    rw [List.flatten_cons, List.filter_append]
    rcases List.mem_cons.mp htag with rfl | htag
    · have hall : block.filter (·.line = tag.line) = block := by
        rw [List.filter_eq_self]
        exact fun f hf => decide_eq_true (hblock f hf).line
      have hnone : blocks.flatten.filter (·.line = tag.line) = [] := by
        rw [List.filter_eq_nil_iff]
        intro f hf
        obtain ⟨later, hlater, habout⟩ := AreAbout.exists_isAbout hrest hf
        have hless := htags.1 later hlater
        rw [decide_eq_true_iff, habout.line]
        omega
      rw [hall, hnone, List.append_nil]
      exact hfirst
    · have hnone : block.filter (·.line = tag.line) = [] := by
        rw [List.filter_eq_nil_iff]
        intro f hf
        have hless := htags.1 tag htag
        rw [decide_eq_true_iff, (hblock f hf).line]
        omega
      rw [hnone, List.nil_append]
      exact ih htags.2 hr htag

theorem AreAbout.ofKind_eq (h : AreAbout tags blocks) (hkind : ∀ tag ∈ tags, tag.kind = kind)
    (other : Tag.Kind) :
    ofKind other blocks.flatten = if kind = other then blocks.flatten else [] := by
  have hall : ∀ f ∈ blocks.flatten, f.kind = kind := by
    intro f hf
    obtain ⟨tag, htag, habout⟩ := h.exists_isAbout hf
    rw [habout.kind, hkind tag htag]
  unfold ofKind
  split
  · rename_i hsame
    rw [List.filter_eq_self]
    exact fun f hf => decide_eq_true ((hall f hf).trans hsame)
  · rename_i hdifferent
    rw [List.filter_eq_nil_iff]
    intro f hf
    rw [decide_eq_true_iff, hall f hf]
    exact hdifferent

end Finding

/-! ## Tag by tag -/

namespace Expiry

theorem exists_blocks {policy : Policy} {now : Instant} {tags : List Tag} {fs : List Finding}
    (h : findings policy now tags = .ok fs) :
    ∃ blocks, fs = blocks.flatten ∧
      List.Forall₂ (fun tag block =>
        (if policy.enabled then (judge policy now tag).map Option.toList else .ok []) =
          .ok block) tags blocks := by
  unfold findings at h
  split at h
  · rename_i henabled
    obtain ⟨found, hfound, h⟩ := Traverse.bind_eq_ok.mp h
    cases h
    refine ⟨found.map Option.toList, List.filterMap_eq_flatMap_toList id found, ?_⟩
    rw [List.forall₂_map_right_iff]
    refine ((Traverse.mapM_eq_ok_iff _ _ _).mp hfound).imp fun tag found hjudge => ?_
    rw [if_pos henabled, hjudge]
    rfl
  · rename_i henabled
    cases h
    refine ⟨tags.map fun _ => [], by simp, ?_⟩
    rw [List.forall₂_map_right_iff, List.forall₂_same]
    exact fun tag _ => if_neg henabled

end Expiry

namespace Reference

variable {w : Workspace} {document token : Text} {tag : Tag}

theorem exists_blocks {policy : Policy} {tags : List Tag} {fs : List Finding}
    (h : findings policy w document tags = .ok fs) :
    ∃ blocks, fs = blocks.flatten ∧
      List.Forall₂ (fun tag block =>
        (if policy.isActive then judge w document tag else .ok []) = .ok block) tags blocks := by
  unfold findings at h
  split at h
  · rename_i hactive
    obtain ⟨found, hfound, h⟩ := Traverse.bind_eq_ok.mp h
    cases h
    refine ⟨found, rfl, ((Traverse.mapM_eq_ok_iff _ _ _).mp hfound).imp fun tag block hjudge => ?_⟩
    rw [Policy.isActive, if_pos hactive, hjudge]
  · rename_i hactive
    cases h
    refine ⟨tags.map fun _ => [], by simp, ?_⟩
    rw [List.forall₂_map_right_iff, List.forall₂_same]
    exact fun tag _ => if_neg hactive

/-- The token can be read, and its path leads to a file or folder. -/
def Resolves (w : Workspace) (document token : Text) : Prop :=
  ∃ r place, ofToken token = .ok r ∧ locate w document r.path = .ok (.ok place)

/-- The target of a token while no folder is expanded. -/
inductive IsTargetOf (w : Workspace) (document token : Text) : Target → Prop
  | found {r : Reference} {location : Text} {isFolder : Bool} (hr : ofToken token = .ok r)
    (hplace : locate w document r.path = .ok (.ok (location, isFolder))) :
    IsTargetOf w document token (.found token location isFolder false r.place)
  | missing {r : Reference} {o : Obstacle} (hr : ofToken token = .ok r)
    (hplace : locate w document r.path = .ok (.error o)) :
    IsTargetOf w document token (.missing token o)

theorem IsTargetOf.obstacle?_eq_none_iff {t : Target} (h : IsTargetOf w document token t) :
    t.obstacle? = none ↔ Resolves w document token := by
  cases h with
  | found hr hplace => exact ⟨fun _ => ⟨_, _, hr, hplace⟩, fun _ => rfl⟩
  | missing hr hplace =>
    refine ⟨nofun, ?_⟩
    rintro ⟨r, place, hr', hplace'⟩
    rw [hr] at hr'
    cases hr'
    rw [hplace] at hplace'
    cases hplace'

theorem exists_isTargetOf {ts : List Target} (h : targetsOfToken w document false token = .ok ts) :
    ∃ t, ts = [t] ∧ IsTargetOf w document token t := by
  unfold targetsOfToken at h
  obtain ⟨r, hr, h⟩ := Traverse.bind_eq_ok.mp h
  obtain ⟨found, hfound, h⟩ := Traverse.bind_eq_ok.mp h
  cases found with
  | error o =>
    cases h
    exact ⟨_, rfl, .missing hr hfound⟩
  | ok found =>
    obtain ⟨location, isFolder⟩ := found
    dsimp only at h
    rw [Bool.and_false, if_neg Bool.false_ne_true] at h
    cases h
    exact ⟨_, rfl, .found hr hfound⟩

theorem forall₂_isTargetOf {payload : Text} {ts : List Target}
    (h : targets w document payload false = .ok ts) (hsome : tokens payload ≠ []) :
    List.Forall₂ (IsTargetOf w document) (tokens payload) ts := by
  rw [targets_eq, if_neg hsome] at h
  obtain ⟨found, hfound, hts⟩ := Traverse.bind_eq_ok.mp h
  cases hts
  rw [Traverse.mapM_eq_ok_iff] at hfound
  clear h hsome
  generalize tokens payload = texts at hfound ⊢
  induction hfound with
  | nil => exact .nil
  | cons htoken _ ih =>
    obtain ⟨t, rfl, ht⟩ := exists_isTargetOf htoken
    exact .cons ht ih

/-- The findings about a sync tag by the targets of its payload: there is one for each target that
is missing, in the order of the tokens, so there is none exactly if there are tokens and each of
them resolves. -/
structure Tells (w : Workspace) (document : Text) (tag : Tag) (ts : List Target)
    (fs : List Finding) : Prop where
  targets : targets w document tag.payload false = .ok ts
  ordered : tokens tag.payload ≠ [] → List.Forall₂ (IsTargetOf w document) (tokens tag.payload) ts
  findings : fs = (ts.filterMap Target.obstacle?).map fun o => Finding.ofTag tag o.message
  length : fs.length = ts.countP fun t => t.obstacle?.isSome
  nil_iff : fs = [] ↔
    tokens tag.payload ≠ [] ∧ ∀ token ∈ tokens tag.payload, Resolves w document token

theorem filterMap_obstacle?_eq_nil_iff {texts : List Text} {ts : List Target}
    (h : List.Forall₂ (IsTargetOf w document) texts ts) :
    ts.filterMap Target.obstacle? = [] ↔ ∀ token ∈ texts, Resolves w document token := by
  induction h with
  | nil => simp
  | cons htoken _ ih =>
    rw [List.forall_mem_cons, ← ih, ← htoken.obstacle?_eq_none_iff, List.filterMap_eq_nil_iff,
      List.filterMap_eq_nil_iff, List.forall_mem_cons]

theorem exists_tells_of_judge (hkind : tag.kind = .sync) {fs : List Finding}
    (h : judge w document tag = .ok fs) : ∃ ts, Tells w document tag ts fs := by
  unfold judge at h
  rw [if_neg (not_not.mpr hkind)] at h
  obtain ⟨ts, hts, h⟩ := Traverse.bind_eq_ok.mp h
  cases h
  refine ⟨ts, hts, forall₂_isTargetOf hts, rfl, ?_, ?_⟩
  · rw [List.length_map, List.length_filterMap_eq_countP]
  · rw [List.map_eq_nil_iff]
    by_cases hsome : tokens tag.payload = []
    · rw [targets_eq, if_pos hsome] at hts
      cases hts
      simp [Target.obstacle?, hsome]
    · rw [filterMap_obstacle?_eq_nil_iff (forall₂_isTargetOf hts hsome), and_iff_right hsome]

end Reference

namespace Tag

variable {settings settings' : Settings} {w w' : Workspace} {document : Text} {now now' : Instant}
  {tag : Tag}

/-- An expiry tag has one finding at most. -/
theorem pairwise_of_judge {r : Finding → Finding → Prop} (hkind : tag.kind = .expiry)
    {fs : List Finding} (h : judge settings w document now tag = .ok fs) : fs.Pairwise r := by
  have hone : ∃ found : Option Finding, fs = found.toList := by
    rw [judge_of_expiry hkind] at h
    split at h
    · cases hfound : Expiry.judge settings.expiry now tag with
      | error failure =>
        rw [hfound] at h
        cases h
      | ok found =>
        rw [hfound] at h
        cases h
        exact ⟨found, rfl⟩
    · cases h
      exact ⟨none, rfl⟩
  obtain ⟨found, rfl⟩ := hone
  cases found with
  | none => exact List.Pairwise.nil
  | some f => exact List.pairwise_singleton r f

theorem judge_congr_of_expiry (hkind : tag.kind = .expiry)
    (hsettings : settings'.expiry = settings.expiry) :
    judge settings' w' document now tag = judge settings w document now tag := by
  rw [judge_of_expiry hkind, judge_of_expiry hkind, hsettings]

theorem judge_congr_of_sync (hkind : tag.kind = .sync)
    (hsettings : settings'.sync = settings.sync) :
    judge settings' w document now' tag = judge settings w document now tag := by
  rw [judge_of_sync hkind, judge_of_sync hkind, hsettings]

end Tag

/-! ## Both parts -/

namespace Document

variable {settings settings' : Settings} {w w' : Workspace} {now now' : Instant} {d : Document}
  {fs fs' : List Finding} {kind : Tag.Kind}

/-- The tags of one kind. -/
def tagsOf (d : Document) (kind : Tag.Kind) : List Tag := d.tags.filter (·.kind = kind)

theorem pairwise_line_tagsOf (d : Document) (kind : Tag.Kind) :
    (d.tagsOf kind).Pairwise fun t t' => t.line < t'.line := (pairwise_line_tags d).filter _

theorem forall₂_tagsOf_imp {blocks : List (List Finding)} {r q : Tag → List Finding → Prop}
    (h : List.Forall₂ r (d.tagsOf kind) blocks)
    (himp : ∀ tag block, tag.kind = kind → r tag block → q tag block) :
    List.Forall₂ q (d.tagsOf kind) blocks := by
  have hkind : ∀ tag ∈ d.tagsOf kind, tag.kind = kind := fun tag htag => (mem_filter_tags.mp htag).2
  exact ((List.forall₂_and_left _ _).mpr ⟨hkind, h⟩).imp fun tag block h => himp tag block h.1 h.2

/-- Blocks of findings, one for each tag of a kind. -/
def Judges (d : Document) (settings : Settings) (w : Workspace) (now : Instant)
    (kind : Tag.Kind) (blocks : List (List Finding)) : Prop :=
  List.Forall₂ (fun tag block => tag.judge settings w d.path now = .ok block) (d.tagsOf kind) blocks

theorem Judges.areAbout {blocks : List (List Finding)} (h : d.Judges settings w now kind blocks) :
    Finding.AreAbout (d.tagsOf kind) blocks :=
  h.imp fun _ _ hjudge _ hf => Tag.isAbout_of_mem_judge hjudge hf

theorem Judges.ofKind_eq {blocks : List (List Finding)} (h : d.Judges settings w now kind blocks)
    (other : Tag.Kind) :
    Finding.ofKind other blocks.flatten = if kind = other then blocks.flatten else [] :=
  h.areAbout.ofKind_eq (fun _ htag => (mem_filter_tags.mp htag).2) other

/-- The findings of each kind stand in blocks, and those about expiry tags come first. -/
theorem exists_judges (h : d.findings settings w now = .ok fs) :
    fs = Finding.ofKind .expiry fs ++ Finding.ofKind .sync fs ∧
      ∀ kind, ∃ blocks, d.Judges settings w now kind blocks ∧
        Finding.ofKind kind fs = blocks.flatten := by
  obtain ⟨fs₁, hexpiry, h⟩ := Traverse.bind_eq_ok.mp h
  obtain ⟨fs₂, hsync, h⟩ := Traverse.bind_eq_ok.mp h
  cases h
  obtain ⟨expired, rfl, hexpired⟩ := Expiry.exists_blocks hexpiry
  obtain ⟨missing, rfl, hmissing⟩ := Reference.exists_blocks hsync
  have hfirst : d.Judges settings w now .expiry expired :=
    forall₂_tagsOf_imp hexpired fun tag block hkind hjudge => by
      rw [Tag.judge_of_expiry hkind, hjudge]
  have hsecond : d.Judges settings w now .sync missing :=
    forall₂_tagsOf_imp hmissing fun tag block hkind hjudge => by
      rw [Tag.judge_of_sync hkind, hjudge]
  have hofKind : ∀ other, Finding.ofKind other (expired.flatten ++ missing.flatten) =
      (if .expiry = other then expired.flatten else []) ++
        if .sync = other then missing.flatten else [] := by
    intro other
    rw [← hfirst.ofKind_eq, ← hsecond.ofKind_eq]
    exact List.filter_append _ _
  refine ⟨?_, fun kind => ?_⟩
  · rw [hofKind, hofKind]
    simp
  · rw [hofKind]
    cases kind with
    | expiry => exact ⟨expired, hfirst, by simp⟩
    | sync => exact ⟨missing, hsecond, by simp⟩

/-- Where the tags of a kind are judged alike, the findings of that kind are the same. -/
theorem ofKind_eq_of_judge_eq (h : d.findings settings w now = .ok fs)
    (h' : d.findings settings' w' now' = .ok fs')
    (hsame : ∀ tag : Tag, tag.kind = kind →
      tag.judge settings' w' d.path now' = tag.judge settings w d.path now) :
    Finding.ofKind kind fs' = Finding.ofKind kind fs := by
  obtain ⟨blocks, hblocks, heq⟩ := (exists_judges h).2 kind
  obtain ⟨blocks', hblocks', heq'⟩ := (exists_judges h').2 kind
  have hjudges : d.Judges settings w now kind blocks' :=
    forall₂_tagsOf_imp hblocks' fun tag block hkind hjudge => by
      rw [← hsame tag hkind, hjudge]
  have hunique : Relator.RightUnique fun (tag : Tag) (block : List Finding) =>
      tag.judge settings w d.path now = .ok block :=
    fun _ _ _ h h' => Except.ok.inj (h.symm.trans h')
  rw [heq, heq', hunique.forall₂ hjudges hblocks]

/-- The findings about a document have two parts, each in the order of the lines: those about expiry
tags, at most one on each line, and those about sync tags. Every finding stands where a tag of its
kind stands. On the line of a sync tag there is one finding for each target of its payload that is
missing, if sync tags are judged. The first part does not depend on the workspace, its files or how
sync tags are judged, and the second one neither on the clock nor on how expiry tags are judged. -/
theorem findings_inParts (h : d.findings settings w now = .ok fs) :
    fs = Finding.ofKind .expiry fs ++ Finding.ofKind .sync fs ∧
    (Finding.ofKind .expiry fs).Pairwise (fun f g => f.line < g.line) ∧
    (Finding.ofKind .sync fs).Pairwise (fun f g => f.line ≤ g.line) ∧
    (∀ f ∈ fs, ∃ tag ∈ d.tags, f.IsAbout tag) ∧
    (settings.sync.isActive = true → ∀ tag ∈ d.tags, tag.kind = .sync →
      ∃ ts, Reference.Tells w d.path tag ts
        ((Finding.ofKind .sync fs).filter (·.line = tag.line))) ∧
    (∀ (settings' : Settings) (w' : Workspace) (fs' : List Finding),
      settings'.expiry = settings.expiry → d.findings settings' w' now = .ok fs' →
        Finding.ofKind .expiry fs' = Finding.ofKind .expiry fs) ∧
    ∀ (settings' : Settings) (now' : Instant) (fs' : List Finding),
      settings'.sync = settings.sync → d.findings settings' w now' = .ok fs' →
        Finding.ofKind .sync fs' = Finding.ofKind .sync fs := by
  obtain ⟨hparts, hblocks⟩ := exists_judges h
  obtain ⟨expired, hexpired, hfirst⟩ := hblocks .expiry
  obtain ⟨missing, hmissing, hsecond⟩ := hblocks .sync
  refine ⟨hparts, ?_, ?_, fun f hf => ?_, fun hactive tag htag hkind => ?_,
    fun settings' w' fs' hsame h' => ?_, fun settings' now' fs' hsame h' => ?_⟩
  · rw [hfirst]
    refine hexpired.areAbout.pairwise_flatten (pairwise_line_tagsOf d .expiry) (fun _ _ => id) ?_
    exact forall₂_tagsOf_imp hexpired fun tag block hkind hjudge =>
      Tag.pairwise_of_judge hkind hjudge
  · rw [hsecond]
    refine hmissing.areAbout.pairwise_flatten (pairwise_line_tagsOf d .sync)
      (fun _ _ => Nat.le_of_lt) (hmissing.areAbout.imp fun tag block habout => ?_)
    refine List.pairwise_of_forall_mem_list fun f hf g hg => ?_
    rw [(habout f hf).line, (habout g hg).line]
  · obtain ⟨blocks, hjudges, heq⟩ := hblocks f.kind
    have hf' : f ∈ Finding.ofKind f.kind fs := List.mem_filter.mpr ⟨hf, decide_eq_true rfl⟩
    rw [heq] at hf'
    obtain ⟨tag, htag, habout⟩ := hjudges.areAbout.exists_isAbout hf'
    exact ⟨tag, (mem_filter_tags.mp htag).1, habout⟩
  · have hjudge := hmissing.areAbout.on_line (pairwise_line_tagsOf d .sync) hmissing
      (mem_filter_tags.mpr ⟨htag, hkind⟩)
    rw [Tag.judge_of_sync hkind, if_pos hactive] at hjudge
    rw [hsecond]
    exact Reference.exists_tells_of_judge hkind hjudge
  · exact ofKind_eq_of_judge_eq h h' fun tag hkind => Tag.judge_congr_of_expiry hkind hsame
  · exact ofKind_eq_of_judge_eq h h' fun tag hkind => Tag.judge_congr_of_sync hkind hsame

/-- The only file that the sample refers to and that is there. -/
def sampleWorkspace : Workspace :=
  .ofFolders ['/'] ["/ws".toList] <|
    .ofStages [("/ws/a.py".toList, { probe := some (.ok { isFolder := false, size := 1 }) })]

/-- Tags of both kinds in turn: a sync tag with two targets that are missing, one with a target that
is there, and one without a target. -/
def sampleTurns : Document where
  path := "/ws/b.py".toList
  lines := ["# @AI:SYNC gone.py, a.py, lost.py", "# @AI:EXPIRY 2000-01-01", "# @AI:SYNC a.py",
    "# @AI:EXPIRY soon", "# @AI:SYNC"].map String.toList

/-- On the first day of the year 2026. -/
def sampleFindings : List Finding :=
  [⟨1, 2, 23, "@AI:EXPIRY expired on 2000-01-01 UTC".toList, .expiry⟩,
    ⟨3, 2, 17, "@AI:EXPIRY format invalid. Use YYYY-MM-DD [TZ]".toList, .expiry⟩,
    ⟨0, 2, 33, "@AI:SYNC target not found: gone.py".toList, .sync⟩,
    ⟨0, 2, 33, "@AI:SYNC target not found: lost.py".toList, .sync⟩,
    ⟨4, 2, 10, "@AI:SYNC missing file path".toList, .sync⟩]

theorem findings_inParts_sample :
    sampleTurns.findings {} sampleWorkspace Expiry.newYear.instant = .ok sampleFindings ∧
      (Finding.ofKind .expiry sampleFindings).Pairwise (fun f g => f.line < g.line) ∧
      ∀ (settings : Settings) (now : Instant) (fs : List Finding), settings.sync = {} →
        sampleTurns.findings settings sampleWorkspace now = .ok fs →
          Finding.ofKind .sync fs = sampleFindings.drop 2 := by
  have hfindings : sampleTurns.findings {} sampleWorkspace Expiry.newYear.instant =
      .ok sampleFindings := by
    decide +kernel
  obtain ⟨-, hexpiry, -, -, -, -, hsync⟩ := findings_inParts hfindings
  exact ⟨hfindings, hexpiry, fun settings now fs hsame h => hsync settings now fs hsame h⟩

end Document

end TagLint
