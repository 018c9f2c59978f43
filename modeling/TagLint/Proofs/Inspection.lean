import TagLint.Inspection
import TagLint.Proofs.Reference.Totality
import TagLint.Proofs.Tag.Scan
/-!
What there is to say about a document, tag by tag. The findings about a document are those about its
tags, each judged by itself; but one tag that cannot be judged leaves the whole document without
findings. A tag can be judged unless its grace leaves the calendar or one of its tokens has a line
number with too many digits.
-/

namespace TagLint

open Calendar

/-- The finding is of the kind of the tag and stands where the tag stands. -/
structure Finding.IsAbout (f : Finding) (tag : Tag) : Prop where
  kind : f.kind = tag.kind
  line : f.line = tag.line
  start : f.start = tag.start
  stop : f.stop = tag.stop

theorem Finding.isAbout_ofTag (tag : Tag) (message : Text) : (ofTag tag message).IsAbout tag :=
  ⟨rfl, rfl, rfl, rfl⟩

/-! ## Expiry tags -/

namespace Expiry

variable {policy : Policy} {now : Instant}

/-- So many days of grace can be added to the instant. -/
def GraceFits (t : Instant) (days : Int) : Prop :=
  0 < days → days ≤ longestSpan ∧ (t.addDays days).inCalendar = true

theorem exists_addGrace_eq_ok_iff (t : Instant) (days : Int) :
    (∃ s, addGrace t days = .ok s) ↔ GraceFits t days := by
  unfold addGrace GraceFits
  by_cases hnone : days ≤ 0
  · rw [if_pos hnone]
    exact ⟨fun _ hpos => absurd hnone (Int.not_le.mpr hpos), fun _ => ⟨t, rfl⟩⟩
  rw [if_neg hnone]
  by_cases hlong : longestSpan < days
  · rw [if_pos hlong]
    constructor
    · rintro ⟨s, hs⟩
      cases hs
    · intro h
      exact absurd hlong (Int.not_lt.mpr (h (Int.not_le.mp hnone)).1)
  rw [if_neg hlong]
  dsimp only
  by_cases hin : (t.addDays days).inCalendar = true
  · rw [if_pos hin]
    exact ⟨fun _ _ => ⟨Int.not_lt.mp hlong, hin⟩, fun _ => ⟨_, rfl⟩⟩
  · rw [if_neg hin]
    constructor
    · rintro ⟨s, hs⟩
      cases hs
    · intro h
      exact absurd (h (Int.not_le.mp hnone)).2 hin

/-- The deadline of the tag, if it has one, can be put off by the days of grace. -/
def IsInRange (policy : Policy) (tag : Tag) : Prop :=
  Text.find? placeholder tag.payload = none →
    ∀ e, ofPayload? tag.payload = some e → GraceFits e.expiresAt policy.graceDays

theorem exists_judge_eq_ok_iff {tag : Tag} (hkind : tag.kind = .expiry) :
    (∃ found, judge policy now tag = .ok found) ↔ IsInRange policy tag := by
  unfold judge IsInRange
  rw [if_neg (by simp [hkind])]
  cases hplace : Text.find? placeholder tag.payload with
  | some i => exact ⟨fun _ h => (by cases h), fun _ => ⟨none, rfl⟩⟩
  | none =>
    rw [if_neg (by simp)]
    cases hpayload : ofPayload? tag.payload with
    | none => exact ⟨fun _ _ e he => (by cases he), fun _ => ⟨_, rfl⟩⟩
    | some e =>
      dsimp only
      constructor
      · rintro ⟨found, h⟩
        rintro - e' he
        cases he
        obtain ⟨deadline, hdeadline, -⟩ := Traverse.bind_eq_ok.mp h
        exact (exists_addGrace_eq_ok_iff _ _).mp ⟨deadline, hdeadline⟩
      · intro h
        obtain ⟨deadline, hdeadline⟩ := (exists_addGrace_eq_ok_iff _ _).mpr (h rfl e rfl)
        rw [hdeadline]
        exact ⟨_, rfl⟩

theorem isAbout_of_judge {tag : Tag} {f : Finding} (h : judge policy now tag = .ok (some f)) :
    f.IsAbout tag := by
  unfold judge at h
  split at h
  · cases h
  split at h
  · cases h
  split at h
  · split at h
    · cases h
      exact Finding.isAbout_ofTag tag _
    · cases h
  · obtain ⟨deadline, -, h⟩ := Traverse.bind_eq_ok.mp h
    split at h
    · cases h
      exact Finding.isAbout_ofTag tag _
    · cases h

theorem exists_findings_eq_ok_iff (policy : Policy) (now : Instant) (tags : List Tag) :
    (∃ fs, findings policy now tags = .ok fs) ↔
      (policy.enabled = true → ∀ tag ∈ tags, ∃ found, judge policy now tag = .ok found) :=
  Traverse.exists_ite_mapM_eq_ok_iff policy.enabled _ _ _ tags

theorem mem_findings {tags : List Tag} {fs : List Finding}
    (h : findings policy now tags = .ok fs) (f : Finding) :
    f ∈ fs ↔ policy.enabled = true ∧ ∃ tag ∈ tags, judge policy now tag = .ok (some f) := by
  unfold findings at h
  split at h
  · rename_i henabled
    obtain ⟨found, hfound, h⟩ := Traverse.bind_eq_ok.mp h
    cases h
    rw [← Traverse.mem_of_mapM_eq_ok hfound]
    simp [henabled]
  · rename_i henabled
    cases h
    simp [henabled]

end Expiry

/-! ## Sync tags -/

namespace Reference

variable {w : Workspace} {document : Text}

/-- No token of the tag has a line number with too many digits. -/
def IsInRange (tag : Tag) : Prop := ∀ token ∈ tokens tag.payload, ¬ HasLongNumeral token

/-- Whether sync tags are judged at all. -/
def Policy.isActive (policy : Policy) : Bool := policy.enabled && policy.warnOnMissing

theorem exists_judge_eq_ok_iff (hfiles : w.files.IsTolerable) {tag : Tag}
    (hkind : tag.kind = .sync) :
    (∃ found, judge w document tag = .ok found) ↔ IsInRange tag := by
  unfold judge
  rw [if_neg (by simp [hkind])]
  constructor
  · rintro ⟨found, h⟩ token ht hlong
    obtain ⟨ts, hts, -⟩ := Traverse.bind_eq_ok.mp h
    exact not_exists_targets_eq_ok w document false ht hlong ⟨ts, hts⟩
  · intro h
    obtain ⟨ts, hts, -⟩ := exists_targets_eq_ok hfiles document false h
    rw [hts]
    exact ⟨_, rfl⟩

theorem isAbout_of_mem_judge {tag : Tag} {fs : List Finding} (h : judge w document tag = .ok fs)
    {f : Finding} (hf : f ∈ fs) : f.IsAbout tag := by
  unfold judge at h
  split at h
  · cases h
    cases hf
  · obtain ⟨ts, -, h⟩ := Traverse.bind_eq_ok.mp h
    cases h
    obtain ⟨o, -, rfl⟩ := List.mem_map.mp hf
    exact Finding.isAbout_ofTag tag _

theorem exists_findings_eq_ok_iff (policy : Policy) (w : Workspace) (document : Text)
    (tags : List Tag) :
    (∃ fs, findings policy w document tags = .ok fs) ↔
      (policy.isActive = true → ∀ tag ∈ tags, ∃ found, judge w document tag = .ok found) :=
  Traverse.exists_ite_mapM_eq_ok_iff policy.isActive _ _ _ tags

theorem mem_findings {policy : Policy} {tags : List Tag} {fs : List Finding}
    (h : findings policy w document tags = .ok fs) (f : Finding) :
    f ∈ fs ↔
      policy.isActive = true ∧ ∃ tag ∈ tags, ∃ gs, judge w document tag = .ok gs ∧ f ∈ gs := by
  unfold findings at h
  split at h
  · rename_i hactive
    obtain ⟨found, hfound, h⟩ := Traverse.bind_eq_ok.mp h
    cases h
    have hpolicy : policy.isActive = true := hactive
    rw [List.mem_flatten]
    constructor
    · rintro ⟨gs, hgs, hf⟩
      obtain ⟨tag, htag, hjudge⟩ := (Traverse.mem_of_mapM_eq_ok hfound gs).mp hgs
      exact ⟨hpolicy, tag, htag, gs, hjudge, hf⟩
    · rintro ⟨-, tag, htag, gs, hjudge, hf⟩
      exact ⟨gs, (Traverse.mem_of_mapM_eq_ok hfound gs).mpr ⟨tag, htag, hjudge⟩, hf⟩
  · rename_i hactive
    cases h
    have hpolicy : policy.isActive ≠ true := hactive
    simp [hpolicy]

end Reference

/-! ## Single tags -/

namespace Tag

/-- The findings about one tag of a document. -/
def judge (settings : Settings) (w : Workspace) (document : Text) (now : Instant) (tag : Tag) :
    Except Failure (List Finding) :=
  match tag.kind with
  | .expiry =>
    if settings.expiry.enabled then (Expiry.judge settings.expiry now tag).map Option.toList
    else .ok []
  | .sync => if settings.sync.isActive then Reference.judge w document tag else .ok []

/-- The tag can be judged: no deadline and no line number that counts is out of range. -/
def IsInRange (settings : Settings) (tag : Tag) : Prop :=
  match tag.kind with
  | .expiry => settings.expiry.enabled = true → Expiry.IsInRange settings.expiry tag
  | .sync => settings.sync.isActive = true → Reference.IsInRange tag

variable {settings : Settings} {w : Workspace} {document : Text} {now : Instant} {tag : Tag}

theorem judge_of_expiry (hkind : tag.kind = .expiry) :
    judge settings w document now tag =
      if settings.expiry.enabled then (Expiry.judge settings.expiry now tag).map Option.toList
      else .ok [] := by
  unfold judge
  rw [hkind]

theorem judge_of_sync (hkind : tag.kind = .sync) :
    judge settings w document now tag =
      if settings.sync.isActive then Reference.judge w document tag else .ok [] := by
  unfold judge
  rw [hkind]

theorem isInRange_of_expiry (hkind : tag.kind = .expiry) :
    IsInRange settings tag ↔
      (settings.expiry.enabled = true → Expiry.IsInRange settings.expiry tag) := by
  unfold IsInRange
  rw [hkind]

theorem isInRange_of_sync (hkind : tag.kind = .sync) :
    IsInRange settings tag ↔ (settings.sync.isActive = true → Reference.IsInRange tag) := by
  unfold IsInRange
  rw [hkind]

theorem mem_judge_of_expiry {gs : List Finding} (hkind : tag.kind = .expiry)
    (h : judge settings w document now tag = .ok gs) {f : Finding} (hf : f ∈ gs) :
    settings.expiry.enabled = true ∧ Expiry.judge settings.expiry now tag = .ok (some f) := by
  rw [judge_of_expiry hkind] at h
  split at h
  · rename_i henabled
    cases hone : Expiry.judge settings.expiry now tag with
    | error failure =>
      rw [hone] at h
      cases h
    | ok found =>
      rw [hone] at h
      cases h
      rw [Option.mem_toList] at hf
      exact ⟨henabled, congrArg Except.ok hf⟩
  · cases h
    cases hf

theorem mem_judge_of_sync {gs : List Finding} (hkind : tag.kind = .sync)
    (h : judge settings w document now tag = .ok gs) {f : Finding} (hf : f ∈ gs) :
    settings.sync.isActive = true ∧ Reference.judge w document tag = .ok gs := by
  rw [judge_of_sync hkind] at h
  split at h
  · rename_i hactive
    exact ⟨hactive, h⟩
  · cases h
    cases hf

theorem isAbout_of_mem_judge {gs : List Finding} (h : judge settings w document now tag = .ok gs)
    {f : Finding} (hf : f ∈ gs) : f.IsAbout tag := by
  cases hkind : tag.kind with
  | expiry => exact Expiry.isAbout_of_judge (mem_judge_of_expiry hkind h hf).2
  | sync => exact Reference.isAbout_of_mem_judge (mem_judge_of_sync hkind h hf).2 hf

end Tag

/-! ## Whole documents -/

namespace Document

variable {settings : Settings} {w : Workspace} {now : Instant} {d : Document}

theorem mem_filter_tags {kind : Tag.Kind} {tag : Tag} :
    tag ∈ d.tags.filter (·.kind = kind) ↔ tag ∈ d.tags ∧ tag.kind = kind := by
  rw [List.mem_filter, decide_eq_true_iff]

/-- There are findings about a document exactly when each of its tags can be judged. -/
theorem exists_findings_eq_ok_iff (hfiles : w.files.IsTolerable) :
    (∃ fs, d.findings settings w now = .ok fs) ↔ ∀ tag ∈ d.tags, tag.IsInRange settings := by
  have hexpiry := Expiry.exists_findings_eq_ok_iff settings.expiry now
    (d.tags.filter (·.kind = .expiry))
  have hsync := Reference.exists_findings_eq_ok_iff settings.sync w d.path
    (d.tags.filter (·.kind = .sync))
  constructor
  · rintro ⟨fs, h⟩ tag htag
    obtain ⟨expired, he, h⟩ := Traverse.bind_eq_ok.mp h
    obtain ⟨missing, hm, -⟩ := Traverse.bind_eq_ok.mp h
    cases hkind : tag.kind with
    | expiry =>
      rw [Tag.isInRange_of_expiry hkind]
      intro henabled
      rw [← Expiry.exists_judge_eq_ok_iff hkind]
      exact hexpiry.mp ⟨expired, he⟩ henabled tag (mem_filter_tags.mpr ⟨htag, hkind⟩)
    | sync =>
      rw [Tag.isInRange_of_sync hkind]
      intro hactive
      rw [← Reference.exists_judge_eq_ok_iff hfiles hkind]
      exact hsync.mp ⟨missing, hm⟩ hactive tag (mem_filter_tags.mpr ⟨htag, hkind⟩)
  · intro h
    obtain ⟨expired, he⟩ := hexpiry.mpr fun henabled tag htag => by
      obtain ⟨htag, hkind⟩ := mem_filter_tags.mp htag
      rw [Expiry.exists_judge_eq_ok_iff hkind]
      exact (Tag.isInRange_of_expiry hkind).mp (h tag htag) henabled
    obtain ⟨missing, hm⟩ := hsync.mpr fun hactive tag htag => by
      obtain ⟨htag, hkind⟩ := mem_filter_tags.mp htag
      rw [Reference.exists_judge_eq_ok_iff hfiles hkind]
      exact (Tag.isInRange_of_sync hkind).mp (h tag htag) hactive
    unfold findings
    rw [he, Traverse.ok_bind, hm]
    exact ⟨_, rfl⟩

/-- The findings about a document are those about its tags. -/
theorem mem_findings {fs : List Finding} (h : d.findings settings w now = .ok fs) (f : Finding) :
    f ∈ fs ↔ ∃ tag ∈ d.tags, ∃ gs, tag.judge settings w d.path now = .ok gs ∧ f ∈ gs := by
  obtain ⟨expired, he, h⟩ := Traverse.bind_eq_ok.mp h
  obtain ⟨missing, hm, h⟩ := Traverse.bind_eq_ok.mp h
  cases h
  rw [List.mem_append, Expiry.mem_findings he, Reference.mem_findings hm]
  constructor
  · rintro (⟨henabled, tag, htag, hjudge⟩ | ⟨hactive, tag, htag, gs, hjudge, hf⟩)
    · obtain ⟨htag, hkind⟩ := mem_filter_tags.mp htag
      refine ⟨tag, htag, [f], ?_, List.mem_singleton_self f⟩
      rw [Tag.judge_of_expiry hkind, if_pos henabled, hjudge]
      rfl
    · obtain ⟨htag, hkind⟩ := mem_filter_tags.mp htag
      refine ⟨tag, htag, gs, ?_, hf⟩
      rw [Tag.judge_of_sync hkind, if_pos hactive, hjudge]
  · rintro ⟨tag, htag, gs, hjudge, hf⟩
    cases hkind : tag.kind with
    | expiry =>
      obtain ⟨henabled, hone⟩ := Tag.mem_judge_of_expiry hkind hjudge hf
      exact Or.inl ⟨henabled, tag, mem_filter_tags.mpr ⟨htag, hkind⟩, hone⟩
    | sync =>
      obtain ⟨hactive, hone⟩ := Tag.mem_judge_of_sync hkind hjudge hf
      exact Or.inr ⟨hactive, tag, mem_filter_tags.mpr ⟨htag, hkind⟩, gs, hone, hf⟩

/-- The finding is about this tag of the document, and it is made when the other tag lines that are
no fence lines are emptied. -/
def IsFoundAlone (d : Document) (settings : Settings) (w : Workspace) (now : Instant) (tag : Tag)
    (f : Finding) : Prop :=
  tag ∈ d.tags ∧ f.line = tag.line ∧
    ∃ fs, (d.isolate tag.line).findings settings w now = .ok fs ∧ f ∈ fs

/-- A finding made about a tag by itself is a finding about the document, if there are any. -/
theorem IsFoundAlone.mem_findings {tag : Tag} {f : Finding}
    (halone : d.IsFoundAlone settings w now tag f) {fs : List Finding}
    (h : d.findings settings w now = .ok fs) : f ∈ fs := by
  obtain ⟨htag, hline, gs, hgs, hf⟩ := halone
  obtain ⟨t, ht, hs, hjudge, hfhs⟩ := (Document.mem_findings hgs f).mp hf
  rw [path_isolate] at hjudge
  have hteq : t = tag := by
    apply eq_of_mem_tags (mem_tags_of_isolate ht) htag
    rw [← (Tag.isAbout_of_mem_judge hjudge hfhs).line, hline]
  subst hteq
  exact (Document.mem_findings h f).mpr ⟨t, htag, hs, hjudge, hfhs⟩

end Document

end TagLint
