import TagLint.Proofs.Tag.Comment
import TagLint.Proofs.Text.Search
/-!
Which comment governs a place on a line. A comment stands before the place if its opener ends there
at the latest; it is closed if its closer starts between its opener and the place, and open
otherwise. The comment that governs is the rightmost open one. The search looks at the last opener
of each kind alone. That loses nothing, since what closes the last comment of a kind closes all that
stand before it. But when the last block comment is closed the search takes the last HTML comment as
it is, closed or not: so it is misled exactly if no block comment is left open and an HTML opener
stands right of all that is open.
-/

namespace TagLint.Comment

namespace Form

/-- What opens a comment. -/
def opener : Form → Text
  | slashes => "//".toList
  | hash => "#".toList
  | block => "/*".toList
  | html => "<!--".toList

/-- A comment's opener stands at `p` and ends at `index` at the latest. -/
def Stands (form : Form) (line : Text) (index p : Nat) : Prop :=
  Text.occursAt form.opener line p = true ∧ p + form.opener.length ≤ index

/-- What closes the comment opened at `p` starts behind its opener and before `index`. -/
def IsClosed (form : Form) (line : Text) (index p : Nat) : Prop :=
  ∃ e < index, p + form.opener.length ≤ e ∧ ∃ c ∈ form.closer?, Text.occursAt c line e = true

/-- A comment stands at `p`, and it is not closed before `index`. -/
def Opens (form : Form) (line : Text) (index p : Nat) : Prop :=
  form.Stands line index p ∧ ¬ form.IsClosed line index p

variable {form : Form} {line : Text} {index p q : Nat}

instance : Decidable (form.Stands line index p) := inferInstanceAs (Decidable (_ ∧ _))

instance : Decidable (form.IsClosed line index p) := inferInstanceAs (Decidable (∃ e < index, _))

instance : Decidable (form.Opens line index p) := inferInstanceAs (Decidable (_ ∧ _))

theorem opener_ne_nil (form : Form) : form.opener ≠ [] := by
  cases form <;> exact List.cons_ne_nil _ _

/-- What closes a comment closes all comments of its kind that stand before it. -/
theorem IsClosed.of_le (h : form.IsClosed line index p) (hle : q ≤ p) :
    form.IsClosed line index q := by
  obtain ⟨e, he, hp, hc⟩ := h
  exact ⟨e, he, by omega, hc⟩

/-! ## The last comment of a kind -/

/-- Where the last comment of this kind stands. -/
def last? (form : Form) (line : Text) (index : Nat) : Option Nat :=
  Text.findLastBefore? form.opener line index

theorem stands_of_last? (h : form.last? line index = some p) :
    form.Stands line index p ∧ ∀ q, form.Stands line index q → q ≤ p := by
  obtain ⟨hstands, hlast⟩ := Text.of_findLastBefore?_eq_some form.opener_ne_nil h
  exact ⟨hstands, fun q hq => hlast q hq.1 hq.2⟩

theorem last?_eq_none_iff : form.last? line index = none ↔ ∀ p, ¬ form.Stands line index p :=
  Text.findLastBefore?_eq_none_iff form.opener_ne_nil

/-- Whether the last comment of this kind is closed. -/
def IsLastClosed (form : Form) (line : Text) (index : Nat) : Prop :=
  ∃ p ∈ form.last? line index, form.IsClosed line index p

instance : Decidable (form.IsLastClosed line index) :=
  inferInstanceAs (Decidable (∃ p ∈ form.last? line index, _))

/-- If the last comment of a kind is closed then none of them is open. -/
theorem not_opens_of_isLastClosed (h : form.IsLastClosed line index) (q : Nat) :
    ¬ form.Opens line index q := by
  obtain ⟨p, hp, hclosed⟩ := h
  intro hq
  exact hq.2 (hclosed.of_le ((stands_of_last? hp).2 q hq.1))

/-- A comment that runs to the end of its line is never closed on it. -/
theorem not_isLastClosed (h : form.closer? = none) : ¬ form.IsLastClosed line index := by
  rintro ⟨p, -, e, -, -, c, hc, -⟩
  rw [h] at hc
  cases hc

/-- If the last comment of a kind is not closed then it is the last open one. -/
theorem opens_of_last? (h : ¬ form.IsLastClosed line index) (hp : form.last? line index = some p) :
    form.Opens line index p :=
  ⟨(stands_of_last? hp).1, fun hclosed => h ⟨p, hp, hclosed⟩⟩

end Form

/-- The rightmost open comment, if any is open. -/
def Governs (line : Text) (index : Nat) : Option Nat → Prop
  | none => ∀ (form : Form) p, ¬ form.Opens line index p
  | some p => (∃ form : Form, form.Opens line index p) ∧
      ∀ (form : Form) q, form.Opens line index q → q ≤ p

variable {line : Text} {index : Nat}

/-! ## The search, by the kinds of comment -/

/-- Whether the last comment of a kind is closed is what the search asks. -/
theorem closedBefore_last?_iff {form : Form} {opener closer : String}
    (hopener : form.opener = opener.toList) (hcloser : form.closer? = some closer.toList)
    (hne : closer.toList ≠ []) :
    closedBefore opener closer line index (form.last? line index) = true ↔
      form.IsLastClosed line index := by
  have hlength : form.opener.length = opener.length := by rw [hopener, String.length_toList]
  unfold Form.IsLastClosed Form.IsClosed
  rw [hlength, hcloser]
  cases hlast : form.last? line index with
  | none => simp [closedBefore]
  | some p =>
    rw [closedBefore]
    cases hfind : Text.findFrom? closer.toList line (p + opener.length) with
    | none =>
      have hnone := (Text.findFrom?_eq_none_iff hne).mp hfind
      refine iff_of_false Bool.false_ne_true ?_
      rintro ⟨p', hp', e, -, hle, c, hc, hat⟩
      cases hp'
      cases hc
      exact Bool.false_ne_true ((hnone e hle).symm.trans hat)
    | some e =>
      obtain ⟨hle, hat, hfirst⟩ := Text.of_findFrom?_eq_some hne hfind
      dsimp only
      rw [decide_eq_true_iff]
      constructor
      · intro he
        exact ⟨p, rfl, e, he, hle, _, rfl, hat⟩
      · rintro ⟨p', hp', e', he', hle', c, hc, hat'⟩
        cases hp'
        cases hc
        have hmin := hfirst e' hle' hat'
        omega

/-- The search takes the rightmost of the last comments, and leaves out one kind that is closed. -/
theorem start?_eq (line : Text) (index : Nat) :
    start? line index =
      if Form.block.IsLastClosed line index then
        rightmost ([Form.slashes, .hash, .html].map fun form => form.last? line index)
      else if Form.html.IsLastClosed line index then
        rightmost ([Form.slashes, .hash, .block].map fun form => form.last? line index)
      else
        rightmost ([Form.slashes, .hash, .block, .html].map fun form => form.last? line index) := by
  have hblock : closedBefore "/*" "*/" line index (Form.block.last? line index) = true ↔
      Form.block.IsLastClosed line index := closedBefore_last?_iff rfl rfl (by decide)
  have hhtml : closedBefore "<!--" "-->" line index (Form.html.last? line index) = true ↔
      Form.html.IsLastClosed line index := closedBefore_last?_iff rfl rfl (by decide)
  unfold start?
  exact if_congr hblock rfl (if_congr hhtml rfl rfl)

theorem rightmost_eq_none_iff {ps : List (Option Nat)} :
    rightmost ps = none ↔ ∀ p, some p ∉ ps := by
  rw [rightmost, List.max?_eq_none_iff, List.eq_nil_iff_forall_not_mem]
  simp

theorem rightmost_eq_some_iff {ps : List (Option Nat)} {p : Nat} :
    rightmost ps = some p ↔ some p ∈ ps ∧ ∀ q, some q ∈ ps → q ≤ p := by
  rw [rightmost, List.max?_eq_some_iff]
  simp

/-- The rightmost of the last comments of some kinds governs if each of them has an open comment in
its place or right of it, and no comment of another kind is open. -/
theorem governs_rightmost {forms : List Form}
    (hcovered : ∀ form ∈ forms, ∀ p ∈ form.last? line index,
      ∃ (other : Form) (q : Nat), other.Opens line index q ∧ p ≤ q)
    (hrest : ∀ form ∉ forms, ∀ p, ¬ form.Opens line index p) :
    Governs line index (rightmost (forms.map fun form => form.last? line index)) := by
  have hbound : ∀ (form : Form) q, form.Opens line index q →
      ∃ p, some p ∈ forms.map (fun form => form.last? line index) ∧ q ≤ p := by
    intro form q hq
    have hmem : form ∈ forms := by
      by_contra hnot
      exact hrest form hnot q hq
    cases hlast : form.last? line index with
    | none => exact absurd hq.1 (Form.last?_eq_none_iff.mp hlast q)
    | some p =>
      have hle := (Form.stands_of_last? hlast).2 q hq.1
      exact ⟨p, List.mem_map.mpr ⟨form, hmem, hlast⟩, hle⟩
  cases hright : rightmost (forms.map fun form => form.last? line index) with
  | none =>
    intro form q hq
    obtain ⟨p, hp, -⟩ := hbound form q hq
    exact rightmost_eq_none_iff.mp hright p hp
  | some p =>
    obtain ⟨hmem, hmax⟩ := rightmost_eq_some_iff.mp hright
    have hle : ∀ (form : Form) q, form.Opens line index q → q ≤ p := by
      intro form q hq
      obtain ⟨p', hp', hqp'⟩ := hbound form q hq
      exact Nat.le_trans hqp' (hmax p' hp')
    obtain ⟨form, hform, hlast⟩ := List.mem_map.mp hmem
    obtain ⟨other, q, hq, hpq⟩ := hcovered form hform p hlast
    -- the open comment that covers the rightmost one can only be it
    have heq : q = p := Nat.le_antisymm (hle other q hq) hpq
    exact ⟨⟨other, heq ▸ hq⟩, hle⟩

/-! ## Where the search is misled -/

/-- A block comment stands before the place but none is open there, and an HTML opener stands right
of all that is open. -/
def IsMisled (line : Text) (index : Nat) : Prop :=
  (∃ p, Form.block.Stands line index p) ∧ (∀ p, ¬ Form.block.Opens line index p) ∧
    ∃ p, Form.html.Stands line index p ∧ ∀ (form : Form) q, form.Opens line index q → q < p

theorem isMisled_iff :
    IsMisled line index ↔ Form.block.IsLastClosed line index ∧
      ∃ p ∈ Form.html.last? line index, Form.html.IsClosed line index p ∧
        ∀ (form : Form) q, form.Opens line index q → q < p := by
  constructor
  · rintro ⟨⟨b, hb⟩, hnone, p, hp, hright⟩
    constructor
    · by_contra hopen
      cases hlast : Form.block.last? line index with
      | none => exact Form.last?_eq_none_iff.mp hlast b hb
      | some b' => exact hnone b' (Form.opens_of_last? hopen hlast)
    · cases hlast : Form.html.last? line index with
      | none => exact absurd hp (Form.last?_eq_none_iff.mp hlast p)
      | some p' =>
        obtain ⟨hstands, hle⟩ := Form.stands_of_last? hlast
        have hpp' := hle p hp
        refine ⟨p', rfl, ?_, fun form q hq => Nat.lt_of_lt_of_le (hright form q hq) hpp'⟩
        by_contra hclosed
        have hlt := hright .html p' ⟨hstands, hclosed⟩
        omega
  · rintro ⟨hblock, p, hp, -, hright⟩
    refine ⟨?_, Form.not_opens_of_isLastClosed hblock, p, (Form.stands_of_last? hp).1, hright⟩
    obtain ⟨b, hb, -⟩ := hblock
    exact ⟨b, (Form.stands_of_last? hb).1⟩

/-- Where it is misled, the search finds an HTML comment that is closed. -/
theorem start?_of_isMisled (h : IsMisled line index) :
    ∃ p, start? line index = some p ∧ Form.html.Stands line index p ∧
      Form.html.IsClosed line index p ∧ ∀ (form : Form) q, form.Opens line index q → q < p := by
  obtain ⟨hblock, p, hp, hclosed, hright⟩ := isMisled_iff.mp h
  refine ⟨p, ?_, (Form.stands_of_last? hp).1, hclosed, hright⟩
  rw [start?_eq, if_pos hblock, rightmost_eq_some_iff]
  constructor
  · rw [← Option.mem_def.mp hp]
    simp
  · intro q hq
    obtain ⟨form, hform, hlast⟩ := List.mem_map.mp hq
    by_cases hhtml : form = .html
    · subst hhtml
      rw [Option.mem_def.mp hp, Option.some.injEq] at hlast
      omega
    · have hunclosed : ¬ form.IsLastClosed line index := by
        apply Form.not_isLastClosed
        cases form with
        | slashes => rfl
        | hash => rfl
        | block => simp at hform
        | html => exact absurd rfl hhtml
      have hlt := hright form q (Form.opens_of_last? hunclosed hlast)
      omega

/-- Where it is not misled, the search finds the comment that governs. -/
theorem governs_start? (h : ¬ IsMisled line index) :
    Governs line index (start? line index) := by
  have hself : ∀ form : Form, ¬ form.IsLastClosed line index → ∀ p ∈ form.last? line index,
      ∃ (other : Form) (q : Nat), other.Opens line index q ∧ p ≤ q :=
    fun form hclosed p hp => ⟨form, p, Form.opens_of_last? hclosed hp, Nat.le_refl p⟩
  have hslashes : ¬ Form.slashes.IsLastClosed line index := Form.not_isLastClosed rfl
  have hhash : ¬ Form.hash.IsLastClosed line index := Form.not_isLastClosed rfl
  rw [start?_eq]
  by_cases hblock : Form.block.IsLastClosed line index
  · rw [if_pos hblock]
    apply governs_rightmost
    · intro form hform p hp
      cases form with
      | slashes => exact hself _ hslashes p hp
      | hash => exact hself _ hhash p hp
      | block => simp at hform
      | html =>
        by_cases hhtml : Form.html.IsLastClosed line index
        · obtain ⟨p', hp', hclosed⟩ := hhtml
          cases Option.mem_unique hp hp'
          by_contra hnone
          push Not at hnone
          exact h (isMisled_iff.mpr ⟨hblock, p, hp, hclosed, hnone⟩)
        · exact hself _ hhtml p hp
    · intro form hform
      cases form with
      | block => exact Form.not_opens_of_isLastClosed hblock
      | _ => simp at hform
  rw [if_neg hblock]
  by_cases hhtml : Form.html.IsLastClosed line index
  · rw [if_pos hhtml]
    apply governs_rightmost
    · intro form hform
      cases form with
      | slashes => exact hself _ hslashes
      | hash => exact hself _ hhash
      | block => exact hself _ hblock
      | html => simp at hform
    · intro form hform
      cases form with
      | html => exact Form.not_opens_of_isLastClosed hhtml
      | _ => simp at hform
  · rw [if_neg hhtml]
    apply governs_rightmost
    · intro form _
      cases form with
      | slashes => exact hself _ hslashes
      | hash => exact hself _ hhash
      | block => exact hself _ hblock
      | html => exact hself _ hhtml
    · intro form hform
      cases form <;> simp at hform

/-- The search finds the comment that governs the place, or that there is none, exactly if it is not
misled. Where it is, it finds an HTML comment that is closed. -/
theorem governs_start?_iff (line : Text) (index : Nat) :
    (Governs line index (start? line index) ↔ ¬ IsMisled line index) ∧
      (IsMisled line index → ∃ p, start? line index = some p ∧
        Form.html.Stands line index p ∧ Form.html.IsClosed line index p) := by
  constructor
  · refine ⟨fun hgoverns hmisled => ?_, governs_start?⟩
    obtain ⟨p, hp, -, -, hright⟩ := start?_of_isMisled hmisled
    rw [hp] at hgoverns
    obtain ⟨form, hform⟩ := hgoverns.1
    exact Nat.lt_irrefl p (hright form p hform)
  · intro hmisled
    obtain ⟨p, hp, hstands, hclosed, -⟩ := start?_of_isMisled hmisled
    exact ⟨p, hp, hstands, hclosed⟩

/-- A block comment and an HTML comment, both closed in front of a tag. -/
def bothClosed : Text := "/* a */ <!-- b --> @AI:SYNC c".toList

/-- No comment is open where the tag starts, but the search finds the closed HTML comment. -/
theorem not_governs_start?_bothClosed :
    Text.occursAt Tag.marker bothClosed 19 = true ∧ Governs bothClosed 19 none ∧
      start? bothClosed 19 = some 8 ∧ ¬ Governs bothClosed 19 (start? bothClosed 19) := by
  have hnone : Governs bothClosed 19 none := by
    intro form p hp
    have hle : p < 20 := by
      have hstop := hp.1.2
      omega
    revert hp
    revert p
    cases form <;> decide
  have hstart : start? bothClosed 19 = some 8 := by decide
  refine ⟨by decide, hnone, hstart, fun hgoverns => ?_⟩
  rw [hstart] at hgoverns
  obtain ⟨form, hform⟩ := hgoverns.1
  exact hnone form 8 hform

end TagLint.Comment
