import TagLint.Text.Lines
import Mathlib.Data.List.Basic
import Mathlib.Data.List.Chain
/-!
How a text is laid out in lines. A layout is a list of lines, each with its terminator, and perhaps
one more line that is not ended. Every text has a layout, and its lines are those of the layout
whatever the terminators are; so writing all terminators alike leaves the lines as they are.
-/

namespace TagLint.Text

/-- What ends a line. -/
inductive Terminator where
  | lf
  | crlf
  | cr
deriving DecidableEq

/-- The characters of a terminator. -/
def Terminator.text : Terminator → Text
  | lf => ['\n']
  | crlf => ['\r', '\n']
  | cr => ['\r']

/-- A text without the characters that end lines. -/
def IsUnbroken (t : Text) : Prop := '\r' ∉ t ∧ '\n' ∉ t

instance (t : Text) : Decidable (IsUnbroken t) := inferInstanceAs (Decidable (_ ∧ _))

/-- Lines with their terminators, and the line after them, if there is one. -/
structure Layout where
  ended : List (Text × Terminator)
  last : Option Text

namespace Layout

/-- The text that is laid out in this way. -/
def text (w : Layout) : Text :=
  w.ended.flatMap (fun l => l.1 ++ l.2.text) ++ w.last.getD []

/-- The lines, whatever ends them. -/
def lines (w : Layout) : List Text := w.ended.map (·.1) ++ w.last.toList

/-- No line holds a character that ends lines, a lone CR is not followed by the LF of an empty line,
and a line that is not ended is not empty. -/
structure IsProper (w : Layout) : Prop where
  unbroken : ∀ l ∈ w.lines, IsUnbroken l
  parted : w.ended.IsChain fun a b => a.2 = .cr → b ≠ ([], .lf)
  last : ∀ l ∈ w.last, l ≠ []

end Layout

/-! ## Stretches -/

theorem stretches_cons_of_unbroken {c : Char} (hcr : c ≠ '\r') (hlf : c ≠ '\n') {t p : Text}
    {ps : List Text} (ht : stretches t = p :: ps) : stretches (c :: t) = (c :: p) :: ps := by
  rw [stretches.eq_3 c t fun _ hc _ => hcr hc, if_neg (not_or.mpr ⟨hcr, hlf⟩), ht]

theorem exists_stretches_eq_cons (t : Text) : ∃ p ps, stretches t = p :: ps := by
  apply List.exists_cons_of_ne_nil
  fun_cases stretches t <;> simp

theorem isUnbroken_cons {c : Char} {l : Text} :
    IsUnbroken (c :: l) ↔ (c ≠ '\r' ∧ c ≠ '\n') ∧ IsUnbroken l := by
  unfold IsUnbroken
  rw [List.mem_cons, List.mem_cons, not_or, not_or, and_and_and_comm, ne_comm, @ne_comm _ c '\n']

theorem isUnbroken_append {s t : Text} :
    IsUnbroken (s ++ t) ↔ IsUnbroken s ∧ IsUnbroken t := by
  unfold IsUnbroken
  rw [List.mem_append, List.mem_append, not_or, not_or, and_and_and_comm]

theorem stretches_append_of_unbroken {l : Text} (hl : IsUnbroken l) {t p : Text} {ps : List Text}
    (ht : stretches t = p :: ps) : stretches (l ++ t) = (l ++ p) :: ps := by
  induction l with
  | nil => exact ht
  | cons c l ih =>
    obtain ⟨⟨hcr, hlf⟩, hl⟩ := isUnbroken_cons.mp hl
    exact stretches_cons_of_unbroken hcr hlf (ih hl)

/-- A terminator ends a stretch, unless it is a CR with an LF behind it. -/
theorem stretches_terminator_append (e : Terminator) {t : Text}
    (h : e = .cr → t.head? ≠ some '\n') : stretches (e.text ++ t) = [] :: stretches t := by
  cases e with
  | lf => rfl
  | crlf => rfl
  | cr =>
    have hlone : ∀ r, '\r' = '\r' → t = '\n' :: r → False := by
      rintro r - rfl
      exact h rfl rfl
    show stretches ('\r' :: t) = [] :: stretches t
    rw [stretches.eq_3 '\r' t hlone, if_pos (Or.inl rfl)]

/-- Writing all terminators alike changes no stretch. -/
theorem stretches_unifyBreaks (t : Text) : stretches (unifyBreaks t) = stretches t := by
  fun_induction unifyBreaks t with
  | case1 => rfl
  | case2 r ih => exact congrArg ([] :: ·) ih
  | case3 c r hlone ih =>
    by_cases hbreak : c = '\r' ∨ c = '\n'
    · have hlf : (if c = '\r' then '\n' else c) = '\n' := by
        rcases hbreak with rfl | rfl <;> rfl
      rw [hlf, stretches.eq_3 c r hlone, if_pos hbreak, ← ih]
      exact stretches_terminator_append .lf fun h => by cases h
    · rw [not_or] at hbreak
      obtain ⟨p, ps, hr⟩ := exists_stretches_eq_cons r
      rw [if_neg hbreak.1, stretches_cons_of_unbroken hbreak.1 hbreak.2 hr,
        stretches_cons_of_unbroken hbreak.1 hbreak.2 (ih.trans hr)]

/-- The lines of a text do not depend on which terminators it has. -/
theorem lines_unifyBreaks (t : Text) : lines (unifyBreaks t) = lines t := by
  unfold lines
  rw [stretches_unifyBreaks]

/-! ## Layouts -/

namespace Layout

/-- The layout with one more line in front. -/
def cons (l : Text) (e : Terminator) (w : Layout) : Layout where
  ended := (l, e) :: w.ended
  last := w.last

@[simp] theorem text_cons (l : Text) (e : Terminator) (w : Layout) :
    (w.cons l e).text = l ++ (e.text ++ w.text) := by
  simp [text, cons]

@[simp] theorem lines_cons (l : Text) (e : Terminator) (w : Layout) :
    (w.cons l e).lines = l :: w.lines := rfl

variable {w : Layout} {l : Text} {e : Terminator}

/-- A text begins with an LF only if its first line is empty and ended by it. -/
theorem head?_text_iff (h : ∀ l ∈ w.lines, IsUnbroken l) :
    w.text.head? = some '\n' ↔ w.ended.head? = some ([], .lf) := by
  obtain ⟨ended, last⟩ := w
  cases ended with
  | nil =>
    cases last with
    | none => simp [text]
    | some l =>
      have hl := (h l List.mem_cons_self).2
      simp only [text, List.flatMap_nil, List.nil_append, Option.getD_some, List.head?_nil]
      exact iff_of_false (fun hhead => hl (List.mem_of_head? hhead)) nofun
  | cons first rest =>
    obtain ⟨l, e⟩ := first
    have hl := (h l List.mem_cons_self).2
    show (text (cons l e ⟨rest, last⟩)).head? = some '\n' ↔ some (l, e) = some ([], .lf)
    rw [text_cons]
    cases l with
    | nil => cases e <;> simp [Terminator.text]
    | cons c l =>
      have hc : c ≠ '\n' := fun hc => hl (hc ▸ List.mem_cons_self)
      simp [hc]

theorem isProper_cons_iff : (w.cons l e).IsProper ↔
    IsUnbroken l ∧ (e = .cr → w.text.head? ≠ some '\n') ∧ w.IsProper := by
  constructor
  · rintro ⟨hunbroken, hparted, hlast⟩
    rw [lines_cons, List.forall_mem_cons] at hunbroken
    obtain ⟨hfirst, hrest⟩ := List.isChain_cons.mp hparted
    refine ⟨hunbroken.1, fun he hhead => ?_, hunbroken.2, hrest, hlast⟩
    exact hfirst _ ((head?_text_iff hunbroken.2).mp hhead) he rfl
  · rintro ⟨hl, hparted, hw⟩
    refine ⟨?_, List.isChain_cons.mpr ⟨?_, hw.parted⟩, hw.last⟩
    · rw [lines_cons, List.forall_mem_cons]
      exact ⟨hl, hw.unbroken⟩
    · rintro b hb he rfl
      exact hparted he ((head?_text_iff hw.unbroken).mpr hb)

theorem IsProper.isUnbroken_last (hw : w.IsProper) : IsUnbroken (w.last.getD []) := by
  cases hlast : w.last with
  | none => exact ⟨nofun, nofun⟩
  | some l =>
    apply hw.unbroken l
    unfold lines
    rw [hlast]
    exact List.mem_append_right _ (List.mem_singleton_self l)

/-- The stretches of a text are its lines and what stands behind the last terminator. -/
theorem IsProper.stretches_text (hw : w.IsProper) :
    stretches w.text = w.ended.map (·.1) ++ [w.last.getD []] := by
  obtain ⟨ended, last⟩ := w
  induction ended with
  | nil =>
    have h := stretches_append_of_unbroken hw.isUnbroken_last (show stretches [] = [[]] from rfl)
    rw [List.append_nil] at h
    exact h
  | cons first rest ih =>
    obtain ⟨l, e⟩ := first
    change (cons l e ⟨rest, last⟩).IsProper at hw
    obtain ⟨hl, hparted, hrest⟩ := isProper_cons_iff.mp hw
    show stretches (text (cons l e ⟨rest, last⟩)) = l :: (_ ++ _)
    rw [text_cons, stretches_append_of_unbroken hl (stretches_terminator_append e hparted),
      List.append_nil, ih hrest]

/-- The lines of a text are those of its layout. -/
theorem IsProper.lines_text (hw : w.IsProper) : Text.lines w.text = w.lines := by
  unfold Text.lines lines
  rw [hw.stretches_text]
  cases hlast : w.last with
  | none => simp
  | some l => simp [hw.last l hlast]

/-- Every text has a layout. -/
theorem exists_eq_text (t : Text) : ∃ w : Layout, w.IsProper ∧ w.text = t := by
  induction t using unifyBreaks.induct with
  | case1 => exact ⟨⟨[], none⟩, ⟨nofun, List.isChain_nil, nofun⟩, rfl⟩
  | case2 r ih =>
    obtain ⟨w, hw, rfl⟩ := ih
    refine ⟨w.cons [] .crlf, isProper_cons_iff.mpr ⟨by decide, nofun, hw⟩, ?_⟩
    rw [text_cons]
    rfl
  | case3 c r hlone ih =>
    obtain ⟨w, hw, rfl⟩ := ih
    by_cases hcr : c = '\r'
    · subst hcr
      refine ⟨w.cons [] .cr, isProper_cons_iff.mpr ⟨by decide, fun _ hhead => ?_, hw⟩, ?_⟩
      · obtain ⟨r, hr⟩ := List.head?_eq_some_iff.mp hhead
        exact hlone r rfl hr
      · rw [text_cons]
        rfl
    by_cases hlf : c = '\n'
    · subst hlf
      refine ⟨w.cons [] .lf, isProper_cons_iff.mpr ⟨by decide, nofun, hw⟩, ?_⟩
      rw [text_cons]
      rfl
    -- any other character belongs to the line that it stands in front of
    obtain ⟨ended, last⟩ := w
    cases ended with
    | nil =>
      have hlast : IsUnbroken (c :: last.getD []) :=
        isUnbroken_cons.mpr ⟨⟨hcr, hlf⟩, hw.isUnbroken_last⟩
      refine ⟨⟨[], some (c :: last.getD [])⟩, ⟨?_, List.isChain_nil, ?_⟩, rfl⟩
      · exact List.forall_mem_singleton.mpr hlast
      · rintro l hl rfl
        cases hl
    | cons first rest =>
      obtain ⟨l, e⟩ := first
      change (cons l e ⟨rest, last⟩).IsProper at hw
      obtain ⟨hl, hparted, hrest⟩ := isProper_cons_iff.mp hw
      refine ⟨cons (c :: l) e ⟨rest, last⟩, isProper_cons_iff.mpr ⟨?_, hparted, hrest⟩, ?_⟩
      · exact isUnbroken_cons.mpr ⟨⟨hcr, hlf⟩, hl⟩
      · show _ = c :: text (cons l e ⟨rest, last⟩)
        rw [text_cons, text_cons]
        rfl

end Layout

/-- No character but a terminator ends a line. -/
theorem lines_of_isUnbroken {t : Text} (hne : t ≠ []) (h : IsUnbroken t) : lines t = [t] := by
  have hw : Layout.IsProper ⟨[], some t⟩ := by
    refine ⟨List.forall_mem_singleton.mpr h, List.isChain_nil, ?_⟩
    rintro l hl rfl
    cases hl
    exact hne rfl
  exact hw.lines_text

end TagLint.Text
