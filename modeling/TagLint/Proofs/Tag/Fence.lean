import TagLint.Tag.Fence
import TagLint.Proofs.Text.Pieces
import Mathlib.Data.List.TakeWhile
/-!
The mask of a document and its blocks. Lines are divided into plain lines, which are no fences, and
blocks: a fence, a body without fences of the same character, and one more such fence, which only a
block at the very end may lack. Every list of lines is divided in one way, and the mask marks the
bodies.
-/

namespace TagLint.Fence

/-! ## Fence lines -/

/-- A line that starts with at least three characters of a fence, after blanks if any. -/
def IsFence (mark : Mark) (line : Text) : Prop :=
  ∃ gap n rest, Text.IsGap gap ∧ 3 ≤ n ∧ line = gap ++ (List.replicate n mark.char ++ rest)

theorem not_isBlank_char (mark : Mark) : Text.isBlank mark.char = false := by
  cases mark <;> decide

theorem char_injective : Function.Injective Mark.char := by
  intro mark mark' h
  cases mark with
  | backtick =>
    cases mark' with
    | backtick => rfl
    | tilde => exact absurd h (by decide)
  | tilde =>
    cases mark' with
    | backtick => exact absurd h (by decide)
    | tilde => rfl

theorem isFence_iff {mark : Mark} {line : Text} :
    IsFence mark line ↔ List.replicate 3 mark.char <+: Text.trimLeft line := by
  unfold Text.trimLeft
  constructor
  · rintro ⟨gap, n, rest, hgap, hn, rfl⟩
    obtain ⟨k, rfl⟩ := Nat.exists_eq_add_of_le hn
    have hstay : ¬ Text.isBlank mark.char = true := by
      rw [not_isBlank_char]
      exact Bool.false_ne_true
    rw [List.dropWhile_append_of_pos hgap, List.replicate_add, List.append_assoc,
      List.replicate_succ, List.cons_append, List.dropWhile_cons_of_neg hstay,
      List.cons_prefix_cons]
    exact ⟨rfl, List.prefix_append _ _⟩
  · rintro ⟨rest, hrest⟩
    refine ⟨line.takeWhile Text.isBlank, 3, rest, fun c hc => List.mem_takeWhile_imp hc,
      Nat.le_refl 3, ?_⟩
    rw [hrest, List.takeWhile_append_dropWhile]

/-- A line is a fence of one character at most. -/
theorem IsFence.mark_eq {mark mark' : Mark} {line : Text} (h : IsFence mark line)
    (h' : IsFence mark' line) : mark = mark' := by
  obtain ⟨rest, hrest⟩ := isFence_iff.mp h
  obtain ⟨rest', hrest'⟩ := isFence_iff.mp h'
  have hfirst : some mark.char = some mark'.char := congrArg List.head? (hrest.trans hrest'.symm)
  exact char_injective (Option.some.inj hfirst)

theorem ofLine?_eq_some_iff {mark : Mark} {line : Text} :
    ofLine? line = some mark ↔ IsFence mark line := by
  have hbacktick : IsFence .backtick line ↔
      List.replicate 3 Mark.backtick.char <+: Text.trimLeft line := isFence_iff
  have htilde : IsFence .tilde line ↔
      List.replicate 3 Mark.tilde.char <+: Text.trimLeft line := isFence_iff
  rw [← List.isPrefixOf_iff_prefix] at hbacktick htilde
  unfold ofLine?
  dsimp only
  split
  · rename_i h
    rw [Option.some.injEq]
    exact ⟨fun heq => heq ▸ hbacktick.mpr h, fun hfence => (hbacktick.mpr h).mark_eq hfence⟩
  · rename_i hnot
    split
    · rename_i h
      rw [Option.some.injEq]
      exact ⟨fun heq => heq ▸ htilde.mpr h, fun hfence => (htilde.mpr h).mark_eq hfence⟩
    · rename_i hnot'
      refine iff_of_false (Option.some_ne_none mark).symm fun hfence => ?_
      cases mark with
      | backtick => exact hnot (hbacktick.mp hfence)
      | tilde => exact hnot' (htilde.mp hfence)

theorem ofLine?_eq_none_iff {line : Text} : ofLine? line = none ↔ ∀ mark, ¬ IsFence mark line := by
  rw [Option.eq_none_iff_forall_ne_some]
  exact forall_congr' fun mark => not_congr ofLine?_eq_some_iff

/-! ## Parts of a document -/

/-- A plain line, or a block with its fences and what is between them. -/
inductive Part where
  | plain (line : Text)
  | block (mark : Mark) (opening : Text) (body : List Text) (closing : Option Text)

namespace Part

/-- The lines of a part, each with whether it belongs to a body. -/
def rows : Part → List (Text × Bool)
  | plain line => [(line, false)]
  | block _ opening body closing =>
    (opening, false) :: (body.map fun l => (l, true)) ++ closing.toList.map fun l => (l, false)

/-- A plain line is no fence. A block is between two fences of the same character, the second one
if it is there, and its body holds none of that character. -/
def IsProper : Part → Prop
  | plain line => ∀ mark, ¬ IsFence mark line
  | block mark opening body closing =>
    IsFence mark opening ∧ (∀ l ∈ body, ¬ IsFence mark l) ∧ ∀ l ∈ closing, IsFence mark l

/-- The part does not lack its closing fence. -/
def IsClosed : Part → Prop
  | plain _ => True
  | block _ _ _ closing => closing ≠ none

end Part

/-- Parts of which only the last one may lack its closing fence. -/
structure IsDivision (parts : List Part) : Prop where
  proper : ∀ part ∈ parts, part.IsProper
  closed : ∀ part ∈ parts.dropLast, part.IsClosed

/-- The lines of parts in sequence. -/
def linesOf (parts : List Part) : List Text := (parts.flatMap Part.rows).map (·.1)

/-- For each of these lines whether it belongs to a body. -/
def bodiesOf (parts : List Part) : List Bool := (parts.flatMap Part.rows).map (·.2)

variable {mark : Mark} {line opening : Text} {body : List Text} {closing : Option Text}
  {parts : List Part}

theorem linesOf_plain_cons : linesOf (.plain line :: parts) = line :: linesOf parts := rfl

theorem bodiesOf_plain_cons : bodiesOf (.plain line :: parts) = false :: bodiesOf parts := rfl

theorem linesOf_block_cons :
    linesOf (.block mark opening body closing :: parts) =
      opening :: (body ++ (closing.toList ++ linesOf parts)) := by
  simp [linesOf, Part.rows, Function.comp_def]

theorem bodiesOf_block_cons :
    bodiesOf (.block mark opening body closing :: parts) =
      false :: (body.map (fun _ => true) ++
        (closing.toList.map (fun _ => false) ++ bodiesOf parts)) := by
  simp [bodiesOf, Part.rows, Function.comp_def]

theorem linesOf_cons_ne_nil (part : Part) (parts : List Part) : linesOf (part :: parts) ≠ [] := by
  cases part with
  | plain line => exact List.cons_ne_nil _ _
  | block mark opening body closing =>
    rw [linesOf_block_cons]
    exact List.cons_ne_nil _ _

theorem isDivision_cons_iff {part : Part} :
    IsDivision (part :: parts) ↔
      part.IsProper ∧ (parts ≠ [] → part.IsClosed) ∧ IsDivision parts := by
  constructor
  · rintro ⟨hproper, hclosed⟩
    rw [List.forall_mem_cons] at hproper
    cases parts with
    | nil => exact ⟨hproper.1, fun hne => absurd rfl hne, hproper.2, nofun⟩
    | cons next parts =>
      rw [List.dropLast_cons_cons, List.forall_mem_cons] at hclosed
      exact ⟨hproper.1, fun _ => hclosed.1, hproper.2, hclosed.2⟩
  · rintro ⟨hpart, hclosed, hparts⟩
    refine ⟨List.forall_mem_cons.mpr ⟨hpart, hparts.proper⟩, ?_⟩
    cases parts with
    | nil => exact nofun
    | cons next parts =>
      rw [List.dropLast_cons_cons, List.forall_mem_cons]
      exact ⟨hclosed (List.cons_ne_nil next parts), hparts.closed⟩

/-- A block either has its closing fence or is the last part. -/
theorem IsDivision.closing_cases (h : IsDivision (.block mark opening body closing :: parts)) :
    (∃ line, closing = some line ∧ IsFence mark line) ∨ closing = none ∧ parts = [] := by
  obtain ⟨hpart, hclosed, -⟩ := isDivision_cons_iff.mp h
  cases closing with
  | some line => exact Or.inl ⟨line, rfl, hpart.2.2 line rfl⟩
  | none =>
    refine Or.inr ⟨rfl, ?_⟩
    by_contra hne
    exact hclosed hne rfl

/-! ## The mask of a division -/

theorem maskFrom_plain (h : ∀ mark, ¬ IsFence mark line) (ls : List Text) :
    maskFrom none (line :: ls) = false :: maskFrom none ls := by
  have hnext : next none line = none := by
    unfold next
    rw [ofLine?_eq_none_iff.mpr h]
  rw [maskFrom, hnext]
  rfl

theorem maskFrom_opening (h : IsFence mark line) (ls : List Text) :
    maskFrom none (line :: ls) = false :: maskFrom (some mark) ls := by
  have hnext : next none line = some mark := by
    unfold next
    rw [ofLine?_eq_some_iff.mpr h]
  rw [maskFrom, hnext]
  rfl

theorem maskFrom_closing (h : IsFence mark line) (ls : List Text) :
    maskFrom (some mark) (line :: ls) = false :: maskFrom none ls := by
  have hnext : next (some mark) line = none := by
    unfold next
    rw [ofLine?_eq_some_iff.mpr h]
    exact if_pos rfl
  rw [maskFrom, masked, hnext]
  rfl

/-- A block stays open over lines without fences of its character. -/
theorem maskFrom_body (h : ∀ l ∈ body, ¬ IsFence mark l) (ls : List Text) :
    maskFrom (some mark) (body ++ ls) = body.map (fun _ => true) ++ maskFrom (some mark) ls := by
  induction body with
  | nil => rfl
  | cons l body ih =>
    rw [List.forall_mem_cons] at h
    have hnext : next (some mark) l = some mark := by
      unfold next
      cases hl : ofLine? l with
      | none => rfl
      | some mark' =>
        have hne : ¬ mark' = mark := by
          rintro rfl
          exact h.1 (ofLine?_eq_some_iff.mp hl)
        exact if_neg hne
    rw [List.cons_append, maskFrom, masked, hnext, ih h.2]
    rfl

/-- The mask of a division marks its bodies. -/
theorem mask_linesOf (h : IsDivision parts) : mask (linesOf parts) = bodiesOf parts := by
  unfold mask
  induction parts with
  | nil => rfl
  | cons part parts ih =>
    obtain ⟨hpart, -, hparts⟩ := isDivision_cons_iff.mp h
    cases part with
    | plain line =>
      rw [linesOf_plain_cons, bodiesOf_plain_cons, maskFrom_plain hpart, ih hparts]
    | block mark opening body closing =>
      rw [linesOf_block_cons, bodiesOf_block_cons, maskFrom_opening hpart.1,
        maskFrom_body hpart.2.1]
      rcases h.closing_cases with ⟨line, rfl, hline⟩ | ⟨rfl, rfl⟩
      · rw [Option.toList_some, List.singleton_append, maskFrom_closing hline, ih hparts]
        rfl
      · rfl

/-! ## One division of every list of lines -/

/-- A block goes on up to the next fence of its character, or to the end. -/
theorem exists_body (mark : Mark) (ls : List Text) :
    ∃ body tail, ls = body ++ tail ∧ (∀ l ∈ body, ¬ IsFence mark l) ∧
      ∀ l ∈ tail.head?, IsFence mark l := by
  induction ls with
  | nil => exact ⟨[], [], rfl, nofun, nofun⟩
  | cons l ls ih =>
    by_cases hl : IsFence mark l
    · refine ⟨[], l :: ls, rfl, nofun, fun l' hl' => ?_⟩
      cases hl'
      exact hl
    · obtain ⟨body, tail, rfl, hbody, htail⟩ := ih
      exact ⟨l :: body, tail, rfl, List.forall_mem_cons.mpr ⟨hl, hbody⟩, htail⟩

theorem exists_division (ls : List Text) : ∃ parts, IsDivision parts ∧ linesOf parts = ls := by
  induction hlength : ls.length using Nat.strong_induction_on generalizing ls with
  | _ n ih =>
    cases ls with
    | nil => exact ⟨[], ⟨nofun, nofun⟩, rfl⟩
    | cons l rest =>
      rw [List.length_cons] at hlength
      cases hl : ofLine? l with
      | none =>
        obtain ⟨parts, hparts, hlines⟩ := ih rest.length (by omega) rest rfl
        refine ⟨.plain l :: parts, ?_, ?_⟩
        · exact isDivision_cons_iff.mpr ⟨ofLine?_eq_none_iff.mp hl, fun _ => trivial, hparts⟩
        · rw [linesOf_plain_cons, hlines]
      | some mark =>
        have hopening : IsFence mark l := ofLine?_eq_some_iff.mp hl
        obtain ⟨body, tail, rfl, hbody, htail⟩ := exists_body mark rest
        cases tail with
        | nil =>
          refine ⟨[.block mark l body none], ?_, ?_⟩
          · refine isDivision_cons_iff.mpr ⟨⟨hopening, hbody, nofun⟩, ?_, nofun, nofun⟩
            exact fun hne => absurd rfl hne
          · rw [linesOf_block_cons]
            rfl
        | cons closing rest =>
          rw [List.length_append, List.length_cons] at hlength
          obtain ⟨parts, hparts, hlines⟩ := ih rest.length (by omega) rest rfl
          refine ⟨.block mark l body (some closing) :: parts, ?_, ?_⟩
          · refine isDivision_cons_iff.mpr ⟨⟨hopening, hbody, htail⟩, fun _ => ?_, hparts⟩
            exact Option.some_ne_none closing
          · rw [linesOf_block_cons, hlines]
            rfl

/-- Where the body of a block ends is told by the first fence of its character. -/
theorem eq_of_body_append_eq {body' tail tail' : List Text} (hbody : ∀ l ∈ body, ¬ IsFence mark l)
    (hbody' : ∀ l ∈ body', ¬ IsFence mark l) (htail : ∀ l ∈ tail.head?, IsFence mark l)
    (htail' : ∀ l ∈ tail'.head?, IsFence mark l) (h : body ++ tail = body' ++ tail') :
    body = body' ∧ tail = tail' := by
  induction body generalizing body' with
  | nil =>
    cases body' with
    | nil => exact ⟨rfl, h⟩
    | cons l body' =>
      rw [List.nil_append] at h
      rw [h] at htail
      exact absurd (htail l rfl) (hbody' l List.mem_cons_self)
  | cons l body ih =>
    rw [List.forall_mem_cons] at hbody
    cases body' with
    | nil =>
      rw [List.nil_append] at h
      rw [← h] at htail'
      exact absurd (htail' l rfl) hbody.1
    | cons l' body' =>
      rw [List.forall_mem_cons] at hbody'
      rw [List.cons_append, List.cons_append, List.cons.injEq] at h
      obtain ⟨rfl, rfl⟩ := ih hbody.2 hbody'.2 h.2
      exact ⟨by rw [h.1], rfl⟩

/-- What follows the body of a block starts with a fence of its character, or is nothing. -/
theorem IsDivision.isFence_head (h : IsDivision (.block mark opening body closing :: parts)) :
    ∀ l ∈ (closing.toList ++ linesOf parts).head?, IsFence mark l := by
  rcases h.closing_cases with ⟨line, rfl, hline⟩ | ⟨rfl, rfl⟩
  · intro l hl
    cases hl
    exact hline
  · exact nofun

/-- A block's lines tell where it ends: it takes the same lines in every division. -/
theorem IsDivision.block_eq {body' : List Text} {closing' : Option Text} {others : List Part}
    (h : IsDivision (.block mark opening body closing :: parts))
    (h' : IsDivision (.block mark opening body' closing' :: others))
    (hlines : body ++ (closing.toList ++ linesOf parts) =
      body' ++ (closing'.toList ++ linesOf others)) :
    body = body' ∧ closing = closing' ∧ linesOf parts = linesOf others := by
  have hbody := (h.proper _ List.mem_cons_self).2.1
  have hbody' := (h'.proper _ List.mem_cons_self).2.1
  obtain ⟨rfl, htail⟩ := eq_of_body_append_eq hbody hbody' h.isFence_head h'.isFence_head hlines
  refine ⟨rfl, ?_⟩
  rcases h.closing_cases with ⟨line, rfl, -⟩ | ⟨rfl, rfl⟩
  · rcases h'.closing_cases with ⟨line', rfl, -⟩ | ⟨rfl, rfl⟩
    · rw [Option.toList_some, Option.toList_some, List.singleton_append, List.singleton_append,
        List.cons.injEq] at htail
      rw [htail.1]
      exact ⟨rfl, htail.2⟩
    · cases htail
  · rcases h'.closing_cases with ⟨line', rfl, -⟩ | ⟨rfl, rfl⟩
    · cases htail
    · exact ⟨rfl, rfl⟩

theorem IsDivision.eq_of_linesOf_eq {others : List Part} (h : IsDivision parts)
    (h' : IsDivision others) (hlines : linesOf parts = linesOf others) : parts = others := by
  induction parts generalizing others with
  | nil =>
    cases others with
    | nil => rfl
    | cons other others => exact absurd hlines.symm (linesOf_cons_ne_nil other others)
  | cons part parts ih =>
    cases others with
    | nil => exact absurd hlines (linesOf_cons_ne_nil part parts)
    | cons other others =>
      obtain ⟨hpart, -, hparts⟩ := isDivision_cons_iff.mp h
      obtain ⟨hother, -, hothers⟩ := isDivision_cons_iff.mp h'
      cases part with
      | plain line =>
        cases other with
        | plain line' =>
          rw [linesOf_plain_cons, linesOf_plain_cons, List.cons.injEq] at hlines
          rw [hlines.1, ih hparts hothers hlines.2]
        | block mark opening body closing =>
          rw [linesOf_plain_cons, linesOf_block_cons, List.cons.injEq] at hlines
          rw [← hlines.1] at hother
          exact absurd hother.1 (hpart mark)
      | block mark opening body closing =>
        cases other with
        | plain line =>
          rw [linesOf_plain_cons, linesOf_block_cons, List.cons.injEq] at hlines
          rw [hlines.1] at hpart
          exact absurd hpart.1 (hother mark)
        | block mark' opening' body' closing' =>
          rw [linesOf_block_cons, linesOf_block_cons, List.cons.injEq] at hlines
          obtain ⟨rfl, hrest⟩ := hlines
          have hmark : mark = mark' := hpart.1.mark_eq hother.1
          subst hmark
          obtain ⟨rfl, rfl, hlines⟩ := h.block_eq h' hrest
          rw [ih hparts hothers hlines]

/-- The lines of every document are divided in exactly one way, and the mask has an entry for each
line, which marks the lines of the bodies. -/
theorem exists_unique_division (d : Document) :
    ∃ parts, IsDivision parts ∧ linesOf parts = d.lines ∧ mask d.lines = bodiesOf parts ∧
      ∀ others, IsDivision others → linesOf others = d.lines → others = parts := by
  obtain ⟨parts, hparts, hlines⟩ := exists_division d.lines
  refine ⟨parts, hparts, hlines, ?_, fun others hothers heq => ?_⟩
  · rw [← hlines]
    exact mask_linesOf hparts
  · exact hothers.eq_of_linesOf_eq hparts (heq.trans hlines.symm)

end TagLint.Fence
