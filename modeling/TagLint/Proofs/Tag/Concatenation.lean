import TagLint.Proofs.Tag.Scan
/-!
The tags of lines put behind other lines. A tag is read from its own line alone, so the lines in
front of it matter in two ways only: they count towards its line number, and a block that they leave
open may mask it. Where they leave none open, the tags of the whole are the tags of the first lines
and then the tags of the others, further down by as many lines.
-/

namespace TagLint

/-! ## Open blocks -/

namespace Fence

/-- The block that is open after these lines, given the block that was open before them. -/
def openAfter (opened : Option Mark) (ls : List Text) : Option Mark := ls.foldl next opened

theorem maskFrom_append (opened : Option Mark) (ls rest : List Text) :
    maskFrom opened (ls ++ rest) = maskFrom opened ls ++ maskFrom (openAfter opened ls) rest := by
  induction ls generalizing opened with
  | nil => rfl
  | cons l ls ih =>
    rw [List.cons_append, maskFrom, ih, maskFrom, List.cons_append]
    rfl

end Fence

/-! ## Tags further down -/

/-- The tag as it is when its line stands so many lines further down. -/
def Tag.moveDown (n : Nat) (t : Tag) : Tag := { t with line := n + t.line }

@[simp] theorem Tag.line_moveDown (n : Nat) (t : Tag) : (t.moveDown n).line = n + t.line := rfl

/-- The number of a line shows in its tag and nowhere else. -/
theorem Tag.ofLine?_add (line : Text) (n number : Nat) :
    ofLine? line (n + number) = (ofLine? line number).map (moveDown n) := by
  unfold ofLine? key?
  cases locate? line with
  | none => rfl
  | some found =>
    simp only [Option.bind_eq_bind, Option.bind_some, pure]
    cases search? (line.drop found.1) with
    | none => rfl
    | some again =>
      simp only [Option.bind_some]
      cases Kind.ofName? again.2.1 with
      | none => rfl
      | some kind => rfl

namespace Document

theorem tagsFrom_append (number : Nat) (ls rest : List Text) :
    tagsFrom number (ls ++ rest) = tagsFrom number ls ++ tagsFrom (number + ls.length) rest := by
  induction ls generalizing number with
  | nil => rfl
  | cons l ls ih =>
    have hnumber : number + 1 + ls.length = number + (l :: ls).length := by
      rw [List.length_cons]
      omega
    rw [List.cons_append, tagsFrom, ih, hnumber, tagsFrom, List.append_assoc]

theorem tagsFrom_add (n number : Nat) (ls : List Text) :
    tagsFrom (n + number) ls = (tagsFrom number ls).map (Tag.moveDown n) := by
  induction ls generalizing number with
  | nil => rfl
  | cons l ls ih =>
    rw [tagsFrom, Tag.ofLine?_add, Nat.add_assoc, ih, tagsFrom, List.map_append]
    cases Tag.ofLine? l number <;> rfl

theorem line_lt_of_mem_tagsFrom {number : Nat} {ls : List Text} {t : Tag}
    (h : t ∈ tagsFrom number ls) : t.line < number + ls.length := by
  obtain ⟨i, l, hl, ht⟩ := mem_tagsFrom.mp h
  have hi : i < ls.length := (List.getElem?_eq_some_iff.mp hl).1
  rw [Tag.line_of_ofLine? ht]
  omega

/-! ## Tags behind other lines -/

/-- The document with other lines, of the same path and language. -/
def withLines (d : Document) (ls : List Text) : Document := { d with lines := ls }

@[simp] theorem lines_withLines (d : Document) (ls : List Text) : (d.withLines ls).lines = ls := rfl

@[simp] theorem isMarkdown_withLines (d : Document) (ls : List Text) :
    (d.withLines ls).isMarkdown = d.isMarkdown := rfl

/-- The tags that a document has if this block is open in front of its lines. -/
def tagsBehind (opened : Option Fence.Mark) (d : Document) : List Tag :=
  d.allTags.filter fun t => !(d.isMarkdown && ((Fence.maskFrom opened d.lines)[t.line]?).getD false)

theorem tagsBehind_none (d : Document) : d.tagsBehind none = d.tags :=
  d.tags_eq_filter.symm

theorem tagsBehind_of_not_isMarkdown {d : Document} (h : d.isMarkdown = false)
    (opened : Option Fence.Mark) : d.tagsBehind opened = d.tags := by
  rw [← tagsBehind_none]
  simp only [tagsBehind, h, Bool.false_and]

theorem line_lt_of_mem_tagsBehind {opened : Option Fence.Mark} {d : Document} {t : Tag}
    (h : t ∈ d.tagsBehind opened) : t.line < d.lines.length := by
  have hline := line_lt_of_mem_tagsFrom (List.mem_filter.mp h).1
  rwa [Nat.zero_add] at hline

/-- Behind some lines a document has the tags that it has behind the block that they leave open. -/
theorem tagsBehind_append (opened : Option Fence.Mark) (d : Document) (a b : List Text) :
    (d.withLines (a ++ b)).tagsBehind opened =
      (d.withLines a).tagsBehind opened ++
        ((d.withLines b).tagsBehind (Fence.openAfter opened a)).map (Tag.moveDown a.length) := by
  have hlength : (Fence.maskFrom opened a).length = a.length := Fence.length_maskFrom opened a
  have hall : tagsFrom 0 (a ++ b) =
      tagsFrom 0 a ++ (tagsFrom 0 b).map (Tag.moveDown a.length) := by
    rw [tagsFrom_append, ← tagsFrom_add, Nat.zero_add, Nat.add_zero]
  unfold tagsBehind allTags
  simp only [lines_withLines, isMarkdown_withLines]
  rw [hall, Fence.maskFrom_append, List.filter_append, List.filter_map]
  congr 1
  · refine List.filter_congr fun t ht => ?_
    have hline := line_lt_of_mem_tagsFrom ht
    rw [List.getElem?_append_left (by omega)]
  · refine congrArg _ (List.filter_congr fun t _ => ?_)
    rw [Function.comp_apply, Tag.line_moveDown, List.getElem?_append_right (by omega), hlength,
      Nat.add_sub_cancel_left]

/-- No tag moved down by this many lines is left of that line. -/
theorem filter_map_moveDown (n : Nat) (ts : List Tag) :
    (ts.map (Tag.moveDown n)).filter (fun t => t.line < n) = [] := by
  rw [List.filter_eq_nil_iff]
  intro t ht
  obtain ⟨s, -, rfl⟩ := List.mem_map.mp ht
  rw [decide_eq_true_iff, Tag.line_moveDown]
  omega

theorem filter_tags (d : Document) :
    d.tags.filter (fun t => t.line < d.lines.length) = d.tags := by
  rw [List.filter_eq_self]
  intro t ht
  rw [← tagsBehind_none] at ht
  exact decide_eq_true (line_lt_of_mem_tagsBehind ht)

theorem mask_of_mem_tags {d : Document} {t : Tag} (hmarkdown : d.isMarkdown = true)
    (h : t ∈ d.tags) : (Fence.mask d.lines)[t.line]? = some false := by
  have hfenced := (mem_tags.mp h).2
  rw [← tagsBehind_none] at h
  have hline : t.line < (Fence.mask d.lines).length := by
    rw [Fence.length_mask]
    exact line_lt_of_mem_tagsBehind h
  rw [isFenced, hmarkdown, Bool.true_and, List.getElem?_eq_getElem hline] at hfenced
  rw [List.getElem?_eq_getElem hline]
  exact congrArg some hfenced

/-- The tags on the first lines do not depend on the lines that follow, and the tags on those lines
are theirs, moved down, in a document without fences or behind lines that leave no block open. In
every document the tags stand on different lines, from the first to the last, they are of one of the
two kinds, and none is on a masked line of a Markdown document. -/
theorem tags_append (d : Document) (a b : List Text) :
    (d.withLines (a ++ b)).tags.filter (fun t => t.line < a.length) = (d.withLines a).tags ∧
    (d.isMarkdown = false ∨ Fence.openAfter none a = none →
      (d.withLines (a ++ b)).tags =
        (d.withLines a).tags ++ (d.withLines b).tags.map (Tag.moveDown a.length)) ∧
    d.tags.Pairwise (fun t t' => t.line < t'.line) ∧
    ∀ t ∈ d.tags, (t.kind = .expiry ∨ t.kind = .sync) ∧
      (d.isMarkdown = true → (Fence.mask d.lines)[t.line]? = some false) := by
  have happend := tagsBehind_append none d a b
  rw [tagsBehind_none, tagsBehind_none] at happend
  refine ⟨?_, fun h => ?_, d.pairwise_line_tags, fun t ht => ⟨?_, fun hmarkdown => ?_⟩⟩
  · have hfirst := filter_tags (d.withLines a)
    rw [lines_withLines] at hfirst
    rw [happend, List.filter_append, hfirst, filter_map_moveDown, List.append_nil]
  · rw [happend]
    rcases h with hplain | hclosed
    · rw [tagsBehind_of_not_isMarkdown (d := d.withLines b) hplain]
    · rw [hclosed, tagsBehind_none]
  · cases t.kind with
    | expiry => exact Or.inl rfl
    | sync => exact Or.inr rfl
  · exact mask_of_mem_tags hmarkdown ht

/-- A Markdown document by its path alone. -/
def sampleNotes : Document := { path := "/ws/Notes.MD".toList }

/-- A tag, and one more inside a block that is closed again. -/
def sampleFront : List Text :=
  ["# @AI:SYNC a.py".toList, "~~~".toList, "# @AI:SYNC b.py".toList, "~~~~ ".toList]

/-- A tag, and one more inside a block that is left open. -/
def sampleBack : List Text :=
  ["// @AI:EXPIRY 2030-01-01".toList, "  ```sh".toList, "# @AI:SYNC c.py".toList]

theorem tags_append_sampleNotes :
    sampleNotes.isMarkdown = true ∧ Fence.openAfter none sampleFront = none ∧
      (sampleNotes.withLines (sampleFront ++ sampleBack)).tags =
        (sampleNotes.withLines sampleFront).tags ++
          (sampleNotes.withLines sampleBack).tags.map (Tag.moveDown 4) ∧
      (sampleNotes.withLines (sampleFront ++ sampleBack)).tags.map (fun t => (t.line, t.payload)) =
        [(0, "a.py".toList), (4, "2030-01-01".toList)] := by
  have hclosed : Fence.openAfter none sampleFront = none := by decide
  refine ⟨by decide, hclosed, ?_, by decide⟩
  exact (tags_append sampleNotes sampleFront sampleBack).2.1 (Or.inr hclosed)

end Document

end TagLint
