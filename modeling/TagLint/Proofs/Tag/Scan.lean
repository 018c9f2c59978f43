import TagLint.Tag.Scan
import Mathlib.Data.List.Basic
/-!
The tags of a document line by line. A line has at most one tag, and a document has it as long as
the line is not fenced. Emptying the tag lines that are no fence lines moves no fence, so every tag
that is left stays a tag of the document.
-/

namespace TagLint

theorem Tag.line_of_ofLine? {line : Text} {number : Nat} {t : Tag}
    (h : Tag.ofLine? line number = some t) : t.line = number := by
  unfold Tag.ofLine? at h
  obtain ⟨k, -, h⟩ := Option.bind_eq_some_iff.mp h
  obtain ⟨found, -, h⟩ := Option.bind_eq_some_iff.mp h
  obtain ⟨kind, -, h⟩ := Option.bind_eq_some_iff.mp h
  cases h
  rfl

theorem Tag.ofLine?_nil (number : Nat) : Tag.ofLine? [] number = none := rfl

/-! ## Fences -/

/-- Where the fences stand decides the mask alone. -/
theorem Fence.maskFrom_congr {ls ls' : List Text} (h : ls.map ofLine? = ls'.map ofLine?)
    (opened : Option Mark) : maskFrom opened ls = maskFrom opened ls' := by
  induction ls generalizing ls' opened with
  | nil =>
    rw [List.map_nil, eq_comm, List.map_eq_nil_iff] at h
    rw [h]
  | cons l ls ih =>
    cases ls' with
    | nil => cases h
    | cons l' ls' =>
      rw [List.map_cons, List.map_cons, List.cons.injEq] at h
      have hnext : next opened l = next opened l' := by
        unfold next
        rw [h.1]
      have hmasked : masked opened l = masked opened l' := by
        unfold masked
        rw [hnext]
      rw [maskFrom, maskFrom, hmasked, hnext, ih h.2]

namespace Document

variable {d : Document} {t : Tag}

/-! ## Tags line by line -/

theorem mem_tagsFrom {number : Nat} {ls : List Text} :
    t ∈ tagsFrom number ls ↔ ∃ i l, ls[i]? = some l ∧ Tag.ofLine? l (number + i) = some t := by
  induction ls generalizing number with
  | nil => simp [tagsFrom]
  | cons l ls ih =>
    rw [tagsFrom, List.mem_append, Option.mem_toList, ih]
    constructor
    · rintro (h | ⟨i, m, hm, ht⟩)
      · exact ⟨0, l, rfl, h⟩
      · refine ⟨i + 1, m, hm, ?_⟩
        rw [Nat.add_comm i 1, ← Nat.add_assoc]
        exact ht
    · rintro ⟨i, m, hm, ht⟩
      cases i with
      | zero =>
        cases hm
        exact Or.inl ht
      | succ i =>
        rw [Nat.add_comm i 1, ← Nat.add_assoc] at ht
        exact Or.inr ⟨i, m, hm, ht⟩

theorem pairwise_line_tagsFrom (number : Nat) (ls : List Text) :
    (tagsFrom number ls).Pairwise fun t t' => t.line < t'.line := by
  induction ls generalizing number with
  | nil => exact List.Pairwise.nil
  | cons l ls ih =>
    rw [tagsFrom, List.pairwise_append]
    refine ⟨?_, ih (number + 1), fun t ht t' ht' => ?_⟩
    · cases Tag.ofLine? l number with
      | none => exact List.Pairwise.nil
      | some t => exact List.pairwise_singleton _ t
    · have hline := Tag.line_of_ofLine? (Option.mem_toList.mp ht)
      obtain ⟨i, l', -, hl'⟩ := mem_tagsFrom.mp ht'
      have hline' := Tag.line_of_ofLine? hl'
      omega

/-- The tags of a document stand on different lines, from the first to the last. -/
theorem pairwise_line_tags (d : Document) : d.tags.Pairwise fun t t' => t.line < t'.line := by
  have hall : d.allTags.Pairwise fun t t' => t.line < t'.line := pairwise_line_tagsFrom 0 d.lines
  unfold tags
  split
  · exact hall.filter _
  · exact hall

/-- The tag that a line of a document has, fenced or not. -/
def tagAt? (d : Document) (line : Nat) : Option Tag :=
  (d.lines[line]?).bind fun l => Tag.ofLine? l line

theorem mem_allTags : t ∈ d.allTags ↔ d.tagAt? t.line = some t := by
  unfold allTags tagAt?
  rw [mem_tagsFrom, Option.bind_eq_some_iff]
  constructor
  · rintro ⟨i, l, hl, ht⟩
    rw [Nat.zero_add] at ht
    have hline := Tag.line_of_ofLine? ht
    subst hline
    exact ⟨l, hl, ht⟩
  · rintro ⟨l, hl, ht⟩
    refine ⟨t.line, l, hl, ?_⟩
    rw [Nat.zero_add]
    exact ht

theorem tags_eq_filter (d : Document) : d.tags = d.allTags.filter fun t => !d.isFenced t.line := by
  unfold tags isFenced
  cases d.isMarkdown <;> simp

theorem mem_tags : t ∈ d.tags ↔ d.tagAt? t.line = some t ∧ d.isFenced t.line = false := by
  rw [tags_eq_filter, List.mem_filter, mem_allTags, Bool.not_eq_true']

theorem eq_of_mem_tags {t' : Tag} (h : t ∈ d.tags) (h' : t' ∈ d.tags) (hline : t.line = t'.line) :
    t = t' := by
  have ht := (mem_tags.mp h).1
  have ht' := (mem_tags.mp h').1
  rw [hline, ht'] at ht
  exact (Option.some.inj ht).symm

/-! ## One tag by itself -/

/-- Whether a line is left as it is when a tag is looked at by itself. -/
def isKept (line number : Nat) (l : Text) : Bool :=
  number == line || (Fence.ofLine? l).isSome || (Tag.ofLine? l number).isNone

/-- The document with every other tag line than the given one emptied, unless it is a fence line. -/
def isolate (d : Document) (line : Nat) : Document :=
  { d with lines := d.lines.mapIdx fun i l => if isKept line i l then l else [] }

theorem isolate_lines (d : Document) (line i : Nat) :
    (d.isolate line).lines[i]? = (d.lines[i]?).map fun l => if isKept line i l then l else [] :=
  List.getElem?_mapIdx

@[simp] theorem path_isolate (d : Document) (line : Nat) : (d.isolate line).path = d.path := rfl

theorem isFenced_isolate (d : Document) (line : Nat) :
    (d.isolate line).isFenced = d.isFenced := by
  have hfences : (d.isolate line).lines.map Fence.ofLine? = d.lines.map Fence.ofLine? := by
    apply List.ext_getElem?
    intro i
    rw [List.getElem?_map, List.getElem?_map, isolate_lines, Option.map_map]
    congr 1
    funext l
    dsimp only [Function.comp]
    split
    · rfl
    · rename_i hkept
      rw [isKept, Bool.or_eq_true, Bool.or_eq_true, not_or, not_or] at hkept
      rw [Option.not_isSome_iff_eq_none.mp hkept.1.2]
      rfl
  have hmask : Fence.mask (d.isolate line).lines = Fence.mask d.lines :=
    Fence.maskFrom_congr hfences none
  funext i
  unfold isFenced
  rw [hmask]
  rfl

theorem tagAt?_of_isolate {line i : Nat} (h : (d.isolate line).tagAt? i = some t) :
    d.tagAt? i = some t := by
  unfold tagAt? at h ⊢
  rw [isolate_lines] at h
  cases hl : d.lines[i]? with
  | none =>
    rw [hl] at h
    cases h
  | some l =>
    rw [hl, Option.map_some, Option.bind_some] at h
    rw [Option.bind_some]
    split at h
    · exact h
    · rw [Tag.ofLine?_nil] at h
      cases h

theorem mem_tags_of_isolate {line : Nat} (h : t ∈ (d.isolate line).tags) : t ∈ d.tags := by
  rw [mem_tags, isFenced_isolate] at h
  exact mem_tags.mpr ⟨tagAt?_of_isolate h.1, h.2⟩

end Document

end TagLint
