import TagLint.Index
import TagLint.Proofs.Tag.Comment
/-!
The entries of a document and its tags. An entry is cut out of the line behind its key, keys are
told from others by their exact text, and fenced lines are passed over on the way. A tag is read a
second time from where its key starts, its name is looked up in any letter case, and fenced tags are
taken out in the end. Both ways lead to the same: the entries are the expiry tags, one for one.
-/

namespace TagLint

/-! ## Payloads -/

theorem Text.trim_append_blank {c : Char} (hc : isBlank c = true) (t : Text) :
    trim (t ++ [c]) = trim t := by
  unfold trim trimLeft
  rw [List.dropWhile_append]
  split
  · rename_i hnil
    have ht : t.dropWhile isBlank = [] := by simpa using hnil
    rw [ht, List.dropWhile_cons_of_pos hc, List.dropWhile_nil]
  · unfold trimRight
    rw [List.reverse_append, List.reverse_singleton, List.singleton_append,
      List.dropWhile_cons_of_pos hc]

namespace Tag

/-- A final line feed plays no part in a payload. -/
theorem trim_withoutFinalBreak (t : Text) : Text.trim (withoutFinalBreak t) = Text.trim t := by
  unfold withoutFinalBreak
  split
  · rename_i hlast
    obtain ⟨s, rfl⟩ := List.getLast?_eq_some_iff.mp hlast
    rw [List.dropLast_concat, Text.trim_append_blank (by decide)]
  · rfl

/-- A name is that of expiry tags exactly when it makes a key that is indexed. -/
theorem ofName?_eq_expiry_iff {name : Text} (h : ∀ c ∈ name, isNameChar c = true) :
    Kind.ofName? name = some .expiry ↔ marker ++ name ∈ Index.keys := by
  rw [ofName?_eq_some_iff h, Index.keys, List.mem_singleton,
    show "@AI:EXPIRY".toList = marker ++ Kind.expiry.word from rfl, List.append_cancel_left_eq]

end Tag

/-! ## One line -/

namespace Index

/-- The entry that a tag of a document makes. -/
def Entry.ofTag (path : Text) (tag : Tag) : Entry where
  key := "@AI:EXPIRY".toList
  payload := tag.payload
  path := path
  line := tag.line
  start := tag.start
  stop := tag.start + "@AI:EXPIRY".toList.length

/-- A line makes an entry exactly when its tag is an expiry tag. -/
theorem entryOfLine?_eq (path line : Text) (number : Nat) :
    entryOfLine? path line number =
      ((Tag.ofLine? line number).filter (·.kind = .expiry)).map (Entry.ofTag path) := by
  unfold entryOfLine? Tag.ofLine? Tag.key?
  cases hlocate : Tag.locate? line with
  | none => rfl
  | some found =>
    obtain ⟨start, name, rest⟩ := found
    obtain ⟨hhead, hsearch⟩ := Tag.of_locate? hlocate
    obtain ⟨tail, htail, rfl⟩ := Tag.headOf?_eq_some_iff.mp hhead
    have hkind := Tag.ofName?_eq_expiry_iff htail.letters
    have hdrop : line.drop (start + Tag.marker.length + name.length) = tail := by
      rw [Nat.add_assoc, ← List.drop_drop, htail.eq_append, ← List.append_assoc,
        ← List.length_append, List.drop_left]
    simp only [Option.bind_eq_bind, Option.bind_some, pure, hsearch, hdrop,
      List.contains_iff_mem]
    by_cases hkey : Tag.marker ++ name ∈ keys
    · have hexpiry : Tag.marker ++ name = "@AI:EXPIRY".toList := List.mem_singleton.mp hkey
      have hlength : Tag.marker.length + name.length = "@AI:EXPIRY".toList.length := by
        rw [← List.length_append, hexpiry]
      rw [if_pos hkey, hkind.mpr hkey, ← Tag.trim_withoutFinalBreak tail, hexpiry, Nat.add_assoc,
        hlength]
      rfl
    · rw [if_neg hkey]
      cases hof : Tag.Kind.ofName? name with
      | none => rfl
      | some kind =>
        have hother : kind ≠ .expiry := by
          rintro rfl
          exact hkey (hkind.mp hof)
        simp [Option.filter, hother]

/-! ## Whole documents -/

theorem entriesFrom_eq (path : Text) (fenced : Nat → Bool) (number : Nat) (ls : List Text)
    (masks : List Bool) (hlength : masks.length = ls.length)
    (hmasks : ∀ i m, masks[i]? = some m → m = fenced (number + i)) :
    entriesFrom path number (ls.zip masks) =
      (((Document.tagsFrom number ls).filter fun t => !fenced t.line).filter
        (·.kind = .expiry)).map (Entry.ofTag path) := by
  induction ls generalizing number masks with
  | nil => rfl
  | cons l ls ih =>
    cases masks with
    | nil => cases hlength
    | cons m masks =>
      have hm : m = fenced number := hmasks 0 m rfl
      have hrest := ih (number + 1) masks (Nat.succ.inj hlength) fun i b hb => by
        rw [Nat.add_assoc, Nat.add_comm 1 i]
        exact hmasks (i + 1) b hb
      rw [List.zip_cons_cons, entriesFrom, hrest, Document.tagsFrom, List.filter_append,
        List.filter_append, List.map_append, entryOfLine?_eq]
      congr 1
      cases htag : Tag.ofLine? l number with
      | none => simp
      | some tag =>
        have hline := Tag.line_of_ofLine? htag
        cases hf : fenced number <;> by_cases hk : tag.kind = .expiry <;>
          simp [hm, hf, hline, hk, Option.filter]

/-- The entries of a document are made from its expiry tags. -/
theorem entriesOf_eq_map (d : Document) :
    entriesOf d = (d.tags.filter (·.kind = .expiry)).map (Entry.ofTag d.path) := by
  rw [Document.tags_eq_filter]
  refine entriesFrom_eq d.path d.isFenced 0 d.lines _ ?_ ?_
  · split
    · exact Fence.length_mask d.lines
    · exact List.length_map _
  · intro i m hm
    rw [Nat.zero_add]
    unfold Document.isFenced
    split at hm
    · rename_i hmarkdown
      rw [hmarkdown, hm]
      rfl
    · rename_i hmarkdown
      rw [List.getElem?_map] at hm
      obtain ⟨-, -, rfl⟩ := Option.map_eq_some_iff.mp hm
      rw [Bool.not_eq_true] at hmarkdown
      rw [hmarkdown, Bool.false_and]

theorem path_of_mem_entriesOf {d : Document} {e : Entry} (h : e ∈ entriesOf d) :
    e.path = d.path := by
  rw [entriesOf_eq_map] at h
  obtain ⟨tag, -, rfl⟩ := List.mem_map.mp h
  rfl

/-- A document has no more than one entry for a line. -/
theorem pairwise_line_entriesOf (d : Document) :
    (entriesOf d).Pairwise fun e e' => e.line < e'.line := by
  rw [entriesOf_eq_map, List.pairwise_map]
  exact d.pairwise_line_tags.filter _

/-- The index and the scan see the same expiry tags: with the same lines, columns and payloads, and
in the same order. An entry covers the key alone. -/
theorem entriesOf_agrees_with_tags (d : Document) :
    (entriesOf d).map (fun e => (e.line, e.start, e.payload)) =
        (d.tags.filter (·.kind = .expiry)).map (fun t => (t.line, t.start, t.payload)) ∧
      ∀ e ∈ entriesOf d, e.key = "@AI:EXPIRY".toList ∧
        e.stop = e.start + "@AI:EXPIRY".toList.length ∧ e.path = d.path := by
  rw [entriesOf_eq_map]
  constructor
  · rw [List.map_map]
    rfl
  · intro e he
    obtain ⟨tag, -, rfl⟩ := List.mem_map.mp he
    exact ⟨rfl, rfl, rfl⟩

end Index

end TagLint
