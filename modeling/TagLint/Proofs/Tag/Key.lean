import TagLint.Tag.Key
import TagLint.Proofs.Text.Search
import Mathlib.Data.List.TakeWhile
/-!
What a tag looks like, and where the key of a line starts. Only the first marker of a line is looked
at to see whether it stands in a comment, but the tag is then searched for from there on: a marker
that starts no tag is passed over. So the key starts at the first marker exactly if that marker
starts a tag, and only then is it the place of the key that was found to be in a comment.
-/

namespace TagLint.Tag

/-! ## What a tag looks like -/

/-- The text starts with a tag: the marker, then a name, which is not empty and ends where no word
character follows. What follows holds no line feed but a final one. -/
structure IsHead (t name rest : Text) : Prop where
  eq_append : t = marker ++ (name ++ rest)
  ne_nil : name ≠ []
  letters : ∀ c ∈ name, isNameChar c = true
  ended : ∀ c ∈ rest.head?, isWordChar c = false
  unbroken : '\n' ∉ rest.dropLast

/-- The text starts with some tag. -/
def StartsTag (t : Text) : Prop := ∃ name rest, IsHead t name rest

theorem isWordChar_of_isNameChar {c : Char} (h : isNameChar c = true) : isWordChar c = true := by
  unfold isNameChar at h
  unfold isWordChar
  rw [Bool.or_eq_true] at h ⊢
  refine h.imp_left fun hupper => ?_
  rw [Bool.and_eq_true, decide_eq_true_iff, decide_eq_true_iff] at hupper
  have hisUpper : c.isUpper = true := decide_eq_true hupper
  show ((c.isUpper || c.isLower) || c.isDigit) = true
  rw [hisUpper, Bool.true_or, Bool.true_or]

theorem withoutFinalBreak_eq_self_iff {t : Text} :
    withoutFinalBreak t = t ↔ t.getLast? ≠ some '\n' := by
  unfold withoutFinalBreak
  split
  · rename_i hlast
    refine iff_of_false (fun hsame => ?_) (not_not.mpr hlast)
    obtain ⟨s, rfl⟩ := List.getLast?_eq_some_iff.mp hlast
    simp at hsame
  · rename_i hlast
    exact iff_of_true rfl hlast

/-- A text that ends in no blank ends in no line feed. -/
theorem withoutFinalBreak_of_not_isBlank {t : Text}
    (h : ∀ c, t.getLast? = some c → Text.isBlank c = false) : withoutFinalBreak t = t := by
  rw [withoutFinalBreak_eq_self_iff]
  intro hlast
  have hblank := h '\n' hlast
  exact absurd hblank (by decide)

theorem notMem_withoutFinalBreak_iff (t : Text) :
    '\n' ∉ withoutFinalBreak t ↔ '\n' ∉ t.dropLast := by
  unfold withoutFinalBreak
  split
  · rfl
  · rename_i hlast
    rcases List.eq_nil_or_concat t with rfl | ⟨s, c, rfl⟩
    · rfl
    · rw [List.concat_eq_append] at hlast ⊢
      have hc : '\n' ≠ c := by
        rintro rfl
        exact hlast List.getLast?_concat
      rw [List.dropLast_concat, List.mem_append, List.mem_singleton, or_iff_left hc]

/-- The name of a tag goes up to the word character that would follow it. -/
theorem IsHead.span {t name rest : Text} (h : IsHead t name rest) :
    (name ++ rest).takeWhile isNameChar = name ∧
      (name ++ rest).dropWhile isNameChar = rest := by
  have hended : rest.takeWhile isNameChar = [] ∧ rest.dropWhile isNameChar = rest := by
    cases rest with
    | nil => exact ⟨rfl, rfl⟩
    | cons c r =>
      have hc : ¬ isNameChar c = true := by
        intro hname
        have hword := h.ended c rfl
        rw [isWordChar_of_isNameChar hname] at hword
        cases hword
      exact ⟨List.takeWhile_cons_of_neg hc, List.dropWhile_cons_of_neg hc⟩
  rw [List.takeWhile_append_of_pos h.letters, List.dropWhile_append_of_pos h.letters,
    hended.1, hended.2, List.append_nil]
  exact ⟨rfl, rfl⟩

theorem headOf?_eq_some_iff {t name payload : Text} :
    headOf? t = some (name, payload) ↔
      ∃ rest, IsHead t name rest ∧ payload = withoutFinalBreak rest := by
  constructor
  · intro h
    unfold headOf? at h
    split at h
    · rename_i hmarker
      obtain ⟨body, rfl⟩ := List.isPrefixOf_iff_prefix.mp hmarker
      rw [List.drop_left] at h
      dsimp only at h
      split at h
      · cases h
      · rename_i hwell
        cases h
        simp only [Bool.or_eq_true, not_or, Bool.not_eq_true, List.isEmpty_eq_false_iff] at hwell
        obtain ⟨⟨hne, hended⟩, hunbroken⟩ := hwell
        refine ⟨_, ⟨?_, hne, fun c hc => List.mem_takeWhile_imp hc, ?_, ?_⟩, rfl⟩
        · rw [List.takeWhile_append_dropWhile]
        · intro c hc
          rw [Option.mem_def.mp hc] at hended
          exact hended
        · rw [← notMem_withoutFinalBreak_iff]
          simpa using hunbroken
    · cases h
  · rintro ⟨rest, hhead, rfl⟩
    have hunbroken := (notMem_withoutFinalBreak_iff rest).mpr hhead.unbroken
    have hended : rest.head?.any isWordChar = false := by
      cases hfirst : rest.head? with
      | none => rfl
      | some c => exact hhead.ended c hfirst
    rw [headOf?, hhead.eq_append,
      if_pos (List.isPrefixOf_iff_prefix.mpr (List.prefix_append _ _)), List.drop_left]
    dsimp only
    rw [hhead.span.1, hhead.span.2, if_neg]
    rw [List.isEmpty_eq_false_iff.mpr hhead.ne_nil, hended]
    simpa using hunbroken

theorem startsTag_iff {t : Text} : StartsTag t ↔ headOf? t ≠ none := by
  constructor
  · rintro ⟨name, rest, hhead⟩
    rw [headOf?_eq_some_iff.mpr ⟨rest, hhead, rfl⟩]
    exact Option.some_ne_none _
  · intro h
    obtain ⟨⟨name, payload⟩, hhead⟩ := Option.ne_none_iff_exists'.mp h
    obtain ⟨rest, hrest, -⟩ := headOf?_eq_some_iff.mp hhead
    exact ⟨name, rest, hrest⟩

/-! ## Where a tag is found -/

theorem search?_of_headOf? {t name rest : Text} (h : headOf? t = some (name, rest)) :
    search? t = some (0, name, rest) := by
  cases t with
  | nil => cases h
  | cons c r => rw [search?, h]

theorem headOf?_of_search? {t name rest : Text} {i : Nat} (h : search? t = some (i, name, rest)) :
    headOf? (t.drop i) = some (name, rest) := by
  induction t generalizing i with
  | nil => cases h
  | cons c r ih =>
    rw [search?] at h
    split at h
    · rename_i hhead
      cases h
      exact hhead
    · obtain ⟨⟨j, found⟩, hj, heq⟩ := Option.map_eq_some_iff.mp h
      cases heq
      exact ih hj

/-- The tag that is found starts where the search does exactly if a tag starts there. -/
theorem startsTag_iff_of_search? {t name rest : Text} {i : Nat}
    (h : search? t = some (i, name, rest)) : StartsTag t ↔ i = 0 := by
  rw [startsTag_iff]
  constructor
  · intro hne
    obtain ⟨⟨name', rest'⟩, hhead⟩ := Option.ne_none_iff_exists'.mp hne
    rw [search?_of_headOf? hhead] at h
    cases h
    rfl
  · rintro rfl
    have hhead := headOf?_of_search? h
    rw [List.drop_zero] at hhead
    rw [hhead]
    exact Option.some_ne_none _

/-! ## Where the key of a line starts -/

/-- The tag is searched for from the first marker on, which stands in a comment. -/
theorem exists_of_locate? {line name rest : Text} {start : Nat}
    (h : locate? line = some (start, name, rest)) :
    ∃ first i, Text.IsFirstAt marker line first ∧ Comment.start? line first ≠ none ∧
      search? (line.drop first) = some (i, name, rest) ∧ start = first + i := by
  obtain ⟨first, hfirst, h⟩ := Option.bind_eq_some_iff.mp h
  obtain ⟨p, hp, h⟩ := Option.bind_eq_some_iff.mp h
  obtain ⟨⟨i, found⟩, hfound, h⟩ := Option.bind_eq_some_iff.mp h
  cases h
  refine ⟨first, i, Text.find?_eq_some_iff.mp hfirst, ?_, hfound, rfl⟩
  rw [hp]
  exact Option.some_ne_none p

/-- The tag of a line stands where it is said to start, so searching from there finds it again. -/
theorem of_locate? {line name rest : Text} {start : Nat}
    (h : locate? line = some (start, name, rest)) :
    headOf? (line.drop start) = some (name, rest) ∧
      search? (line.drop start) = some (0, name, rest) := by
  obtain ⟨first, i, -, -, hsearch, rfl⟩ := exists_of_locate? h
  have hhead := headOf?_of_search? hsearch
  rw [List.drop_drop] at hhead
  exact ⟨hhead, search?_of_headOf? hhead⟩

/-- The key of a line stands at its first marker, in a comment, exactly if a tag starts at the first
marker. -/
theorem key_at_first_iff {line : Text} {number : Nat} {k : Key}
    (h : key? line number = some k) :
    (Text.IsFirstAt marker line k.start ∧ Comment.start? line k.start ≠ none) ↔
      ∃ first, Text.IsFirstAt marker line first ∧ StartsTag (line.drop first) := by
  obtain ⟨⟨start, name, rest⟩, hlocate, hk⟩ := Option.bind_eq_some_iff.mp h
  cases hk
  obtain ⟨first, i, hfirst, hcomment, hsearch, rfl⟩ := exists_of_locate? hlocate
  have hstarts := startsTag_iff_of_search? hsearch
  dsimp only
  constructor
  · rintro ⟨hat, -⟩
    have hsame : first + i = first := hat.unique hfirst
    exact ⟨first, hfirst, hstarts.mpr (by omega)⟩
  · rintro ⟨first', hfirst', htag⟩
    have hsame : first' = first := hfirst'.unique hfirst
    rw [hsame, hstarts] at htag
    rw [htag, Nat.add_zero]
    exact ⟨hfirst, hcomment⟩

/-- A marker with a name that no kind has is passed over by no search. -/
theorem key_at_first_iff_sample :
    key? "/* note */ // @AI:OWNER_ME, see @AI:SYNC a".toList 7 =
        some { key := "@AI:OWNER_ME".toList, line := 7, start := 14, stop := 26 } ∧
      Text.IsFirstAt marker "/* note */ // @AI:OWNER_ME, see @AI:SYNC a".toList 14 ∧
      Comment.start? "/* note */ // @AI:OWNER_ME, see @AI:SYNC a".toList 14 ≠ none := by
  have hkey : key? "/* note */ // @AI:OWNER_ME, see @AI:SYNC a".toList 7 =
      some { key := "@AI:OWNER_ME".toList, line := 7, start := 14, stop := 26 } := by decide
  have htag : IsHead ("/* note */ // @AI:OWNER_ME, see @AI:SYNC a".toList.drop 14)
      "OWNER_ME".toList ", see @AI:SYNC a".toList := by
    refine ⟨by decide, by decide, ?_, ?_, by decide⟩
    · exact List.all_eq_true.mp (by decide)
    · intro c hc
      have hcomma : some ',' = some c := hc
      rw [← Option.some.inj hcomma]
      decide
  exact ⟨hkey, (key_at_first_iff hkey).mpr ⟨14, by decide, _, _, htag⟩⟩

/-- A marker in a comment that starts no tag, and a tag behind the comment's end. -/
def strayLine : Text := "/* @AI:x */ @AI:SYNC a".toList

/-- The key stands neither at the first marker nor in a comment. -/
theorem key?_strayLine :
    key? strayLine 0 = some { key := "@AI:SYNC".toList, line := 0, start := 12, stop := 20 } ∧
      Text.IsFirstAt marker strayLine 3 ∧ Comment.start? strayLine 3 = some 0 ∧
      ¬ Text.IsFirstAt marker strayLine 12 ∧ Comment.start? strayLine 12 = none := by
  decide

end TagLint.Tag
