import TagLint.Proofs.Tag.Key
import TagLint.Proofs.Tag.Scan
import TagLint.Proofs.Text.Lines
/-!
One line with a comment that starts with a tag. The four kinds of comment open differently, but none
of their openings holds a tag or is closed before one follows, so all the tag takes from its line is
the rest behind its name; a delimiter that closes the comment on the same line is part of that rest.
-/

namespace TagLint

/-- The name of a kind of tag. -/
def Tag.Kind.word : Tag.Kind → Text
  | .expiry => "EXPIRY".toList
  | .sync => "SYNC".toList

/-! ## Names -/

namespace Tag

theorem toNat_le_of_isNameChar {c : Char} (h : isNameChar c = true) : c.toNat ≤ 95 := by
  unfold isNameChar at h
  rw [Bool.or_eq_true, Bool.and_eq_true, decide_eq_true_iff, decide_eq_true_iff, beq_iff_eq] at h
  rcases h with ⟨-, hle⟩ | rfl
  · have hz : c.toNat ≤ 90 := hle
    omega
  · decide

theorem upperChar_of_isNameChar {c : Char} (h : isNameChar c = true) :
    Text.upperChar c = [c] := by
  have hle := toNat_le_of_isNameChar h
  have hlower : ¬ ('a' ≤ c ∧ c ≤ 'z') := by
    rintro ⟨ha, -⟩
    have hnat : 97 ≤ c.toNat := ha
    omega
  unfold Text.upperChar
  rw [if_neg hlower]
  split <;> first | rfl | omega

theorem upper_of_isNameChar {name : Text} (h : ∀ c ∈ name, isNameChar c = true) :
    Text.upper name = name := by
  induction name with
  | nil => rfl
  | cons c name ih =>
    rw [List.forall_mem_cons] at h
    have hname := ih h.2
    unfold Text.upper at hname ⊢
    rw [List.flatMap_cons, upperChar_of_isNameChar h.1, hname, List.singleton_append]

/-- A name is that of the kind whose word it is; no other letter case of a word is a name. -/
theorem ofName?_eq_some_iff {name : Text} (h : ∀ c ∈ name, isNameChar c = true) {kind : Kind} :
    Kind.ofName? name = some kind ↔ name = kind.word := by
  unfold Kind.ofName?
  dsimp only
  rw [upper_of_isNameChar h]
  split
  · rename_i hexpiry
    cases kind with
    | expiry => exact iff_of_true rfl hexpiry
    | sync =>
      rw [hexpiry]
      exact iff_of_false nofun (by decide)
  · rename_i hexpiry
    split
    · rename_i hsync
      cases kind with
      | expiry => exact iff_of_false nofun hexpiry
      | sync => exact iff_of_true rfl hsync
    · rename_i hsync
      cases kind with
      | expiry => exact iff_of_false nofun hexpiry
      | sync => exact iff_of_false nofun hsync

end Tag

namespace Comment

/-- The kinds of comment. -/
inductive Form where
  | slashes
  | hash
  | block
  | html
deriving DecidableEq, Repr

namespace Form

variable {form : Form} {kind : Tag.Kind} {rest : Text}

/-- What opens a comment, with a blank after it. -/
def opening : Form → Text
  | slashes => "// ".toList
  | hash => "# ".toList
  | block => "/* ".toList
  | html => "<!-- ".toList

/-- What closes a comment on the same line, if anything does. -/
def closer? : Form → Option Text
  | slashes => none
  | hash => none
  | block => some "*/".toList
  | html => some "-->".toList

/-- What closes a comment, with a blank before it. -/
def closing (form : Form) : Text :=
  match form.closer? with
  | none => []
  | some closer => ' ' :: closer

/-- The line on which a comment starts with a tag and goes on with the rest. -/
def line (form : Form) (kind : Tag.Kind) (rest : Text) : Text :=
  form.opening ++ (Tag.marker ++ (kind.word ++ ' ' :: rest))

/-- The tag on that line. -/
def tag (form : Form) (kind : Tag.Kind) (rest : Text) : Tag where
  kind := kind
  payload := Text.trim (' ' :: rest)
  raw := Tag.marker ++ kind.word ++ ' ' :: rest
  line := 0
  start := form.opening.length
  stop := form.opening.length + (Tag.marker ++ kind.word ++ ' ' :: rest).length

/-! ## The comment -/

theorem lastBefore_opening (introducer : String) (form : Form) (t : Text) :
    lastBefore introducer (form.opening ++ t) form.opening.length =
      Text.findLast? introducer.toList form.opening := by
  rw [lastBefore, Text.findLastBefore?, List.take_left]

/-- A comment is not closed before the character behind the blank that follows its opener. -/
theorem closedBefore_eq_false {opener closer : String} {line t : Text}
    (hline : line.drop opener.length = ' ' :: t)
    (hcloser : closer.toList.isPrefixOf (' ' :: t) = false) :
    closedBefore opener closer line (opener.length + 1) (some 0) = false := by
  rw [closedBefore, Nat.zero_add, Text.findFrom?, hline, Text.find?, hcloser]
  by_cases hlength : opener.length ≤ line.length
  · rw [if_pos hlength, if_neg Bool.false_ne_true]
    cases Text.find? closer.toList t with
    | none => rfl
    | some i =>
      have hle : opener.length + 1 ≤ i + 1 + opener.length := by omega
      exact decide_eq_false (Nat.not_lt.mpr hle)
  · rw [if_neg hlength]

/-- The opening of a comment governs what follows it. -/
theorem start?_opening (form : Form) (t : Text) :
    start? (form.opening ++ t) form.opening.length = some 0 := by
  unfold start?
  simp only [lastBefore_opening]
  cases form with
  | slashes => rfl
  | hash => rfl
  | block =>
    have hopen :
        closedBefore "/*" "*/" (block.opening ++ t) block.opening.length (some 0) = false :=
      closedBefore_eq_false (t := t) rfl rfl
    have hblock : Text.findLast? "/*".toList block.opening = some 0 := rfl
    rw [hblock, hopen]
    rfl
  | html =>
    have hopen :
        closedBefore "<!--" "-->" (html.opening ++ t) html.opening.length (some 0) = false :=
      closedBefore_eq_false (t := t) rfl rfl
    have hhtml : Text.findLast? "<!--".toList html.opening = some 0 := rfl
    rw [hhtml, hopen]
    rfl

/-! ## The tag -/

theorem headOf?_marker (kind : Tag.Kind) (hrest : '\n' ∉ rest) :
    Tag.headOf? (Tag.marker ++ (kind.word ++ ' ' :: rest)) = some (kind.word, ' ' :: rest) := by
  have hunbroken : '\n' ∉ ' ' :: rest := List.not_mem_cons_of_ne_of_not_mem (by decide) hrest
  have hbreak : Tag.withoutFinalBreak (' ' :: rest) = ' ' :: rest := by
    rw [Tag.withoutFinalBreak_eq_self_iff]
    exact fun hlast => hunbroken (List.mem_of_getLast? hlast)
  have hhead : Tag.IsHead (Tag.marker ++ (kind.word ++ ' ' :: rest)) kind.word (' ' :: rest) := by
    refine ⟨rfl, ?_, ?_, ?_, ?_⟩
    · cases kind <;> exact List.cons_ne_nil _ _
    · rw [← List.all_eq_true]
      cases kind <;> rfl
    · intro c hc
      have hspace : ' ' = c := Option.some.inj hc
      rw [← hspace]
      decide
    · intro hmem
      exact hunbroken (List.mem_of_mem_dropLast hmem)
  exact Tag.headOf?_eq_some_iff.mpr ⟨' ' :: rest, hhead, hbreak.symm⟩

theorem locate?_line (form : Form) (kind : Tag.Kind) (hrest : '\n' ∉ rest) :
    Tag.locate? (form.line kind rest) =
      some (form.opening.length, kind.word, ' ' :: rest) := by
  have hfind : Text.find? Tag.marker (form.line kind rest) = some form.opening.length :=
    Text.find?_append_of_notMem (by cases form <;> decide)
  have hsearch := Tag.search?_of_headOf? (headOf?_marker kind hrest)
  rw [Tag.locate?, hfind]
  simp only [Option.bind_eq_bind, Option.bind_some, line, start?_opening, List.drop_left, hsearch]
  rfl

theorem ofLine?_line (form : Form) (kind : Tag.Kind) (hrest : '\n' ∉ rest) :
    Tag.ofLine? (form.line kind rest) 0 = some (form.tag kind rest) := by
  have hsearch := Tag.search?_of_headOf? (headOf?_marker kind hrest)
  have hkind : Tag.Kind.ofName? kind.word = some kind := by cases kind <;> decide
  rw [Tag.ofLine?, Tag.key?, locate?_line form kind hrest]
  simp only [Option.bind_eq_bind, Option.bind_some, pure, line, List.drop_left, hsearch, hkind]
  rfl

theorem isUnbroken_line (form : Form) (kind : Tag.Kind) (hrest : Text.IsUnbroken rest) :
    Text.IsUnbroken (form.line kind rest) := by
  rw [line, Text.isUnbroken_append, Text.isUnbroken_append, Text.isUnbroken_append,
    Text.isUnbroken_cons]
  refine ⟨?_, by decide, ?_, by decide, hrest⟩
  · cases form <;> decide
  · cases kind <;> decide

/-- A document of that line alone has that tag alone, fenced or not. -/
theorem tags_ofText_line (path : Text) (language : Option Text) (form : Form) (kind : Tag.Kind)
    (hrest : Text.IsUnbroken rest) :
    (Document.ofText path (form.line kind rest) language).tags = [form.tag kind rest] := by
  have hlines : Text.lines (form.line kind rest) = [form.line kind rest] :=
    Text.lines_of_isUnbroken (by cases form <;> exact List.cons_ne_nil _ _)
      (isUnbroken_line form kind hrest)
  have hall : (Document.ofText path (form.line kind rest) language).allTags =
      [form.tag kind rest] := by
    rw [Document.allTags, Document.lines_ofText, hlines, Document.tagsFrom, Document.tagsFrom,
      ofLine?_line form kind hrest.2]
    rfl
  rw [Document.tags, hall, Document.lines_ofText, hlines]
  -- A block opens behind its fence line at the earliest, so a single line is never masked.
  split
  · rfl
  · rfl

end Form

end Comment

end TagLint
