import TagLint.Outline.Reader
import TagLint.Proofs.Text.CompatibilityForm
import TagLint.Proofs.Text.Search
/-!
Where the symbols of an outline point. The header of an item has the name behind its keyword, as an
identifier whose compatibility form is the name. The name is looked for in the line as the outline
has it, so a symbol points at its identifier exactly if the line goes on with the name there, at
every depth of the outline.
-/

namespace TagLint.Outline

variable {kind : Item.Kind} {name header opening identifier rest : Text} {lines : List Text}

/-! ## Headers -/

/-- Blanks between two tokens of a line. -/
structure IsSpace (gap : Text) : Prop where
  ne_nil : gap ≠ []
  blank : ∀ c ∈ gap, c = ' ' ∨ c = '\t' ∨ c = '\x0c'

/-- What a header begins with: the keywords of its kind, with blanks behind each. -/
inductive Opens : Item.Kind → Text → Prop
  | classItem {gap : Text} (hgap : IsSpace gap) : Opens .classItem ("class".toList ++ gap)
  | function {gap : Text} (hgap : IsSpace gap) : Opens .function ("def".toList ++ gap)
  | asyncFunction {gap gap' : Text} (hgap : IsSpace gap) (hgap' : IsSpace gap') :
    Opens .asyncFunction ("async".toList ++ gap ++ ("def".toList ++ gap'))

/-- A header: what it begins with, an identifier, and a rest that does not go on with it. The
compatibility form of the identifier is the name. -/
structure IsHeader (kind : Item.Kind) (name header opening identifier rest : Text) : Prop where
  eq_append : header = opening ++ (identifier ++ rest)
  opens : Opens kind opening
  isIdentifier : Text.isIdentifier identifier = true
  ends : rest.head?.any Text.continuesIdentifier = false
  form_eq : Text.compatibilityForm identifier = name

theorem IsSpace.notMem {gap : Text} (h : IsSpace gap) {c : Char}
    (hc : ¬(c = ' ' ∨ c = '\t' ∨ c = '\x0c')) : c ∉ gap :=
  fun hmem => hc (h.blank c hmem)

/-- The keyword that is looked for is the last one, and its first letter does not stand before
it. -/
theorem Opens.exists_keyword (h : Opens kind opening) :
    ∃ lead letter word gap, kind.keyword = letter :: word ∧
      opening = lead ++ (letter :: word ++ gap) ∧ letter ∉ lead ∧ IsSpace gap := by
  cases h with
  | @classItem gap hgap => exact ⟨[], 'c', "lass".toList, gap, rfl, rfl, List.not_mem_nil, hgap⟩
  | @function gap hgap => exact ⟨[], 'd', "ef".toList, gap, rfl, rfl, List.not_mem_nil, hgap⟩
  | @asyncFunction gap gap' hgap hgap' =>
    refine ⟨"async".toList ++ gap, 'd', "ef".toList, gap', rfl, rfl, ?_, hgap'⟩
    rw [List.mem_append, not_or]
    exact ⟨by decide, hgap.notMem (by decide)⟩

theorem not_startsIdentifier_of_blank {c : Char} (hc : c = ' ' ∨ c = '\t' ∨ c = '\x0c') :
    Text.startsIdentifier c = false := by
  rcases hc with rfl | rfl | rfl <;> decide

/-- An identifier begins with no blank. -/
theorem IsSpace.notMem_identifier {gap : Text} (hgap : IsSpace gap)
    (h : Text.isIdentifier identifier = true) : ∀ c ∈ (identifier ++ rest).head?, c ∉ gap := by
  cases identifier with
  | nil => cases h
  | cons c identifier =>
    rw [Text.isIdentifier, Bool.and_eq_true] at h
    intro d hd
    cases hd
    refine hgap.notMem fun hc => ?_
    rw [not_startsIdentifier_of_blank hc] at h
    exact Bool.false_ne_true h.1

/-! ## The column of a name -/

/-- The search for the keyword and then for the name comes to the identifier exactly if the line
goes on with the name there. The column of the item, which is shown if nothing is found, lies before
the identifier. -/
theorem nameColumn_eq_iff {text : Text} {line column : Nat} (hline : lines[line]? = some text)
    (h : IsHeader kind name (text.drop column) opening identifier rest) :
    nameColumn lines kind line column name = column + opening.length ↔
      name <+: identifier ++ rest := by
  obtain ⟨lead, letter, word, gap, hkeyword, hopening, hlead, hgap⟩ := h.opens.exists_keyword
  have hname : name ≠ [] := by
    rw [← h.form_eq]
    refine Text.compatibilityForm_ne_nil fun hnil => ?_
    have hidentifier := h.isIdentifier
    rw [hnil] at hidentifier
    cases hidentifier
  have htext : text.drop column = lead ++ (letter :: word ++ (gap ++ (identifier ++ rest))) := by
    rw [h.eq_append, hopening]
    simp only [List.append_assoc, List.cons_append]
  have hbehind : text.drop (lead.length + column + (letter :: word).length) =
      gap ++ (identifier ++ rest) := by
    rw [Nat.add_comm lead.length, Nat.add_assoc, ← List.drop_drop, htext, ← List.append_assoc,
      ← List.length_append, List.drop_left]
  have hfound : nameColumn lines kind line column name =
      ((Text.find? name (gap ++ (identifier ++ rest))).map
        (· + (lead.length + column + (letter :: word).length))).getD column := by
    have hkey : Text.findFrom? (letter :: word) text column = some (lead.length + column) := by
      rw [Text.findFrom?_eq (List.cons_ne_nil letter word), htext,
        Text.find?_append_of_notMem hlead, Option.map_some]
    rw [nameColumn, hline, hkeyword]
    dsimp only [Option.bind_eq_bind, Option.bind_some]
    rw [hkey, Option.bind_some, Text.findFrom?_eq hname, hbehind]
  have hlength : column + opening.length =
      gap.length + (lead.length + column + (letter :: word).length) := by
    rw [hopening, List.length_append, List.length_append]
    omega
  rw [hfound, hlength,
    ← Text.find?_append_eq_length_iff hname (hgap.notMem_identifier h.isIdentifier)]
  cases Text.find? name (gap ++ (identifier ++ rest)) with
  | none =>
    rw [Option.map_none, Option.getD_none, List.length_cons]
    exact iff_of_false (by omega) nofun
  | some i =>
    rw [Option.map_some, Option.getD_some, Option.some.injEq, Nat.add_right_cancel_iff]

/-! ## The symbols of an outline -/

/-- A symbol shows an item: it has its name and its line, its place is that of the identifier of
every header exactly if the header goes on with the name there, and the symbols inside show the
items inside, in order. -/
inductive Shows (lines : List Text) : Item → Symbol → Prop
  | mk {kind : Item.Kind} {line column place : Nat} {name : Text} {inner : List Item}
    {children : List Symbol}
    (hplace : ∀ text opening identifier rest, lines[line]? = some text →
      IsHeader kind name (text.drop column) opening identifier rest →
      (place = column + opening.length ↔ name <+: identifier ++ rest))
    (hchildren : List.Forall₂ (Shows lines) inner children) :
    Shows lines (.mk kind line column name inner) (.mk name line place children)

mutual

theorem shows_symbol (lines : List Text) : ∀ i : Item, Shows lines i (i.symbol lines)
  | .mk kind line column name inner => by
    rw [Item.symbol]
    exact .mk (fun _ _ _ _ => nameColumn_eq_iff) (forall₂_shows_symbolsOf lines inner)

theorem forall₂_shows_symbolsOf (lines : List Text) :
    ∀ items : List Item, List.Forall₂ (Shows lines) items (symbolsOf lines items)
  | [] => by
    rw [symbolsOf]
    exact .nil
  | i :: items => by
    rw [symbolsOf]
    exact .cons (shows_symbol lines i) (forall₂_shows_symbolsOf lines items)

end

/-- The outline of a source text is reported as its symbols in the lines of the text. -/
theorem ofSource_eq_ok_iff {source : Text} {symbols : List Symbol} :
    ofSource source = .ok symbols ↔
      '\x00' ∉ source ∧ ∃ items, items? source = some items ∧
        symbols = symbolsOf (Text.lines source) items := by
  unfold ofSource
  split
  · rename_i hnul
    exact iff_of_false nofun fun h => h.1 (List.contains_iff_mem.mp hnul)
  · rename_i hnul
    rw [List.contains_iff_mem] at hnul
    cases items? source with
    | none => exact iff_of_false nofun nofun
    | some items => simp [hnul, eq_comm]

/-- A file of another kind has no symbols, and is not read. -/
theorem ofFile_eq_ok_iff {files : Storage.FileSystem} {path : Text} {symbols : List Symbol} :
    ofFile files path = .ok symbols ↔
      (isOutlined path = false ∧ symbols = []) ∨
      (isOutlined path = true ∧ ∃ source items, files.read path = .ok source ∧
        '\x00' ∉ source ∧ items? source = some items ∧
        symbols = symbolsOf (Text.lines source) items) := by
  unfold ofFile
  cases isOutlined path with
  | false => simp [eq_comm]
  | true =>
    cases files.read path with
    | error fault => simp
    | ok source => simp [ofSource_eq_ok_iff]

/-- The symbols of an outline show its items, whatever the lines: one symbol for each item, nested
and ordered as the items are, and each points at the identifier of its header exactly if the line
goes on with the name there, as it does if the identifier is written in its compatibility form. What
is reported for a file are the symbols of the outline of its text. -/
theorem symbols_show_items (lines : List Text) (items : List Item) :
    List.Forall₂ (Shows lines) items (symbolsOf lines items) ∧
    ∀ files path symbols,
      ofFile files path = .ok symbols ↔
        (isOutlined path = false ∧ symbols = []) ∨
        (isOutlined path = true ∧ ∃ source items, files.read path = .ok source ∧
          '\x00' ∉ source ∧ items? source = some items ∧
          symbols = symbolsOf (Text.lines source) items) :=
  ⟨forall₂_shows_symbolsOf lines items, fun _ _ _ => ofFile_eq_ok_iff⟩

theorem isSpace_replicate (n : Nat) : IsSpace (List.replicate (n + 1) ' ') where
  ne_nil := List.cons_ne_nil _ _
  blank _ hc := .inl (List.eq_of_mem_replicate hc)

/-- Lines with a class, and in it a function with the same name and with a parameter that begins
with the keyword. -/
def sampleLines : List Text :=
  ["class Outer:".toList, "    async  def  Outer(def_): pass".toList]

/-- The outline of those lines. -/
def sampleItems : List Item :=
  [.mk .classItem 0 0 "Outer".toList [.mk .asyncFunction 1 4 "Outer".toList []]]

/-- Both symbols point at their identifiers. -/
theorem symbols_show_items_sample :
    symbolsOf sampleLines sampleItems =
      [.mk "Outer".toList 0 6 [.mk "Outer".toList 1 16 []]] := by
  have houter : IsHeader .classItem "Outer".toList ("class Outer:".toList.drop 0)
      ("class".toList ++ List.replicate 1 ' ') "Outer".toList ":".toList :=
    ⟨by decide +kernel, .classItem (isSpace_replicate 0), by decide +kernel, by decide +kernel,
      by decide +kernel⟩
  have hinner : IsHeader .asyncFunction "Outer".toList
      ("    async  def  Outer(def_): pass".toList.drop 4)
      ("async".toList ++ List.replicate 2 ' ' ++ ("def".toList ++ List.replicate 2 ' '))
      "Outer".toList "(def_): pass".toList :=
    ⟨by decide +kernel, .asyncFunction (isSpace_replicate 1) (isSpace_replicate 1),
      by decide +kernel, by decide +kernel, by decide +kernel⟩
  have hshows := (symbols_show_items sampleLines sampleItems).1
  simp only [sampleItems, symbolsOf, Item.symbol] at hshows ⊢
  obtain ⟨⟨houterPlace, hchildren⟩, -⟩ := List.forall₂_cons.mp hshows
  obtain ⟨⟨hinnerPlace, -⟩, -⟩ := List.forall₂_cons.mp hchildren
  rw [(houterPlace _ _ _ _ rfl houter).mpr (List.prefix_append _ _),
    (hinnerPlace _ _ _ _ rfl hinner).mpr (List.prefix_append _ _)]
  simp only [List.length_append, List.length_replicate, String.length_toList]
  rfl

/-- The ordinal sign stands for a letter, and the symbol points at the next such letter behind the
identifier, which begins at column 6. -/
theorem symbol_misses_ordinal :
    IsHeader .classItem "a".toList "class \u00AA: pass".toList
      ("class".toList ++ List.replicate 1 ' ') "\u00AA".toList ": pass".toList ∧
    symbolsOf ["class \u00AA: pass".toList] [.mk .classItem 0 0 "a".toList []] =
      [.mk "a".toList 0 10 []] := by
  have hcolumn : nameColumn ["class \u00AA: pass".toList] .classItem 0 0 "a".toList = 10 := by
    decide +kernel
  refine ⟨⟨by decide +kernel, .classItem (isSpace_replicate 0), by decide +kernel,
    by decide +kernel, ?_⟩, ?_⟩
  · exact Text.compatibilityForm_ordinal
  · simp only [symbolsOf, Item.symbol, hcolumn]

end TagLint.Outline
