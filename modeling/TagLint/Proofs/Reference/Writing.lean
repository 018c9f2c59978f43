import TagLint.Proofs.Reference.Suffix
import TagLint.Proofs.Tag.Key
import TagLint.Proofs.Text.Decimal
import TagLint.Proofs.Text.Pieces
import TagLint.Proofs.Traverse
/-!
Writing references down and reading them back. A reference is written as its path and, after it, its
lines or its symbol. Several are written with commas between them and blanks around them, or with
blanks alone where none of them holds one. However that is done, the payload is read back as the
same references in the same order. A path may hold whatever begins a suffix; only one without a
suffix behind it must not end in something that reads as one.
-/

namespace TagLint.Reference

/-! ## Characters of suffixes -/

/-- The characters of a payload that neither end a piece nor are trimmed off it. -/
def IsInner (c : Char) : Prop := Text.isBlank c = false ∧ c ≠ ','

theorem isInner_of_isDigit {c : Char} (h : c.isDigit = true) : IsInner c := by
  obtain ⟨hlow, hhigh⟩ := (Text.isDigit_iff c).mp h
  refine ⟨Text.not_isBlank_of_printable (by omega) (by omega), ?_⟩
  rintro rfl
  revert h
  decide

theorem isInner_of_isLineLetter {c : Char} (h : isLineLetter c = true) : IsInner c := by
  unfold isLineLetter at h
  rw [Bool.or_eq_true, beq_iff_eq, beq_iff_eq] at h
  rcases h with rfl | rfl <;> exact ⟨by decide, by decide⟩

theorem isInner_of_isSymbolChar {c : Char} (h : isSymbolChar c = true) : IsInner c := by
  have hletters : c.isAlphanum = (decide (c.val ≥ 65 ∧ c.val ≤ 90) ||
      (c.val ≥ 97 && c.val ≤ 122) || (c.val ≥ 48 && c.val ≤ 57)) := rfl
  have hclass : (65 ≤ c.val ∧ c.val ≤ 90) ∨ (97 ≤ c.val ∧ c.val ≤ 122) ∨
      (48 ≤ c.val ∧ c.val ≤ 57) ∨ c = '_' ∨ c = '.' := by
    simpa [isSymbolChar, Tag.isWordChar, hletters, or_assoc] using h
  have hrange : 0x21 ≤ c.val ∧ c.val ≤ 0x7E := by
    rcases hclass with hupper | hlower | hdigit | rfl | rfl <;> grind
  refine ⟨Text.not_isBlank_of_printable hrange.1 hrange.2, ?_⟩
  rintro rfl
  revert h
  decide

/-! ## One reference -/

/-- How a place is written behind a path. -/
inductive Place.Written : Place → Text → Prop
  /-- A whole file, as nothing. -/
  | whole : Written .whole []
  /-- One line, behind a line letter. -/
  | line {c : Char} {n : Nat} (hc : isLineLetter c = true)
      (hn : (Text.ofNat n).length ≤ Failure.digitLimit) :
    Written (.lines { first := n, last := none }) (':' :: c :: Text.ofNat n)
  /-- Lines from one to another, which may have a letter of its own. -/
  | lines {c : Char} {a b : Nat} {letter : Option Char} (hc : isLineLetter c = true)
      (hd : ∀ d ∈ letter, isLineLetter d = true)
      (ha : (Text.ofNat a).length ≤ Failure.digitLimit)
      (hb : (Text.ofNat b).length ≤ Failure.digitLimit) :
    Written (.lines { first := a, last := some b })
      (':' :: (c :: Text.ofNat a ++ '-' :: (letter.toList ++ Text.ofNat b)))
  /-- A symbol, by its name. -/
  | symbol {name : Text} (hne : name ≠ []) (hname : ∀ c ∈ name, isSymbolChar c = true) :
    Written (.symbol name) ('#' :: name)

/-- Paths that can stand without a suffix: they end in no blank, in no line suffix and in no symbol
suffix. -/
structure IsBare (path : Text) : Prop where
  ne_nil : path ≠ []
  back : ∀ c ∈ path.getLast?, Text.isBlank c = false
  no_lines : ∀ p s first last, path = p ++ ':' :: s → ¬ LineSuffix s first last
  no_symbol : ∀ p name, path = p ++ '#' :: name → name ≠ [] → ∃ c ∈ name, isSymbolChar c = false

/-- Whether a path is bare: a suffix at its end stands behind its last colon or its last hash. -/
def isBare (path : Text) : Bool :=
  !path.isEmpty && path.getLast?.all (fun c => !Text.isBlank c) &&
    (cutAtLast? ':' path).all (fun cut => (lineNumerals? cut.2).isNone) &&
    (cutAtLast? '#' path).all fun cut => cut.2.isEmpty || cut.2.any fun c => !isSymbolChar c

theorem isBare_iff (path : Text) : isBare path = true ↔ IsBare path := by
  simp only [isBare, Bool.and_eq_true, Option.all_eq_true, Bool.not_eq_true', Bool.or_eq_true,
    List.isEmpty_eq_false_iff, List.isEmpty_iff, List.any_eq_true, Option.isNone_iff_eq_none]
  constructor
  · rintro ⟨⟨⟨hne, hback⟩, hlines⟩, hsymbol⟩
    refine ⟨hne, hback, ?_, ?_⟩
    · intro p s first last hpath hs
      have hcut := cutAtLast?_eq_some_iff.mpr ⟨hpath, colon_not_mem_of_lineSuffix hs⟩
      have hnone := hlines (p, s) hcut
      rw [lineNumerals?_eq_some_iff.mpr hs] at hnone
      cases hnone
    · intro p name hpath hname
      by_cases hhash : '#' ∈ name
      · exact ⟨'#', hhash, by decide⟩
      · have hcut := cutAtLast?_eq_some_iff.mpr ⟨hpath, hhash⟩
        exact (hsymbol (p, name) hcut).resolve_left hname
  · intro h
    refine ⟨⟨⟨h.ne_nil, h.back⟩, ?_⟩, ?_⟩
    · rintro ⟨p, s⟩ hcut
      cases hn : lineNumerals? s with
      | none => rfl
      | some numerals =>
        exact absurd (lineNumerals?_eq_some_iff.mp hn)
          (h.no_lines p s numerals.1 numerals.2 (cutAtLast?_eq_some_iff.mp hcut).1)
    · rintro ⟨p, name⟩ hcut
      rw [or_iff_not_imp_left]
      exact h.no_symbol p name (cutAtLast?_eq_some_iff.mp hcut).1

instance (path : Text) : Decidable (IsBare path) := decidable_of_iff _ (isBare_iff path)

/-- How a reference is written. -/
structure Written (r : Reference) (t : Text) : Prop where
  eq_append : ∃ s, r.place.Written s ∧ t = r.path ++ s
  no_comma : ',' ∉ r.path
  front : ∀ c ∈ r.path.head?, Text.isBlank c = false
  bare : r.place = .whole → IsBare r.path

theorem isNumeral_ofNat (n : Nat) : isNumeral (Text.ofNat n) = true :=
  isNumeral_iff.mpr ⟨Text.ofNat_ne_nil n, fun _ => Text.isDigit_of_mem_ofNat⟩

theorem number_ofNat {n : Nat} (h : (Text.ofNat n).length ≤ Failure.digitLimit) :
    number (Text.ofNat n) = .ok n := by
  unfold number
  rw [if_neg (Nat.not_lt.mpr h), Text.foldl_ofNat]

theorem Place.Written.isInner {place : Place} {s : Text} (h : place.Written s) :
    ∀ c ∈ s, IsInner c := by
  intro c hc
  cases h with
  | whole => cases hc
  | line hl hn =>
    simp only [List.mem_cons] at hc
    rcases hc with rfl | rfl | hc
    · exact ⟨by decide, by decide⟩
    · exact isInner_of_isLineLetter hl
    · exact isInner_of_isDigit (Text.isDigit_of_mem_ofNat hc)
  | lines hl hd ha hb =>
    simp only [List.cons_append, List.mem_cons, List.mem_append, Option.mem_toList] at hc
    rcases hc with rfl | rfl | hc | rfl | hc | hc
    · exact ⟨by decide, by decide⟩
    · exact isInner_of_isLineLetter hl
    · exact isInner_of_isDigit (Text.isDigit_of_mem_ofNat hc)
    · exact ⟨by decide, by decide⟩
    · exact isInner_of_isLineLetter (hd c hc)
    · exact isInner_of_isDigit (Text.isDigit_of_mem_ofNat hc)
  | symbol hne hname =>
    rcases List.mem_cons.mp hc with rfl | hc
    · exact ⟨by decide, by decide⟩
    · exact isInner_of_isSymbolChar (hname c hc)

theorem Written.no_blank_back {r : Reference} {t : Text} (h : Written r t) :
    ∀ c ∈ t.getLast?, Text.isBlank c = false := by
  obtain ⟨s, hs, rfl⟩ := h.eq_append
  intro c hc
  cases s with
  | nil =>
    have hplace : r.place = .whole := by
      generalize r.place = place at hs
      cases hs
      rfl
    rw [List.append_nil] at hc
    exact (h.bare hplace).back c hc
  | cons d s =>
    rw [List.getLast?_append_of_ne_nil _ (List.cons_ne_nil d s)] at hc
    exact (hs.isInner c (List.mem_of_getLast? hc)).1

theorem Written.no_blank_front {r : Reference} {t : Text} (h : Written r t) :
    ∀ c ∈ t.head?, Text.isBlank c = false := by
  obtain ⟨s, hs, rfl⟩ := h.eq_append
  intro c hc
  rw [List.head?_append, Option.mem_def, Option.or_eq_some_iff] at hc
  rcases hc with hc | ⟨-, hc⟩
  · exact h.front c hc
  · exact (hs.isInner c (List.mem_of_head? hc)).1

theorem Written.comma_not_mem {r : Reference} {t : Text} (h : Written r t) : ',' ∉ t := by
  obtain ⟨s, hs, rfl⟩ := h.eq_append
  intro hc
  rcases List.mem_append.mp hc with hc | hc
  · exact h.no_comma hc
  · exact (hs.isInner ',' hc).2 rfl

theorem Written.ne_nil {r : Reference} {t : Text} (h : Written r t) : t ≠ [] := by
  obtain ⟨s, hs, rfl⟩ := h.eq_append
  intro hnil
  obtain ⟨hpath, hsuffix⟩ := List.append_eq_nil_iff.mp hnil
  have hplace : r.place = .whole := by
    rw [hsuffix] at hs
    generalize r.place = place at hs
    cases hs
    rfl
  exact (h.bare hplace).ne_nil hpath

/-! ## Reading one reference -/

/-- Of two cuts of one text at different characters, one lies behind the other. -/
theorem mem_or_mem_of_append_cons_eq {c d : Char} (hne : c ≠ d) {p q s t : Text}
    (h : p ++ c :: s = q ++ d :: t) : d ∈ s ∨ c ∈ t := by
  rcases List.append_eq_append_iff.mp h with ⟨m, -, hm⟩ | ⟨m, -, hm⟩
  · cases m with
    | nil => exact absurd (List.cons.inj hm).1 hne
    | cons e m =>
      rw [List.cons_append, List.cons.injEq] at hm
      left
      rw [hm.2]
      simp
  · cases m with
    | nil => exact absurd (List.cons.inj hm).1.symm hne
    | cons e m =>
      rw [List.cons_append, List.cons.injEq] at hm
      right
      rw [hm.2]
      simp

theorem ofSymbol?_of_symbol {token path name : Text}
    (ht : Tag.withoutFinalBreak token = path ++ '#' :: name) (hne : name ≠ [])
    (hname : ∀ c ∈ name, isSymbolChar c = true) :
    ofSymbol? token = some { path, place := .symbol name } := by
  have hhash : '#' ∉ name := by
    intro hc
    have := hname '#' hc
    revert this
    decide
  unfold ofSymbol?
  rw [cutAtLast?_eq_some_iff.mpr ⟨ht, hhash⟩]
  dsimp only
  rw [if_pos]
  simpa [hne] using hname

theorem ofSymbol?_of_no_symbol {token : Text}
    (h : ∀ path name, Tag.withoutFinalBreak token = path ++ '#' :: name → name ≠ [] →
      ∃ c ∈ name, isSymbolChar c = false) : ofSymbol? token = none := by
  unfold ofSymbol?
  split
  · rfl
  · rename_i path name hcut
    obtain ⟨ht, -⟩ := cutAtLast?_eq_some_iff.mp hcut
    rw [if_neg]
    intro hname
    simp only [Bool.and_eq_true, Bool.not_eq_true', List.isEmpty_eq_false_iff,
      List.all_eq_true] at hname
    obtain ⟨c, hc, hsymbol⟩ := h path name ht hname.1
    rw [hname.2 c hc] at hsymbol
    cases hsymbol

/-- A line suffix behind a path is read back, whatever the path holds. -/
theorem ofToken_of_lineSuffix {token path suffix first : Text} {last : Option Text}
    {range : LineRange} (ht : Tag.withoutFinalBreak token = path ++ ':' :: suffix)
    (hs : LineSuffix suffix first last) (hrange : lineRange first last = .ok range) :
    ofToken token = .ok { path, place := .lines range } := by
  unfold ofToken
  rw [ofLines?_of_lineSuffix ht hs, hrange]
  rfl

/-- No text ends in a line suffix and in a symbol suffix. -/
theorem not_lineSuffix_of_symbol {path name p s first : Text} {last : Option Text}
    (hname : ∀ c ∈ name, isSymbolChar c = true) (heq : path ++ '#' :: name = p ++ ':' :: s) :
    ¬ LineSuffix s first last := by
  intro hs
  rcases mem_or_mem_of_append_cons_eq (by decide) heq with hcolon | hhash
  · have := hname ':' hcolon
    revert this
    decide
  · exact hash_not_mem_of_lineSuffix hs hhash

/-- A symbol suffix behind a path is read back: no line suffix can end where it does. -/
theorem ofToken_of_symbol {token path name : Text}
    (ht : Tag.withoutFinalBreak token = path ++ '#' :: name) (hne : name ≠ [])
    (hname : ∀ c ∈ name, isSymbolChar c = true) :
    ofToken token = .ok { path, place := .symbol name } := by
  have hlines : ofLines? token = .ok none := by
    apply ofLines?_of_no_lineSuffix
    intro p s first last hp
    exact not_lineSuffix_of_symbol hname (ht.symm.trans hp)
  unfold ofToken
  rw [hlines, Traverse.ok_bind]
  dsimp only
  rw [ofSymbol?_of_symbol ht hne hname]
  rfl

/-- A token without a suffix is a path as it stands. -/
theorem ofToken_of_no_suffix {token : Text} (ht : Tag.withoutFinalBreak token = token)
    (hlines : ∀ p s first last, token = p ++ ':' :: s → ¬ LineSuffix s first last)
    (hsymbol : ∀ p name, token = p ++ '#' :: name → name ≠ [] →
      ∃ c ∈ name, isSymbolChar c = false) :
    ofToken token = .ok { path := token, place := .whole } := by
  unfold ofToken
  rw [ofLines?_of_no_lineSuffix (by rw [ht]; exact hlines), Traverse.ok_bind]
  dsimp only
  rw [ofSymbol?_of_no_symbol (by rw [ht]; exact hsymbol)]
  rfl

/-- What is written for a reference is read as that reference. -/
theorem ofToken_of_written {r : Reference} {t : Text} (h : Written r t) : ofToken t = .ok r := by
  have ht : Tag.withoutFinalBreak t = t := Tag.withoutFinalBreak_of_not_isBlank h.no_blank_back
  obtain ⟨s, hs, heq⟩ := h.eq_append
  obtain ⟨path, place⟩ := r
  cases hs with
  | whole =>
    rw [heq, List.append_nil] at ht ⊢
    exact ofToken_of_no_suffix ht (h.bare rfl).no_lines (h.bare rfl).no_symbol
  | @line c n hc hn =>
    refine ofToken_of_lineSuffix (ht.trans heq) (.single hc (isNumeral_ofNat n)) ?_
    unfold lineRange
    dsimp only
    rw [number_ofNat hn]
    rfl
  | @lines c a b letter hc hd ha hb =>
    refine ofToken_of_lineSuffix (ht.trans heq)
      (.range hc (isNumeral_ofNat a) (isNumeral_ofNat b) hd) ?_
    unfold lineRange
    dsimp only
    rw [number_ofNat ha, number_ofNat hb]
    rfl
  | symbol hne hname => exact ofToken_of_symbol (ht.trans heq) hne hname

/-! ## Payloads -/

/-- What may stand between two commas: a text with blanks around it, or blanks alone. -/
inductive Piece : List Text → Text → Prop
  | text {before t after : Text} (hbefore : Text.IsGap before) (hafter : Text.IsGap after) :
    Piece [t] (before ++ t ++ after)
  | blank {gap : Text} (h : Text.IsGap gap) : Piece [] gap

/-- Texts with commas between them, one comma at least. -/
inductive WithCommas : List Text → Text → Prop
  | pair {ts us : List Text} {p q : Text} (hp : Piece ts p) (hq : Piece us q) :
    WithCommas (ts ++ us) (p ++ ',' :: q)
  | cons {ts us : List Text} {p q : Text} (hp : Piece ts p) (hq : WithCommas us q) :
    WithCommas (ts ++ us) (p ++ ',' :: q)

/-- Texts with blanks between them. -/
inductive WithBlanks : List Text → Text → Prop
  | single (t : Text) : WithBlanks [t] t
  | cons {t gap rest : Text} {ts : List Text} (hgap : Text.IsGap gap) (hsome : gap ≠ [])
      (hrest : WithBlanks ts rest) : WithBlanks (t :: ts) (t ++ gap ++ rest)

/-- How texts are listed in a payload; those that hold blanks need commas. -/
inductive Listed (ts : List Text) (payload : Text) : Prop
  | commas (h : WithCommas ts payload)
  | blanks (h : WithBlanks ts payload) (hts : ∀ t ∈ ts, ∀ c ∈ t, Text.isBlank c = false)

/-- The trimmed pieces between the commas of a payload, less the empty ones. -/
def piecesOf (payload : Text) : List Text :=
  ((Text.splitAtEach (· == ',') payload).map Text.trim).filter fun t => !t.isEmpty

theorem tokens_of_comma {payload : Text} (h : ',' ∈ payload) :
    tokens payload = piecesOf payload := by
  unfold tokens
  rw [if_pos (List.contains_iff_mem.mpr h)]
  rfl

theorem tokens_of_no_comma {payload : Text} (h : ',' ∉ payload) :
    tokens payload = Text.words payload := by
  unfold tokens
  rw [if_neg]
  rwa [List.contains_iff_mem]

theorem piecesOf_append_comma (p q : Text) :
    piecesOf (p ++ ',' :: q) = piecesOf p ++ piecesOf q := by
  unfold piecesOf
  rw [Text.splitAtEach_append_cut (by decide), List.map_append, List.filter_append]

theorem comma_not_mem_of_isGap {gap : Text} (h : Text.IsGap gap) : ',' ∉ gap := by
  intro hc
  have hblank := h ',' hc
  exact absurd hblank (by decide)

theorem piecesOf_of_comma_not_mem {p : Text} (h : ',' ∉ p) :
    piecesOf p = if Text.trim p = [] then [] else [Text.trim p] := by
  have hcut : ∀ c ∈ p, (c == ',') = false := by
    intro c hc
    rw [beq_eq_false_iff_ne]
    rintro rfl
    exact h hc
  unfold piecesOf
  rw [Text.splitAtEach_of_uncut hcut, List.map_singleton]
  split <;> simp [*]

theorem piecesOf_of_piece {ts : List Text} {p : Text} (h : Piece ts p)
    (hts : ∀ t ∈ ts, ∃ r, Written r t) : piecesOf p = ts := by
  cases h with
  | @text before t after hbefore hafter =>
    obtain ⟨r, hr⟩ := hts t List.mem_cons_self
    have hcomma : ',' ∉ before ++ t ++ after := by
      simp only [List.mem_append, not_or]
      exact ⟨⟨comma_not_mem_of_isGap hbefore, hr.comma_not_mem⟩, comma_not_mem_of_isGap hafter⟩
    rw [piecesOf_of_comma_not_mem hcomma,
      Text.trim_padded hbefore hafter hr.no_blank_front hr.no_blank_back, if_neg hr.ne_nil]
  | blank hgap =>
    rw [piecesOf_of_comma_not_mem (comma_not_mem_of_isGap hgap), if_pos (Text.trim_of_isGap hgap)]

theorem tokens_of_withCommas {ts : List Text} {payload : Text} (h : WithCommas ts payload)
    (hts : ∀ t ∈ ts, ∃ r, Written r t) : tokens payload = ts := by
  have hcomma : ',' ∈ payload := by
    cases h <;> simp
  rw [tokens_of_comma hcomma]
  clear hcomma
  induction h with
  | pair hp hq =>
    rw [List.forall_mem_append] at hts
    rw [piecesOf_append_comma, piecesOf_of_piece hp hts.1, piecesOf_of_piece hq hts.2]
  | cons hp hq ih =>
    rw [List.forall_mem_append] at hts
    rw [piecesOf_append_comma, piecesOf_of_piece hp hts.1, ih hts.2]

theorem comma_not_mem_of_withBlanks {ts : List Text} {payload : Text} (h : WithBlanks ts payload)
    (hts : ∀ t ∈ ts, ',' ∉ t) : ',' ∉ payload := by
  induction h with
  | single t => exact hts t List.mem_cons_self
  | cons hgap hsome hrest ih =>
    rw [List.forall_mem_cons] at hts
    simp only [List.mem_append, not_or]
    exact ⟨⟨hts.1, comma_not_mem_of_isGap hgap⟩, ih hts.2⟩

theorem words_of_withBlanks {ts : List Text} {payload : Text} (h : WithBlanks ts payload)
    (hne : ∀ t ∈ ts, t ≠ []) (hts : ∀ t ∈ ts, ∀ c ∈ t, Text.isBlank c = false) :
    Text.words payload = ts := by
  induction h with
  | single t =>
    exact Text.words_of_unbroken (hne t List.mem_cons_self) (hts t List.mem_cons_self)
  | cons hgap hsome hrest ih =>
    rw [List.forall_mem_cons] at hne hts
    rw [Text.words_append_gap hts.1 hne.1 hgap hsome, ih hne.2 hts.2]

/-- The tokens of a payload are the texts that it lists. -/
theorem tokens_of_listed {ts : List Text} {payload : Text} (h : Listed ts payload)
    (hts : ∀ t ∈ ts, ∃ r, Written r t) : tokens payload = ts := by
  cases h with
  | commas h => exact tokens_of_withCommas h hts
  | blanks h hblank =>
    have hcomma : ∀ t ∈ ts, ',' ∉ t := by
      intro t ht
      obtain ⟨r, hr⟩ := hts t ht
      exact hr.comma_not_mem
    have hne : ∀ t ∈ ts, t ≠ [] := by
      intro t ht
      obtain ⟨r, hr⟩ := hts t ht
      exact hr.ne_nil
    rw [tokens_of_no_comma (comma_not_mem_of_withBlanks h hcomma),
      words_of_withBlanks h hne hblank]

theorem exists_written_of_mem {rs : List Reference} {ts : List Text}
    (h : List.Forall₂ Written rs ts) {t : Text} (ht : t ∈ ts) : ∃ r, Written r t := by
  induction h with
  | nil => cases ht
  | cons hr _ ih =>
    rcases List.mem_cons.mp ht with rfl | ht
    · exact ⟨_, hr⟩
    · exact ih ht

/-- References that are written and listed in a payload are read back from it, all of them and in
order. -/
theorem mapM_ofToken_tokens {rs : List Reference} {ts : List Text} {payload : Text}
    (hwritten : List.Forall₂ Written rs ts) (hlisted : Listed ts payload) :
    (tokens payload).mapM ofToken = .ok rs := by
  have hts : ∀ t ∈ ts, ∃ r, Written r t := fun t ht => exists_written_of_mem hwritten ht
  rw [tokens_of_listed hlisted hts, Traverse.mapM_eq_ok_iff]
  exact (hwritten.imp fun r t hr => ofToken_of_written hr).flip

/-! ## A sample payload -/

/-- A path with the beginnings of both suffixes in it, a symbol of no path, and a bare path. -/
def sampleReferences : List Reference :=
  [{ path := "a:L3 #b".toList, place := .lines { first := 10, last := some 20 } },
    { path := [], place := .symbol "A.b_c".toList },
    { path := "c:d#e f".toList, place := .whole }]

def sampleTexts : List Text :=
  ["a:L3 #b:l10-L20".toList, "#A.b_c".toList, "c:d#e f".toList]

def samplePayload : Text := "a:L3 #b:l10-L20 ,\t#A.b_c,c:d#e f ".toList

theorem mapM_ofToken_tokens_samplePayload :
    List.Forall₂ Written sampleReferences sampleTexts ∧ Listed sampleTexts samplePayload ∧
      (tokens samplePayload).mapM ofToken = .ok sampleReferences := by
  have hlines : Place.Written (.lines { first := 10, last := some 20 }) ":l10-L20".toList :=
    @Place.Written.lines 'l' 10 20 (some 'L') rfl (by rintro d ⟨⟩; rfl) (by decide) (by decide)
  have hsymbol : Place.Written (.symbol "A.b_c".toList) "#A.b_c".toList :=
    .symbol (List.cons_ne_nil _ _) (List.all_eq_true.mp (by decide))
  have hwritten : List.Forall₂ Written sampleReferences sampleTexts := by
    refine .cons ?_ (.cons ?_ (.cons ?_ .nil))
    · exact ⟨⟨_, hlines, rfl⟩, by decide, by rintro c ⟨⟩; rfl, nofun⟩
    · exact ⟨⟨_, hsymbol, rfl⟩, by decide, nofun, nofun⟩
    · exact ⟨⟨[], .whole, rfl⟩, by decide, by rintro c ⟨⟩; rfl, fun _ => by decide⟩
  have hfirst : Piece ["a:L3 #b:l10-L20".toList] "a:L3 #b:l10-L20 ".toList :=
    @Piece.text [] "a:L3 #b:l10-L20".toList [' '] (by decide) (by decide)
  have hsecond : Piece ["#A.b_c".toList] "\t#A.b_c".toList :=
    @Piece.text ['\t'] "#A.b_c".toList [] (by decide) (by decide)
  have hthird : Piece ["c:d#e f".toList] "c:d#e f ".toList :=
    @Piece.text [] "c:d#e f".toList [' '] (by decide) (by decide)
  have hlisted : Listed sampleTexts samplePayload :=
    .commas (WithCommas.cons hfirst (WithCommas.pair hsecond hthird))
  exact ⟨hwritten, hlisted, mapM_ofToken_tokens hwritten hlisted⟩

end TagLint.Reference
