import TagLint.Proofs.Reference.Totality
import TagLint.Proofs.Reference.Writing
/-!
How a token is read. A token that ends in a line suffix means lines, one that ends in a symbol
suffix means a symbol, and any other is a path as it stands. There is at most one place where a
suffix can begin, and no token ends in both, so the reading is told by what the token ends in.
-/

namespace TagLint.Reference

/-! ## Cuts -/

/-- A path and a line suffix with its numerals. -/
structure LineCut where
  path : Text
  suffix : Text
  first : Text
  last : Option Text

/-- The token is the path, a colon and the suffix. -/
structure LineCut.IsOf (x : LineCut) (token : Text) : Prop where
  eq_append : token = x.path ++ ':' :: x.suffix
  written : LineSuffix x.suffix x.first x.last

/-- The lines that the numerals stand for. -/
def LineCut.range (x : LineCut) : LineRange where
  first := Text.value x.first
  last := x.last.map Text.value

/-- A path and a symbol. -/
structure SymbolCut where
  path : Text
  name : Text

/-- The token is the path, a hash and the symbol. -/
structure SymbolCut.IsOf (x : SymbolCut) (token : Text) : Prop where
  eq_append : token = x.path ++ '#' :: x.name
  ne_nil : x.name ≠ []
  letters : ∀ c ∈ x.name, isSymbolChar c = true

variable {token : Text}

/-- A line suffix begins at the last colon. -/
theorem LineCut.IsOf.unique {x y : LineCut} (hx : x.IsOf token) (hy : y.IsOf token) : y = x := by
  have hcut := cutAtLast?_eq_some_iff.mpr ⟨hx.eq_append, colon_not_mem_of_lineSuffix hx.written⟩
  rw [cutAtLast?_eq_some_iff.mpr ⟨hy.eq_append, colon_not_mem_of_lineSuffix hy.written⟩] at hcut
  have hnumerals := lineNumerals?_of_lineSuffix hx.written
  obtain ⟨path, suffix, first, last⟩ := x
  obtain ⟨path', suffix', first', last'⟩ := y
  cases hcut
  rw [lineNumerals?_of_lineSuffix hy.written] at hnumerals
  cases hnumerals
  rfl

theorem SymbolCut.IsOf.hash_not_mem {x : SymbolCut} (hx : x.IsOf token) : '#' ∉ x.name := by
  intro hmem
  have hsymbol := hx.letters '#' hmem
  revert hsymbol
  decide

/-- A symbol begins at the last hash. -/
theorem SymbolCut.IsOf.unique {x y : SymbolCut} (hx : x.IsOf token) (hy : y.IsOf token) :
    y = x := by
  have hcut := cutAtLast?_eq_some_iff.mpr ⟨hx.eq_append, hx.hash_not_mem⟩
  rw [cutAtLast?_eq_some_iff.mpr ⟨hy.eq_append, hy.hash_not_mem⟩] at hcut
  obtain ⟨path, name⟩ := x
  obtain ⟨path', name'⟩ := y
  cases hcut
  rfl

theorem LineCut.IsOf.not_isOf {x : LineCut} (hx : x.IsOf token) (y : SymbolCut) :
    ¬ y.IsOf token := fun hy =>
  not_lineSuffix_of_symbol hy.letters (hy.eq_append.symm.trans hx.eq_append) hx.written

/-! ## Reading -/

/-- Numerals stand in their suffix. -/
theorem infix_of_lineSuffix {t first : Text} {last : Option Text} (h : LineSuffix t first last) :
    (first <:+: t ∧ isNumeral first = true) ∧ ∀ l ∈ last, l <:+: t ∧ isNumeral l = true := by
  cases h with
  | @single c first hc hf =>
    exact ⟨⟨(List.suffix_cons c first).isInfix, hf⟩, nofun⟩
  | @range c first last letter hc hf hl hd =>
    refine ⟨⟨⟨[c], '-' :: (letter.toList ++ last), by simp⟩, hf⟩, fun l hlast => ?_⟩
    cases hlast
    exact ⟨⟨c :: first ++ '-' :: letter.toList, [], by simp⟩, hl⟩

theorem number_eq_value {digits : Text} (h : digits.length ≤ Failure.digitLimit) :
    number digits = .ok (Text.value digits) := by
  unfold number
  rw [if_neg (Nat.not_lt.mpr h), Text.foldl_eq_value]

/-- No run of digits in the text is too long to be read. -/
def HasShortRuns (t : Text) : Prop :=
  ∀ run, run <:+: t → (∀ c ∈ run, c.isDigit = true) → run.length ≤ Failure.digitLimit

theorem ofToken_of_lineCut (hend : token.getLast? ≠ some '\n') (hshort : HasShortRuns token)
    {x : LineCut} (hx : x.IsOf token) :
    ofToken token = .ok { path := x.path, place := .lines x.range } := by
  have hread : ∀ ds, ds <:+: x.suffix → isNumeral ds = true →
      number ds = .ok (Text.value ds) := by
    intro ds hds hnumeral
    have hmiddle : ds <:+: token := by
      rw [hx.eq_append]
      exact hds.trans ⟨x.path ++ [':'], [], by simp⟩
    exact number_eq_value (hshort ds hmiddle (isNumeral_iff.mp hnumeral).2)
  obtain ⟨⟨hfirst, hf⟩, hlast⟩ := infix_of_lineSuffix hx.written
  refine ofToken_of_lineSuffix ((Tag.withoutFinalBreak_eq_self_iff.mpr hend).trans hx.eq_append)
    hx.written ?_
  unfold lineRange LineCut.range
  cases hl : x.last with
  | none =>
    dsimp only
    rw [hread x.first hfirst hf]
    rfl
  | some l =>
    obtain ⟨hmiddle, hnumeral⟩ := hlast l hl
    dsimp only
    rw [hread x.first hfirst hf, hread l hmiddle hnumeral]
    rfl

theorem ofToken_of_symbolCut (hend : token.getLast? ≠ some '\n') {x : SymbolCut}
    (hx : x.IsOf token) : ofToken token = .ok { path := x.path, place := .symbol x.name } := by
  have hwhole := Tag.withoutFinalBreak_eq_self_iff.mpr hend
  exact ofToken_of_symbol (hwhole.trans hx.eq_append) hx.ne_nil hx.letters

theorem ofToken_of_no_cut (hend : token.getLast? ≠ some '\n')
    (hlines : ∀ x : LineCut, ¬ x.IsOf token) (hsymbol : ∀ x : SymbolCut, ¬ x.IsOf token) :
    ofToken token = .ok { path := token, place := .whole } := by
  refine ofToken_of_no_suffix (Tag.withoutFinalBreak_eq_self_iff.mpr hend) ?_ ?_
  · exact fun path suffix first last ht hs => hlines ⟨path, suffix, first, last⟩ ⟨ht, hs⟩
  · intro path name ht hne
    by_contra hall
    refine hsymbol ⟨path, name⟩ ⟨ht, hne, fun c hc => ?_⟩
    by_contra hother
    exact hall ⟨c, hc, Bool.not_eq_true _ ▸ hother⟩

/-- What a token is read as, told by what it ends in. -/
structure IsReading (token : Text) (r : Reference) : Prop where
  lines_iff : ∀ range, r.place.lines? = some range ↔
    ∃ x : LineCut, x.IsOf token ∧ x.range = range
  symbol_iff : ∀ name, r.place.symbol? = some name ↔
    (∀ x : LineCut, ¬ x.IsOf token) ∧ ∃ x : SymbolCut, x.IsOf token ∧ x.name = name
  path_of_lines : ∀ x : LineCut, x.IsOf token → r.path = x.path
  path_of_symbol : ∀ x : SymbolCut, x.IsOf token → r.path = x.path
  path_of_none : (∀ x : LineCut, ¬ x.IsOf token) → (∀ x : SymbolCut, ¬ x.IsOf token) →
    r.path = token

theorem isReading_lines {x : LineCut} (hx : x.IsOf token) :
    IsReading token { path := x.path, place := .lines x.range } where
  lines_iff range := by
    constructor
    · exact fun h => ⟨x, hx, Option.some.inj h⟩
    · rintro ⟨y, hy, rfl⟩
      rw [hx.unique hy]
      rfl
  symbol_iff name := iff_of_false nofun fun h => h.1 x hx
  path_of_lines y hy := by rw [hx.unique hy]
  path_of_symbol y hy := absurd hy (hx.not_isOf y)
  path_of_none h := absurd hx (h x)

theorem isReading_symbol {x : SymbolCut} (hlines : ∀ y : LineCut, ¬ y.IsOf token)
    (hx : x.IsOf token) : IsReading token { path := x.path, place := .symbol x.name } where
  lines_iff range := iff_of_false nofun fun ⟨y, hy, _⟩ => hlines y hy
  symbol_iff name := by
    constructor
    · exact fun h => ⟨hlines, x, hx, Option.some.inj h⟩
    · rintro ⟨-, y, hy, rfl⟩
      rw [hx.unique hy]
      rfl
  path_of_lines y hy := absurd hy (hlines y)
  path_of_symbol y hy := by rw [hx.unique hy]
  path_of_none _ h := absurd hx (h x)

theorem isReading_whole (hlines : ∀ x : LineCut, ¬ x.IsOf token)
    (hsymbol : ∀ x : SymbolCut, ¬ x.IsOf token) :
    IsReading token { path := token, place := .whole } where
  lines_iff _ := iff_of_false nofun fun ⟨x, hx, _⟩ => hlines x hx
  symbol_iff _ := iff_of_false nofun fun ⟨_, x, hx, _⟩ => hsymbol x hx
  path_of_lines x hx := absurd hx (hlines x)
  path_of_symbol x hx := absurd hx (hsymbol x)
  path_of_none _ _ := rfl

theorem exists_isReading (hend : token.getLast? ≠ some '\n') (hshort : HasShortRuns token) :
    ∃ r, ofToken token = .ok r ∧ IsReading token r := by
  by_cases hlines : ∃ x : LineCut, x.IsOf token
  · obtain ⟨x, hx⟩ := hlines
    exact ⟨_, ofToken_of_lineCut hend hshort hx, isReading_lines hx⟩
  · rw [not_exists] at hlines
    by_cases hsymbol : ∃ x : SymbolCut, x.IsOf token
    · obtain ⟨x, hx⟩ := hsymbol
      exact ⟨_, ofToken_of_symbolCut hend hx, isReading_symbol hlines hx⟩
    · rw [not_exists] at hsymbol
      exact ⟨_, ofToken_of_no_cut hend hlines hsymbol, isReading_whole hlines hsymbol⟩

/-! ## Three cases -/

theorem exists_lines_of_ofLines? {r : Reference} (h : ofLines? token = .ok (some r)) :
    ∃ range, r.place = .lines range := by
  by_cases hcut : ∃ path suffix first last,
      Tag.withoutFinalBreak token = path ++ ':' :: suffix ∧ LineSuffix suffix first last
  · obtain ⟨path, suffix, first, last, ht, hs⟩ := hcut
    rw [ofLines?_of_lineSuffix ht hs] at h
    cases hrange : lineRange first last with
    | error failure =>
      rw [hrange] at h
      cases h
    | ok range =>
      rw [hrange] at h
      cases h
      exact ⟨range, rfl⟩
  · rw [ofLines?_of_no_lineSuffix fun path suffix first last ht hs =>
      hcut ⟨path, suffix, first, last, ht, hs⟩] at h
    cases h

theorem exists_symbol_of_ofSymbol? {r : Reference} (h : ofSymbol? token = some r) :
    ∃ name, r.place = .symbol name := by
  unfold ofSymbol? at h
  split at h
  · cases h
  · split at h
    · cases h
      exact ⟨_, rfl⟩
    · cases h

/-- Only the token itself is read as a path that means neither lines nor a symbol. -/
theorem path_of_whole {r : Reference} (h : ofToken token = .ok r) (hwhole : r.place = .whole) :
    r.path = token := by
  unfold ofToken at h
  obtain ⟨found, hlines, h⟩ := Traverse.bind_eq_ok.mp h
  cases found with
  | some r' =>
    cases h
    obtain ⟨range, hrange⟩ := exists_lines_of_ofLines? hlines
    rw [hwhole] at hrange
    cases hrange
  | none =>
    cases hsymbol : ofSymbol? token with
    | some r' =>
      rw [hsymbol] at h
      cases h
      obtain ⟨name, hname⟩ := exists_symbol_of_ofSymbol? hsymbol
      have hsame : r'.place = .whole := hwhole
      rw [hname] at hsame
      cases hsame
    | none =>
      rw [hsymbol] at h
      cases h
      rfl

/-- A token of a payload ends in no line feed. A token that ends in none and has no run of digits
that is too long is read by what it ends in, and it ends in a line suffix or in a symbol suffix in
at most one way. Every token that is read at all means lines, or a symbol, or nothing but itself. -/
theorem ofToken_isReading :
    (∀ payload, ∀ token ∈ tokens payload, token.getLast? ≠ some '\n') ∧
    (∀ token : Text, token.getLast? ≠ some '\n' → HasShortRuns token →
      ∃ r, ofToken token = .ok r ∧ IsReading token r) ∧
    (∀ (token : Text) (x y : LineCut), x.IsOf token → y.IsOf token → x = y) ∧
    (∀ (token : Text) (x y : SymbolCut), x.IsOf token → y.IsOf token → x = y) ∧
    ∀ token r, ofToken token = .ok r →
      ((∃ range, r.place.lines? = some range) ∧ r.place.symbol? = none) ∨
      (r.place.lines? = none ∧ ∃ name, r.place.symbol? = some name) ∨
      (r.place.lines? = none ∧ r.place.symbol? = none ∧ r.path = token) := by
  refine ⟨fun payload token htoken => ?_, fun token => exists_isReading,
    fun token x y hx hy => hy.unique hx, fun token x y hx hy => hy.unique hx, fun token r h => ?_⟩
  · exact Tag.withoutFinalBreak_eq_self_iff.mp (withoutFinalBreak_of_mem_tokens htoken)
  · cases hplace : r.place with
    | whole => exact Or.inr (Or.inr ⟨rfl, rfl, path_of_whole h hplace⟩)
    | lines range => exact Or.inl ⟨⟨range, rfl⟩, rfl⟩
    | symbol name => exact Or.inr (Or.inl ⟨rfl, name, rfl⟩)

/-- Two line suffixes and a symbol suffix, of which only what stands last counts. -/
def sampleToken : Text := "a:L3#x.py:l2#B.c:l007-12".toList

theorem ofToken_isReading_sampleToken :
    sampleToken.getLast? ≠ some '\n' ∧ HasShortRuns sampleToken ∧
      ∃ r, ofToken sampleToken = .ok r ∧ r.path = "a:L3#x.py:l2#B.c".toList ∧
        r.place.lines? = some { first := 7, last := some 12 } ∧ r.place.symbol? = none := by
  have hend : sampleToken.getLast? ≠ some '\n' := by decide
  have hshort : HasShortRuns sampleToken := fun run hrun _ => hrun.length_le.trans (by decide)
  obtain ⟨r, hr, hreading⟩ := ofToken_isReading.2.1 sampleToken hend hshort
  let cut : LineCut := ⟨"a:L3#x.py:l2#B.c".toList, "l007-12".toList, "007".toList, some "12".toList⟩
  have hcut : cut.IsOf sampleToken := ⟨by decide, lineSuffix_of_lineNumerals? (by decide)⟩
  refine ⟨hend, hshort, r, hr, hreading.path_of_lines cut hcut, ?_, ?_⟩
  · exact (hreading.lines_iff _).mpr ⟨cut, hcut, rfl⟩
  · rw [Option.eq_none_iff_forall_ne_some]
    exact fun name hname => ((hreading.symbol_iff name).mp hname).1 cut hcut

end TagLint.Reference
