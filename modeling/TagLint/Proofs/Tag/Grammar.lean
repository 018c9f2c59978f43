import TagLint.Proofs.Tag.Comment
import Mathlib.Data.Nat.Find
/-!
Which lines have a tag key, and which have a tag. On a line without line feeds the key starts at the
first place, from the first marker on, where a marker is followed by a name; the comment is looked
for in front of the first marker only. The key takes in the whole name. A tag is a key whose name is
that of a kind, and it takes in the line from there to its end.
-/

namespace TagLint.Tag

/-! ## Names on a line -/

/-- The marker stands at this place of the line, with a name behind it: all name characters that
stand there, at least one, and no word character after them. -/
structure IsNamed (line : Text) (start : Nat) (name rest : Text) : Prop where
  eq_append : line.drop start = marker ++ (name ++ rest)
  ne_nil : name ≠ []
  letters : ∀ c ∈ name, isNameChar c = true
  maximal : ∀ c ∈ rest.head?, isNameChar c = false
  ended : ∀ c ∈ rest.head?, isWordChar c = false

/-- The first marker of the line is here, and it stands in a comment. -/
structure IsCommented (line : Text) (place : Nat) : Prop where
  first : Text.IsFirstAt marker line place
  comment : Comment.start? line place ≠ none

/-- The first name at or behind the first marker, which stands in a comment. -/
structure IsKeyAt (line : Text) (start : Nat) (name rest : Text) : Prop extends
    IsNamed line start name rest where
  least : ∃ first ≤ start, IsCommented line first ∧
    ∀ p name rest, first ≤ p → IsNamed line p name rest → start ≤ p

variable {line name rest payload : Text} {start : Nat}

theorem isNamed_iff (hline : '\n' ∉ line) :
    IsNamed line start name rest ↔ IsHead (line.drop start) name rest := by
  constructor
  · intro h
    refine ⟨h.eq_append, h.ne_nil, h.letters, h.ended, fun hmem => hline ?_⟩
    refine List.mem_of_mem_drop (i := start) ?_
    rw [h.eq_append]
    simp [List.mem_of_mem_dropLast hmem]
  · intro h
    refine ⟨h.eq_append, h.ne_nil, h.letters, fun c hc => ?_, h.ended⟩
    by_contra hname
    have hword := isWordChar_of_isNameChar (Bool.not_eq_false _ ▸ hname)
    rw [h.ended c hc] at hword
    cases hword

theorem notMem_of_isNamed (hline : '\n' ∉ line) (h : IsNamed line start name rest) :
    '\n' ∉ rest := by
  intro hmem
  refine hline (List.mem_of_mem_drop (i := start) ?_)
  rw [h.eq_append]
  simp [hmem]

theorem headOf?_drop_eq_some_iff (hline : '\n' ∉ line) :
    headOf? (line.drop start) = some (name, rest) ↔ IsNamed line start name rest := by
  have hwhole : ∀ r, IsNamed line start name r → withoutFinalBreak r = r := by
    intro r hr
    rw [withoutFinalBreak_eq_self_iff]
    exact fun hlast => notMem_of_isNamed hline hr (List.mem_of_getLast? hlast)
  rw [headOf?_eq_some_iff]
  constructor
  · rintro ⟨r, hhead, rfl⟩
    have hnamed := (isNamed_iff hline).mpr hhead
    rw [hwhole r hnamed]
    exact hnamed
  · intro h
    exact ⟨rest, (isNamed_iff hline).mp h, (hwhole rest h).symm⟩

/-! ## Searching -/

theorem startsTag_of_headOf? {t : Text} (h : headOf? t = some (name, payload)) : StartsTag t := by
  rw [startsTag_iff, h]
  exact Option.some_ne_none _

theorem not_startsTag_iff {t : Text} : ¬ StartsTag t ↔ headOf? t = none := by
  rw [startsTag_iff, not_not]

theorem search?_eq_some_iff {t : Text} {i : Nat} :
    search? t = some (i, name, payload) ↔
      headOf? (t.drop i) = some (name, payload) ∧ ∀ j < i, ¬ StartsTag (t.drop j) := by
  induction t generalizing i with
  | nil =>
    refine iff_of_false nofun fun h => ?_
    rw [List.drop_nil] at h
    cases h.1
  | cons c r ih =>
    rw [search?]
    cases hhead : headOf? (c :: r) with
    | some found =>
      constructor
      · intro h
        cases h
        exact ⟨hhead, fun j hj => absurd hj (Nat.not_lt_zero j)⟩
      · rintro ⟨hat, hbefore⟩
        cases i with
        | zero =>
          rw [List.drop_zero, hhead] at hat
          cases hat
          rfl
        | succ i => exact absurd (startsTag_of_headOf? hhead) (hbefore 0 (Nat.succ_pos i))
    | none =>
      rw [Option.map_eq_some_iff]
      constructor
      · rintro ⟨⟨j, found⟩, hj, heq⟩
        cases heq
        obtain ⟨hat, hbefore⟩ := ih.mp hj
        refine ⟨hat, fun k hk => ?_⟩
        cases k with
        | zero => exact not_startsTag_iff.mpr hhead
        | succ k => exact hbefore k (Nat.lt_of_succ_lt_succ hk)
      · rintro ⟨hat, hbefore⟩
        cases i with
        | zero =>
          rw [List.drop_zero, hhead] at hat
          cases hat
        | succ i =>
          refine ⟨(i, name, payload), ih.mpr ⟨hat, fun j hj => ?_⟩, rfl⟩
          exact hbefore (j + 1) (Nat.succ_lt_succ hj)

/-! ## Keys -/

theorem startsTag_drop_iff (hline : '\n' ∉ line) {p : Nat} :
    StartsTag (line.drop p) ↔ ∃ name rest, IsNamed line p name rest := by
  unfold StartsTag
  simp only [isNamed_iff hline]

theorem isKeyAt_iff_locate? (hline : '\n' ∉ line) :
    locate? line = some (start, name, rest) ↔ IsKeyAt line start name rest := by
  constructor
  · intro h
    obtain ⟨first, i, hfirst, hcomment, hsearch, rfl⟩ := exists_of_locate? h
    obtain ⟨hat, hbefore⟩ := search?_eq_some_iff.mp hsearch
    rw [List.drop_drop, headOf?_drop_eq_some_iff hline] at hat
    refine ⟨hat, first, Nat.le_add_right first i, ⟨hfirst, hcomment⟩, ?_⟩
    intro p name rest hp hnamed
    by_contra hlt
    refine hbefore (p - first) (by omega) ?_
    rw [List.drop_drop, Nat.add_sub_cancel' hp, startsTag_drop_iff hline]
    exact ⟨name, rest, hnamed⟩
  · rintro ⟨hnamed, first, hle, ⟨hfirst, hcomment⟩, hleast⟩
    obtain ⟨place, hplace⟩ := Option.ne_none_iff_exists'.mp hcomment
    have hsearch : search? (line.drop first) = some (start - first, name, rest) := by
      refine search?_eq_some_iff.mpr ⟨?_, fun j hj hstarts => ?_⟩
      · rw [List.drop_drop, Nat.add_sub_cancel' hle, headOf?_drop_eq_some_iff hline]
        exact hnamed
      · rw [List.drop_drop, startsTag_drop_iff hline] at hstarts
        obtain ⟨name', rest', hnamed'⟩ := hstarts
        have hstart := hleast (first + j) name' rest' (Nat.le_add_right first j) hnamed'
        omega
    rw [locate?, Text.find?_eq_some_iff.mpr hfirst]
    simp only [Option.bind_eq_bind, Option.bind_some, hplace, hsearch, pure]
    rw [Nat.add_sub_cancel' hle]

theorem exists_isKeyAt_iff :
    (∃ start name rest, IsKeyAt line start name rest) ↔
      ∃ first, IsCommented line first ∧ ∃ p ≥ first, ∃ name rest, IsNamed line p name rest := by
  constructor
  · rintro ⟨start, name, rest, hkey⟩
    obtain ⟨first, hle, hfirst, -⟩ := hkey.least
    exact ⟨first, hfirst, start, hle, name, rest, hkey.toIsNamed⟩
  · rintro ⟨first, hfirst, hsome⟩
    classical
    obtain ⟨hle, name, rest, hnamed⟩ := Nat.find_spec hsome
    exact ⟨Nat.find hsome, name, rest, hnamed, first, hle, hfirst,
      fun p name rest hp hp' => Nat.find_min' hsome ⟨hp, name, rest, hp'⟩⟩

theorem key?_eq_some_iff (hline : '\n' ∉ line) {number : Nat} {k : Key} :
    key? line number = some k ↔
      ∃ name rest, IsKeyAt line k.start name rest ∧ k.key = marker ++ name ∧ k.line = number ∧
        k.stop = k.start + k.key.length := by
  simp only [← isKeyAt_iff_locate? hline]
  unfold key?
  rw [Option.bind_eq_bind, Option.bind_eq_some_iff]
  constructor
  · rintro ⟨⟨start, name, rest⟩, hlocate, h⟩
    cases h
    exact ⟨name, rest, hlocate, rfl, rfl, by simp [Nat.add_assoc]⟩
  · rintro ⟨name, rest, hlocate, hkey, rfl, hstop⟩
    obtain ⟨key, number, start, stop⟩ := k
    dsimp only at hlocate hkey hstop ⊢
    refine ⟨_, hlocate, ?_⟩
    rw [hstop, hkey]
    simp [Nat.add_assoc]

/-! ## Tags -/

theorem ofLine?_of_locate? (h : locate? line = some (start, name, rest)) (number : Nat) :
    ofLine? line number = (Kind.ofName? name).map fun kind =>
      { kind, payload := Text.trim rest, raw := marker ++ name ++ rest, line := number, start,
        stop := start + (marker ++ name ++ rest).length } := by
  unfold ofLine? key?
  simp only [Option.bind_eq_bind, h, Option.bind_some, pure, (of_locate? h).2]
  cases Kind.ofName? name <;> rfl

theorem IsNamed.length_eq (h : IsNamed line start name rest) :
    line.length = start + (marker ++ name ++ rest).length := by
  have hdrop := congrArg List.length h.eq_append
  have hpos : 0 < marker.length := by decide
  simp only [List.length_drop, List.length_append] at hdrop ⊢
  omega

theorem ofLine?_eq_some_iff (hline : '\n' ∉ line) {number : Nat} {t : Tag} :
    ofLine? line number = some t ↔
      ∃ rest, IsKeyAt line t.start t.kind.word rest ∧ t.raw = line.drop t.start ∧
        t.payload = Text.trim rest ∧ t.line = number ∧ t.stop = line.length := by
  constructor
  · intro h
    obtain ⟨⟨start, name, rest⟩, hlocate⟩ : ∃ found, locate? line = some found := by
      obtain ⟨k, hk, -⟩ := Option.bind_eq_some_iff.mp h
      obtain ⟨found, hfound, -⟩ := Option.bind_eq_some_iff.mp hk
      exact ⟨found, hfound⟩
    rw [ofLine?_of_locate? hlocate] at h
    obtain ⟨kind, hkind, rfl⟩ := Option.map_eq_some_iff.mp h
    have hkey := (isKeyAt_iff_locate? hline).mp hlocate
    obtain rfl := (ofName?_eq_some_iff hkey.letters).mp hkind
    refine ⟨rest, hkey, ?_, rfl, rfl, hkey.length_eq.symm⟩
    rw [hkey.eq_append, List.append_assoc]
  · rintro ⟨rest, hkey, hraw, hpayload, rfl, hstop⟩
    obtain ⟨kind, payload, raw, number, start, stop⟩ := t
    dsimp only at hkey hraw hpayload hstop ⊢
    rw [ofLine?_of_locate? ((isKeyAt_iff_locate? hline).mpr hkey),
      (ofName?_eq_some_iff hkey.letters).mpr rfl, Option.map_some, ← hkey.length_eq, hraw,
      hpayload, hstop, hkey.eq_append, List.append_assoc]

/-- A line without line feeds has a key exactly if its first marker stands in a comment and a name
stands there or behind it; the key is the first such name, with its marker. It has a tag exactly if
that name is one of the two; the tag is the line from there on, and its payload is what stands
behind the name, trimmed. -/
theorem key?_ofLine?_iff (hline : '\n' ∉ line) (number : Nat) :
    ((∃ k, key? line number = some k) ↔
      ∃ first, IsCommented line first ∧ ∃ p ≥ first, ∃ name rest, IsNamed line p name rest) ∧
    (∀ k, key? line number = some k ↔
      ∃ name rest, IsKeyAt line k.start name rest ∧ k.key = marker ++ name ∧ k.line = number ∧
        k.stop = k.start + k.key.length) ∧
    ((∃ t, ofLine? line number = some t) ↔
      ∃ start name rest, IsKeyAt line start name rest ∧
        (name = "EXPIRY".toList ∨ name = "SYNC".toList)) ∧
    ∀ t, ofLine? line number = some t ↔
      ∃ rest, IsKeyAt line t.start t.kind.word rest ∧ t.raw = line.drop t.start ∧
        t.payload = Text.trim rest ∧ t.line = number ∧ t.stop = line.length := by
  refine ⟨?_, fun k => key?_eq_some_iff hline, ?_, fun t => ofLine?_eq_some_iff hline⟩
  · rw [← exists_isKeyAt_iff]
    constructor
    · rintro ⟨k, hk⟩
      obtain ⟨name, rest, hkey, -⟩ := (key?_eq_some_iff hline).mp hk
      exact ⟨k.start, name, rest, hkey⟩
    · rintro ⟨start, name, rest, hkey⟩
      exact ⟨⟨marker ++ name, number, start, start + (marker ++ name).length⟩,
        (key?_eq_some_iff hline).mpr ⟨name, rest, hkey, rfl, rfl, rfl⟩⟩
  · constructor
    · rintro ⟨t, ht⟩
      obtain ⟨rest, hkey, -⟩ := (ofLine?_eq_some_iff hline).mp ht
      refine ⟨t.start, t.kind.word, rest, hkey, ?_⟩
      cases t.kind with
      | expiry => exact Or.inl rfl
      | sync => exact Or.inr rfl
    · rintro ⟨start, name, rest, hkey, hname⟩
      obtain ⟨kind, rfl⟩ : ∃ kind : Kind, name = kind.word :=
        hname.elim (fun h => ⟨.expiry, h⟩) fun h => ⟨.sync, h⟩
      exact ⟨⟨kind, Text.trim rest, line.drop start, number, start, line.length⟩,
        (ofLine?_eq_some_iff hline).mpr ⟨rest, hkey, rfl, rfl, rfl, rfl⟩⟩

/-- A marker with a word that is no name, a name with a letter behind it that is no word character,
and one more name. -/
def sampleLine : Text := "# @AI:SYNCx, @AI:SYNCé a.py @AI:EXPIRY ".toList

theorem key?_ofLine?_iff_sampleLine :
    '\n' ∉ sampleLine ∧
      ∃ rest, IsKeyAt sampleLine 13 Kind.sync.word rest ∧
        Text.trim rest = "é a.py @AI:EXPIRY".toList := by
  have hline : '\n' ∉ sampleLine := by decide
  have htag : ofLine? sampleLine 0 = some
      { kind := .sync, payload := "é a.py @AI:EXPIRY".toList,
        raw := "@AI:SYNCé a.py @AI:EXPIRY ".toList, line := 0, start := 13, stop := 39 } := by
    decide +kernel
  obtain ⟨rest, hkey, -, hpayload, -⟩ := ((key?_ofLine?_iff hline 0).2.2.2 _).mp htag
  exact ⟨hline, rest, hkey, hpayload.symm⟩

end TagLint.Tag
