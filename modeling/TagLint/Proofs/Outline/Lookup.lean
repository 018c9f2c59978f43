import TagLint.Outline.Symbol
import TagLint.Proofs.Text.Pieces
import Mathlib.Data.List.Nodup
/-!
Looking up a symbol by its dotted name. The search takes at each level the first symbol with the
next name and never comes back (`Leads`), so what it finds stands under the names that were asked
for (`StandsAt`). Where names tell siblings apart, are not empty and hold no dot, every symbol of a
tree is found under its own names, and a dotted name that is not made of the names of a symbol is
not found (`locate_eq_ok_iff_standsAt`).
-/

namespace TagLint.Symbol

variable {symbols : List Symbol} {path : List Text} {name dotted : Text} {s : Symbol}

/-! ## What the search does -/

/-- The first of the symbols with a name. -/
def IsFirst (symbols : List Symbol) (name : Text) (s : Symbol) : Prop :=
  ∃ before after, symbols = before ++ s :: after ∧ s.name = name ∧ ∀ t ∈ before, t.name ≠ name

/-- Names lead to a symbol: the first symbol with the first name is taken, and the other names lead
on from the symbols inside it. -/
inductive Leads : List Symbol → List Text → Symbol → Prop
  | last {symbols : List Symbol} {name : Text} {s : Symbol} (h : IsFirst symbols name s) :
    Leads symbols [name] s
  | inside {symbols : List Symbol} {name : Text} {path : List Text} {s t : Symbol}
    (h : IsFirst symbols name s) (hrest : Leads s.children path t) :
    Leads symbols (name :: path) t

theorem find?_name_eq_some_iff :
    symbols.find? (·.name == name) = some s ↔ IsFirst symbols name s := by
  rw [List.find?_eq_some_iff_append, IsFirst, beq_iff_eq]
  constructor
  · rintro ⟨hname, before, after, hsymbols, hbefore⟩
    exact ⟨before, after, hsymbols, hname, fun t ht => by simpa using hbefore t ht⟩
  · rintro ⟨before, after, hsymbols, hname, hbefore⟩
    exact ⟨hname, before, after, hsymbols, fun t ht => by simpa using hbefore t ht⟩

theorem IsFirst.unique {t : Symbol} (h : IsFirst symbols name s) (h' : IsFirst symbols name t) :
    s = t := by
  rw [← find?_name_eq_some_iff] at h h'
  exact Option.some.inj (h.symm.trans h')

theorem Leads.ne_nil (h : Leads symbols path s) : path ≠ [] := by
  cases h <;> exact List.cons_ne_nil _ _

theorem find?_eq_some_iff_leads : find? path symbols = some s ↔ Leads symbols path s := by
  fun_induction find? path symbols with
  | case1 symbols => exact ⟨nofun, fun h => absurd rfl h.ne_nil⟩
  | case2 name symbols =>
    rw [find?_name_eq_some_iff]
    constructor
    · exact .last
    · intro h
      cases h with
      | last h => exact h
      | inside _ hrest => exact absurd rfl hrest.ne_nil
  | case3 name next path symbols hnone =>
    refine ⟨nofun, fun h => ?_⟩
    cases h with
    | inside h =>
      rw [find?_name_eq_some_iff.mpr h] at hnone
      cases hnone
  | case4 name next path symbols outer houter ih =>
    rw [find?_name_eq_some_iff] at houter
    rw [ih]
    constructor
    · exact .inside houter
    · intro h
      cases h with
      | inside h hrest =>
        rw [houter.unique h]
        exact hrest

/-! ## Where a symbol stands -/

/-- A symbol stands in a tree under these names: those of the symbols around it, from the outermost
on, and its own. -/
inductive StandsAt : List Symbol → List Text → Symbol → Prop
  | top {symbols : List Symbol} {s : Symbol} (h : s ∈ symbols) : StandsAt symbols [s.name] s
  | inside {symbols : List Symbol} {path : List Text} {s t : Symbol} (h : s ∈ symbols)
    (hrest : StandsAt s.children path t) : StandsAt symbols (s.name :: path) t

theorem IsFirst.mem (h : IsFirst symbols name s) : s ∈ symbols := by
  obtain ⟨before, after, rfl, -⟩ := h
  exact List.mem_append_right before List.mem_cons_self

theorem IsFirst.name_eq (h : IsFirst symbols name s) : s.name = name := by
  obtain ⟨-, -, -, hname, -⟩ := h
  exact hname

/-- What the search finds stands under the names that it followed. -/
theorem Leads.standsAt (h : Leads symbols path s) : StandsAt symbols path s := by
  induction h with
  | last h =>
    rw [← h.name_eq]
    exact .top h.mem
  | inside h _ ih =>
    rw [← h.name_eq]
    exact .inside h.mem ih

theorem StandsAt.ne_nil (h : StandsAt symbols path s) : path ≠ [] := by
  cases h <;> exact List.cons_ne_nil _ _

/-- On every level of a tree the names tell the siblings apart, and no name is empty or holds a
dot. -/
inductive IsUnambiguous : List Symbol → Prop
  | intro {symbols : List Symbol} (distinct : (symbols.map Symbol.name).Nodup)
    (named : ∀ s ∈ symbols, s.name ≠ [] ∧ '.' ∉ s.name)
    (inside : ∀ s ∈ symbols, IsUnambiguous s.children) : IsUnambiguous symbols

theorem isFirst_of_mem (hdistinct : (symbols.map Symbol.name).Nodup) (h : s ∈ symbols) :
    IsFirst symbols s.name s := by
  obtain ⟨before, after, rfl⟩ := List.append_of_mem h
  refine ⟨before, after, rfl, rfl, fun t ht hsame => ?_⟩
  rw [List.map_append, List.nodup_append] at hdistinct
  exact hdistinct.2.2 t.name (List.mem_map_of_mem ht) s.name
    (List.mem_map_of_mem List.mem_cons_self) hsame

/-- In an unambiguous tree the search comes to every symbol. -/
theorem StandsAt.leads (h : StandsAt symbols path s) (htree : IsUnambiguous symbols) :
    Leads symbols path s := by
  induction h with
  | top h =>
    obtain ⟨hdistinct, -, -⟩ := htree
    exact .last (isFirst_of_mem hdistinct h)
  | inside h _ ih =>
    obtain ⟨hdistinct, -, hinside⟩ := htree
    exact .inside (isFirst_of_mem hdistinct h) (ih (hinside _ h))

theorem StandsAt.named (h : StandsAt symbols path s) (htree : IsUnambiguous symbols) :
    ∀ name ∈ path, name ≠ [] ∧ '.' ∉ name := by
  induction h with
  | top h =>
    obtain ⟨-, hnamed, -⟩ := htree
    exact List.forall_mem_singleton.mpr (hnamed _ h)
  | inside h _ ih =>
    obtain ⟨-, hnamed, hinside⟩ := htree
    exact List.forall_mem_cons.mpr ⟨hnamed _ h, ih (hinside _ h)⟩

/-! ## Dotted names -/

theorem joinWith_names (dotted : Text) : Text.joinWith ['.'] (names dotted) = dotted :=
  Text.joinWith_splitAtEach '.' dotted

theorem names_joinWith (hne : path ≠ []) (h : ∀ name ∈ path, '.' ∉ name) :
    names (Text.joinWith ['.'] path) = path := by
  refine @Text.splitAtEach_joinWith (· == '.') '.' rfl path hne fun name hname c hc => ?_
  rw [beq_eq_false_iff_ne]
  rintro rfl
  exact h name hname hc

theorem find?_nil (path : List Text) : find? path [] = none := by
  rw [Option.eq_none_iff_forall_ne_some]
  intro s hs
  cases (find?_eq_some_iff_leads.mp hs).standsAt with
  | top h => cases h
  | inside h => cases h

theorem locate_ok (symbols : List Symbol) (dotted : Text) :
    locate (.ok symbols) dotted =
      match find? (names dotted) symbols with
      | some s => .ok s
      | none => .error (if symbols = [] then .noSymbols else .unknown dotted) := by
  cases symbols with
  | nil =>
    rw [find?_nil]
    rfl
  | cons s symbols =>
    cases h : find? (names dotted) (s :: symbols) with
    | none => simp [locate, h]
    | some t => simp [locate, h]

theorem locate_eq_ok_iff :
    locate (.ok symbols) dotted = .ok s ↔ Leads symbols (names dotted) s := by
  rw [locate_ok, ← find?_eq_some_iff_leads]
  cases find? (names dotted) symbols <;> simp

/-- A dotted name that is not made of the names of a symbol is not found, whatever the tree. -/
theorem locate_eq_error
    (h : ∀ path s, StandsAt symbols path s → Text.joinWith ['.'] path ≠ dotted) :
    locate (.ok symbols) dotted =
      .error (if symbols = [] then .noSymbols else .unknown dotted) := by
  rw [locate_ok]
  cases hfind : find? (names dotted) symbols with
  | none => rfl
  | some s =>
    exact absurd (joinWith_names dotted) (h _ s (find?_eq_some_iff_leads.mp hfind).standsAt)

/-- The names of a symbol of an unambiguous tree, with dots between them, have no empty piece. -/
theorem StandsAt.joinWith_ne (h : StandsAt symbols path s) (htree : IsUnambiguous symbols)
    (front back : List Text) :
    Text.joinWith ['.'] path ≠ Text.joinWith ['.'] (front ++ [] :: back) := by
  intro hsame
  have hempty : [] ∈ names (Text.joinWith ['.'] (front ++ [] :: back)) :=
    @Text.splitAtEach_subset_joinWith (· == '.') '.' rfl [] _
      (List.mem_append_right front List.mem_cons_self) [] List.mem_cons_self
  rw [← hsame, names_joinWith h.ne_nil fun name hname => (h.named htree name hname).2] at hempty
  exact (h.named htree [] hempty).1 rfl

/-- What is found under names is reached by taking at each level the first symbol with the next
name, and so it stands under these names; and no symbol is found under a dotted name that is not
made of the names of a symbol. In an unambiguous tree each symbol, however deep, is found under its
own names, and under them with dots between them, and a dotted name with an empty piece is not
found. -/
theorem locate_eq_ok_iff_standsAt (symbols : List Symbol) :
    (∀ path s, find? path symbols = some s ↔ Leads symbols path s) ∧
    (∀ path s, Leads symbols path s → StandsAt symbols path s) ∧
    (∀ dotted, (∀ path s, StandsAt symbols path s → Text.joinWith ['.'] path ≠ dotted) →
      locate (.ok symbols) dotted =
        .error (if symbols = [] then .noSymbols else .unknown dotted)) ∧
    (IsUnambiguous symbols →
      (∀ path s, StandsAt symbols path s ↔ find? path symbols = some s) ∧
      (∀ dotted s, locate (.ok symbols) dotted = .ok s ↔
        ∃ path, StandsAt symbols path s ∧ Text.joinWith ['.'] path = dotted) ∧
      ∀ front back, ∃ absence,
        locate (.ok symbols) (Text.joinWith ['.'] (front ++ [] :: back)) = .error absence) := by
  refine ⟨fun path s => find?_eq_some_iff_leads, fun path s => Leads.standsAt,
    fun dotted => locate_eq_error, fun htree => ⟨fun path s => ?_, fun dotted s => ?_,
    fun front back => ⟨_, locate_eq_error fun path s hs => hs.joinWith_ne htree front back⟩⟩⟩
  · rw [find?_eq_some_iff_leads]
    exact ⟨fun h => h.leads htree, Leads.standsAt⟩
  · rw [locate_eq_ok_iff]
    constructor
    · exact fun h => ⟨names dotted, h.standsAt, joinWith_names dotted⟩
    · rintro ⟨path, h, rfl⟩
      rw [names_joinWith h.ne_nil fun name hname => (h.named htree name hname).2]
      exact h.leads htree

/-- A symbol on the third level of the sample tree. -/
def deepSymbol : Symbol := .mk "deep".toList 6 12 []

/-- A symbol on the second level, with one inside it. -/
def middleSymbol : Symbol := .mk "Outer".toList 5 10 [deepSymbol]

/-- A symbol with one of the same name inside it. -/
def outerSymbol : Symbol := .mk "Outer".toList 0 6 [.mk "inner".toList 3 8 [], middleSymbol]

/-- A tree in which names are used again on other levels. -/
def sampleTree : List Symbol := [outerSymbol, .mk "inner".toList 10 4 []]

/-- Two symbols of the sample tree, and a name that stops short of one. -/
theorem locate_eq_ok_iff_standsAt_sampleTree :
    IsUnambiguous sampleTree ∧
      locate (.ok sampleTree) "Outer.Outer.deep".toList = .ok (.mk "deep".toList 6 12 []) ∧
      locate (.ok sampleTree) "inner".toList = .ok (.mk "inner".toList 10 4 []) ∧
      ∃ absence, locate (.ok sampleTree) "Outer.".toList = .error absence := by
  have hleaf : IsUnambiguous [] := ⟨List.nodup_nil, nofun, nofun⟩
  have hdeep : IsUnambiguous middleSymbol.children :=
    ⟨by decide, by decide, List.forall_mem_singleton.mpr hleaf⟩
  have hmiddle : IsUnambiguous outerSymbol.children :=
    ⟨by decide, by decide,
      List.forall_mem_cons.mpr ⟨hleaf, List.forall_mem_singleton.mpr hdeep⟩⟩
  have htree : IsUnambiguous sampleTree :=
    ⟨by decide, by decide,
      List.forall_mem_cons.mpr ⟨hmiddle, List.forall_mem_singleton.mpr hleaf⟩⟩
  have hstands : StandsAt sampleTree ["Outer".toList, "Outer".toList, "deep".toList] deepSymbol :=
    .inside (s := outerSymbol) List.mem_cons_self
      (.inside (s := middleSymbol) (List.mem_cons_of_mem _ List.mem_cons_self)
        (.top (s := deepSymbol) List.mem_cons_self))
  have hstands' : StandsAt sampleTree ["inner".toList] (.mk "inner".toList 10 4 []) :=
    .top (s := .mk "inner".toList 10 4 []) (List.mem_cons_of_mem _ List.mem_cons_self)
  obtain ⟨-, hfound, hempty⟩ := (locate_eq_ok_iff_standsAt sampleTree).2.2.2 htree
  exact ⟨htree, (hfound _ _).mpr ⟨_, hstands, rfl⟩, (hfound _ _).mpr ⟨_, hstands', rfl⟩,
    hempty ["Outer".toList] []⟩

end TagLint.Symbol
