import TagLint.Index.Report
import TagLint.Proofs.Index.History
import TagLint.Proofs.Text.Decimal
/-!
What can be read off the report of an index. Paths without a backtick and a line feed leave the
lines of the report and the marks in them to be found again, whatever the payloads are: the head
says what can be counted in the body, and two indexes have the same report exactly if their groups
show the same (`report_isFaithful`).
-/

namespace TagLint

/-! ## Payloads and moments -/

theorem Tag.payload_of_ofLine? {line : Text} {number : Nat} {t : Tag}
    (h : ofLine? line number = some t) :
    '\n' ∉ t.payload ∧ ∀ c ∈ t.payload.getLast?, Text.isBlank c = false := by
  obtain ⟨k, hk, h⟩ := Option.bind_eq_some_iff.mp h
  obtain ⟨⟨start, name, rest⟩, hlocate, hk⟩ := Option.bind_eq_some_iff.mp hk
  cases hk
  obtain ⟨hhead, hsearch⟩ := of_locate? hlocate
  simp only [hsearch, Option.bind_eq_bind, Option.bind_some] at h
  obtain ⟨kind, -, h⟩ := Option.bind_eq_some_iff.mp h
  cases h
  refine ⟨fun hmem => ?_, fun c hc => Text.not_isBlank_of_getLast?_trim hc⟩
  obtain ⟨tail, htail, rfl⟩ := headOf?_eq_some_iff.mp hhead
  obtain ⟨before, after, -, -, htrim⟩ := Text.exists_gaps_around_trim (withoutFinalBreak tail)
  refine (notMem_withoutFinalBreak_iff tail).mpr htail.unbroken ?_
  rw [htrim]
  exact List.mem_append_left after (List.mem_append_right before hmem)

theorem Calendar.Instant.notMem_renderSeconds (t : Instant) : '\n' ∉ t.renderSeconds := by
  unfold renderSeconds render
  split
  · exact List.not_mem_nil
  · simp [Text.notMem_ofNatPadded (show ('\n').isDigit = false from rfl)]

/-- The path of the document can be told from what stands around it in an item. -/
def Document.HasShowablePath (d : Document) : Prop := '\x60' ∉ d.path ∧ '\n' ∉ d.path

instance (d : Document) : Decidable d.HasShowablePath := inferInstanceAs (Decidable (_ ∧ _))

namespace Index

/-! ## What is shown -/

/-- An entry as a report shows it: with its key, path, line and payload, and without columns. -/
def Entry.shown (e : Entry) : Entry := { e with start := 0, stop := 0 }

/-- A group as a report shows it. -/
def Group.shown (g : Group) : Group := { g with entries := g.entries.map Entry.shown }

/-- An entry that leaves the lines and the marks of its item to be found again. -/
structure Entry.IsShowable (e : Entry) : Prop where
  key : '\n' ∉ e.key
  path : '\x60' ∉ e.path ∧ '\n' ∉ e.path
  payload : '\n' ∉ e.payload
  ended : ∀ c ∈ e.payload.getLast?, Text.isBlank c = false

/-- A group of such entries, all with its key. -/
structure Group.IsShowable (g : Group) : Prop where
  ne_nil : g.entries ≠ []
  key : ∀ e ∈ g.entries, e.key = g.key
  entries : ∀ e ∈ g.entries, e.IsShowable

theorem Group.IsShowable.notMem_key {g : Group} (hg : g.IsShowable) : '\n' ∉ g.key := by
  obtain ⟨e, he⟩ := List.exists_mem_of_ne_nil _ hg.ne_nil
  rw [← hg.key e he]
  exact (hg.entries e he).key

/-! ## Items -/

section Items

variable {e e' : Entry}

/-- What stands in an item behind the place of the entry. -/
def Entry.closing (e : Entry) : Text :=
  '\x60' :: (if e.payload.isEmpty then [] else ' ' :: e.payload)

theorem itemLine_eq (path : Text) (e : Entry) :
    itemLine path e =
      "- \x60".toList ++ (path ++ ':' :: Text.ofNat (e.line + 1) ++ e.closing) := by
  simp [itemLine, Entry.closing]

theorem itemLine_ne_nil (path : Text) (e : Entry) : itemLine path e ≠ [] := by
  rw [itemLine_eq]
  exact List.cons_ne_nil _ _

theorem Entry.payload_eq_of_closing_eq (h : e.closing = e'.closing) : e.payload = e'.payload := by
  unfold Entry.closing at h
  cases hp : e.payload <;> cases hp' : e'.payload <;> simp_all

/-- The payload is what stands behind the second backtick, and the number of the line what stands
between it and the last colon before it. -/
theorem itemLine_inj (he : '\x60' ∉ e.path) (he' : '\x60' ∉ e'.path)
    (h : itemLine e.path e = itemLine e'.path e') :
    e.path = e'.path ∧ e.line = e'.line ∧ e.payload = e'.payload := by
  have hplace {p : Text} (hp : '\x60' ∉ p) (n : Nat) : '\x60' ∉ p ++ ':' :: Text.ofNat n := by
    rw [List.mem_append, List.mem_cons, not_or, not_or]
    exact ⟨hp, by decide, Text.notMem_ofNat rfl n⟩
  rw [itemLine_eq, itemLine_eq, List.append_cancel_left_eq] at h
  obtain ⟨hfront, hback⟩ := Lists.append_cons_inj (hplace he _) (hplace he' _) h
  obtain ⟨hpath, hline⟩ := Lists.append_cons_inj_right (Text.notMem_ofNat rfl _)
    (Text.notMem_ofNat rfl _) hfront
  have hnumber := Text.ofNat_injective hline
  exact ⟨hpath, by omega, Entry.payload_eq_of_closing_eq (congrArg ('\x60' :: ·) hback)⟩

theorem Entry.IsShowable.notMem_itemLine (he : e.IsShowable) : '\n' ∉ itemLine e.path e := by
  have hplace : '\n' ∉ e.path ++ ':' :: Text.ofNat (e.line + 1) := by
    rw [List.mem_append, List.mem_cons, not_or, not_or]
    exact ⟨he.path.2, by decide, Text.notMem_ofNat rfl _⟩
  have hclosing : '\n' ∉ e.closing := by
    unfold Entry.closing
    split
    · decide
    · simp [he.payload]
  rw [itemLine_eq, List.mem_append, List.mem_append, not_or, not_or]
  exact ⟨by decide, hplace, hclosing⟩

theorem Entry.IsShowable.ended_itemLine (he : e.IsShowable) :
    ∀ c ∈ (itemLine e.path e).getLast?, Text.isBlank c = false := by
  have hne : e.closing ≠ [] := List.cons_ne_nil _ _
  rw [itemLine_eq, ← List.append_assoc, List.getLast?_append_of_ne_nil _ hne, Entry.closing]
  cases hpayload : e.payload with
  | nil =>
    intro c hc
    cases hc
    decide
  | cons c r =>
    have hended := he.ended
    rw [hpayload] at hended
    exact hended

end Items

/-! ## Sections -/

/-- The section of a group. -/
def sectionLines (g : Group) : List Text :=
  ("## ".toList ++ g.key) :: [] :: (g.entries.map (fun e => itemLine e.path e) ++ [[]])

/-- The lines of a body, with one more that is empty. -/
def allLines (gs : List Group) : List Text :=
  "# AI tag index".toList :: [] :: gs.flatMap sectionLines

section Sections

variable {gs gs' : List Group}

theorem notMem_allLines (hgs : ∀ g ∈ gs, g.IsShowable) : ∀ l ∈ allLines gs, '\n' ∉ l := by
  intro l hl
  simp only [allLines, sectionLines, List.mem_cons, List.mem_flatMap, List.mem_append,
    List.mem_map, List.not_mem_nil, or_false] at hl
  rcases hl with rfl | rfl | ⟨g, hg, rfl | rfl | ⟨e, he, rfl⟩ | rfl⟩
  · decide
  · decide
  · rw [List.mem_append, not_or]
    exact ⟨by decide, (hgs g hg).notMem_key⟩
  · decide
  · exact ((hgs g hg).entries e he).notMem_itemLine
  · decide

/-- The line before the last one is not empty, and it does not end in a blank. -/
theorem exists_allLines_eq (hgs : ∀ g ∈ gs, g.IsShowable) :
    ∃ ls l, allLines gs = ls ++ [l] ++ [[]] ∧ l ≠ [] ∧
      ∀ c ∈ l.getLast?, Text.isBlank c = false := by
  rcases List.eq_nil_or_concat gs with rfl | ⟨init, g, rfl⟩
  · refine ⟨[], "# AI tag index".toList, rfl, by decide, fun c hc => ?_⟩
    cases hc
    decide
  · rw [List.concat_eq_append] at hgs ⊢
    have hg := hgs g (List.mem_append_right init List.mem_cons_self)
    obtain ⟨es, e, hes⟩ := List.eq_nil_or_concat g.entries |>.resolve_left hg.ne_nil
    rw [List.concat_eq_append] at hes
    have he : e.IsShowable := hg.entries e (by simp [hes])
    refine ⟨allLines init ++ ("## ".toList ++ g.key) :: [] ::
      es.map (fun e => itemLine e.path e), itemLine e.path e, ?_, itemLine_ne_nil _ _,
      he.ended_itemLine⟩
    simp [allLines, sectionLines, hes]

theorem sectionLines_append (g : Group) (rest : List Text) :
    sectionLines g ++ rest = ("## ".toList ++ g.key) :: [] ::
      (g.entries.map (fun e => itemLine e.path e) ++ [] :: rest) := by
  simp [sectionLines]

/-- A section has its key in the first line, and its items end at the next line that is empty. -/
theorem map_shown_eq_of_flatMap (hgs : ∀ g ∈ gs, g.IsShowable) (hgs' : ∀ g ∈ gs', g.IsShowable)
    (h : gs.flatMap sectionLines = gs'.flatMap sectionLines) :
    gs.map Group.shown = gs'.map Group.shown := by
  induction gs generalizing gs' with
  | nil =>
    cases gs' with
    | nil => rfl
    | cons g' gs' => cases h
  | cons g gs ih =>
    cases gs' with
    | nil => cases h
    | cons g' gs' =>
      rw [List.forall_mem_cons] at hgs hgs'
      rw [List.flatMap_cons, List.flatMap_cons, sectionLines_append, sectionLines_append,
        List.cons.injEq, List.cons.injEq, List.append_cancel_left_eq] at h
      have hnil (es : List Entry) : [] ∉ es.map fun e => itemLine e.path e := by
        simp [itemLine_ne_nil]
      obtain ⟨hkey, -, h⟩ := h
      obtain ⟨hitems, hrest⟩ := Lists.append_cons_inj (hnil _) (hnil _) h
      have hshown : g.entries.map Entry.shown = g'.entries.map Entry.shown := by
        refine Lists.map_eq_of_map_eq (fun e he e' he' hitem => ?_) hitems
        have hsame := itemLine_inj (hgs.1.entries e he).path.1 (hgs'.1.entries e' he').path.1 hitem
        rw [Entry.shown, Entry.shown, hgs.1.key e he, hgs'.1.key e' he', hkey, hsame.1, hsame.2.1,
          hsame.2.2]
      rw [List.map_cons, List.map_cons, ih hgs.2 hgs'.2 hrest, Group.shown, Group.shown, hkey,
        hshown]

theorem sectionLines_eq_of_shown_eq {g g' : Group} (h : g.shown = g'.shown) :
    sectionLines g = sectionLines g' := by
  rw [Group.shown, Group.shown, Group.mk.injEq] at h
  have hitems : g.entries.map (fun e => itemLine e.path e) =
      g'.entries.map (fun e => itemLine e.path e) := by
    refine Lists.map_eq_of_map_eq (fun e _ e' _ hshown => ?_) h.2
    rw [Entry.shown, Entry.shown, Entry.mk.injEq] at hshown
    obtain ⟨-, hpayload, hpath, hline, -⟩ := hshown
    rw [itemLine, itemLine, hpath, hline, hpayload]
  rw [sectionLines, sectionLines, h.1, hitems]

/-- Groups that show the same have the same lines, and no others do. -/
theorem allLines_eq_iff (hgs : ∀ g ∈ gs, g.IsShowable) (hgs' : ∀ g ∈ gs', g.IsShowable) :
    allLines gs = allLines gs' ↔ gs.map Group.shown = gs'.map Group.shown := by
  constructor
  · intro h
    exact map_shown_eq_of_flatMap hgs hgs' (List.tail_eq_of_cons_eq (List.tail_eq_of_cons_eq h))
  · intro h
    have hsections := Lists.map_eq_of_map_eq (fun g _ g' _ => sectionLines_eq_of_shown_eq) h
    rw [allLines, allLines, List.flatMap_def, List.flatMap_def, hsections]

/-! ## Reading a body -/

/-- The lines of a text, cut at its line feeds. -/
def linesIn (text : Text) : List Text := Text.splitAtEach (· == '\n') text

theorem linesIn_append (s t : Text) : linesIn (s ++ '\n' :: t) = linesIn s ++ linesIn t :=
  @Text.splitAtEach_append_cut (· == '\n') '\n' rfl s t

theorem linesIn_joinWith {ls : List Text} (hne : ls ≠ []) (h : ∀ l ∈ ls, '\n' ∉ l) :
    linesIn (Text.joinWith ['\n'] ls) = ls := by
  refine @Text.splitAtEach_joinWith (· == '\n') '\n' rfl ls hne fun l hl c hc => ?_
  rw [beq_eq_false_iff_ne]
  rintro rfl
  exact h l hl hc

/-- The key in a line that is a heading. -/
def heading? (line : Text) : Option Text :=
  if "## ".toList.isPrefixOf line then some (line.drop 3) else none

/-- Whether a line is an item. -/
def isItem (line : Text) : Bool := "- \x60".toList.isPrefixOf line

theorem body_none (cwd : Text) (gs : List Group) :
    body cwd none gs = .ok (Text.trimRight (Text.joinWith ['\n'] (allLines gs))) := by
  have hgroup (g : Group) : groupLines cwd none g = .ok (sectionLines g) := by
    have hitems : g.entries.mapM (fun e => do return itemLine (← shownPath cwd none e.path) e) =
        .ok (g.entries.map fun e => itemLine e.path e) :=
      Traverse.mapM_eq_ok_map fun e _ => rfl
    unfold groupLines
    rw [hitems]
    rfl
  have hparts : gs.mapM (groupLines cwd none) = .ok (gs.map sectionLines) :=
    Traverse.mapM_eq_ok_map fun g _ => hgroup g
  unfold body
  rw [hparts, allLines, List.flatMap_def]
  rfl

/-- The lines of a body are found in it again, although blanks at its end are trimmed away. -/
theorem exists_body (hgs : ∀ g ∈ gs, g.IsShowable) (cwd : Text) :
    ∃ text, body cwd none gs = .ok text ∧ linesIn text ++ [[]] = allLines gs := by
  obtain ⟨ls, l, hlines, hne, hended⟩ := exists_allLines_eq hgs
  have hjoin : Text.joinWith ['\n'] (allLines gs) = Text.joinWith ['\n'] (ls ++ [l]) ++ ['\n'] := by
    rw [hlines, Text.joinWith_append ['\n'] (by simp) (List.cons_ne_nil _ _), Text.joinWith,
      List.append_nil]
  have hlast : (Text.joinWith ['\n'] (ls ++ [l])).getLast? = l.getLast? := by
    rcases List.eq_nil_or_concat ls with rfl | ⟨front, l', rfl⟩
    · rfl
    · rw [List.concat_eq_append, Text.joinWith_append ['\n'] (by simp) (List.cons_ne_nil _ _),
        Text.joinWith, List.getLast?_append_of_ne_nil _ hne]
  refine ⟨Text.joinWith ['\n'] (ls ++ [l]), ?_, ?_⟩
  · rw [body_none, hjoin, Text.trimRight_append_gap (by decide) (by rwa [hlast])]
  · rw [linesIn_joinWith (by simp), hlines]
    intro p hp
    refine notMem_allLines hgs p ?_
    rw [hlines]
    exact List.mem_append_left _ hp

theorem filterMap_heading?_allLines (gs : List Group) :
    (allLines gs).filterMap heading? = gs.map (·.key) := by
  have hitem (e : Entry) : heading? (itemLine e.path e) = none := by
    rw [itemLine_eq]
    rfl
  have hsection (g : Group) : (sectionLines g).filterMap heading? = [g.key] := by
    have hitems : (g.entries.map fun e => itemLine e.path e).filterMap heading? = [] := by
      simp [hitem]
    have hheading : heading? ("## ".toList ++ g.key) = some g.key := rfl
    rw [sectionLines, List.filterMap_cons_some hheading, List.filterMap_cons_none rfl,
      List.filterMap_append, hitems]
    rfl
  have hsections : (gs.flatMap sectionLines).filterMap heading? = gs.map (·.key) := by
    induction gs with
    | nil => rfl
    | cons g gs ih =>
      rw [List.flatMap_cons, List.filterMap_append, ih, hsection]
      rfl
  exact hsections

theorem countP_isItem_allLines (gs : List Group) :
    (allLines gs).countP isItem = (gs.flatMap (·.entries)).length := by
  have hitem (e : Entry) : isItem (itemLine e.path e) = true := by
    rw [itemLine_eq]
    rfl
  have hsection (g : Group) : (sectionLines g).countP isItem = g.entries.length := by
    have hitems : (g.entries.map fun e => itemLine e.path e).countP isItem = g.entries.length := by
      rw [List.countP_map]
      exact List.countP_eq_length.mpr fun e _ => hitem e
    have hheading : isItem ("## ".toList ++ g.key) = false := rfl
    rw [sectionLines, List.countP_cons_of_neg (by rw [hheading]; decide),
      List.countP_cons_of_neg (by decide), List.countP_append, hitems]
    rfl
  have hsections : (gs.flatMap sectionLines).countP isItem = (gs.flatMap (·.entries)).length := by
    induction gs with
    | nil => rfl
    | cons g gs ih =>
      rw [List.flatMap_cons, List.flatMap_cons, List.countP_append, List.length_append, ih,
        hsection]
  exact hsections

/-! ## Reading a report -/

/-- What a report is made of: the number of entries, the moment, the keys, and the body. -/
structure Sheet where
  count : Nat
  moment : Text
  keys : List Text
  body : Text

/-- The lines of the metadata. -/
def Sheet.metadata (s : Sheet) : List Text :=
  ("entries: ".toList ++ Text.ofNat s.count) ::
    ("generated: \x27".toList ++ s.moment ++ ['\x27']) ::
    if s.keys.isEmpty then ["keys: []".toList]
    else "keys:".toList :: s.keys.map fun key => "- \x27".toList ++ key ++ ['\x27']

/-- The text of a report: the metadata between two lines of hyphens, an empty line and the body. -/
def Sheet.text (s : Sheet) : Text :=
  Text.joinWith ['\n'] ([fenceLine] ++ s.metadata ++ [fenceLine, [], s.body]) ++ ['\n']

/-- Nothing in the metadata goes over the end of its line. -/
structure Sheet.IsPlain (s : Sheet) : Prop where
  moment : '\n' ∉ s.moment
  keys : ∀ key ∈ s.keys, '\n' ∉ key

theorem Sheet.IsPlain.notMem_metadata {s : Sheet} (hs : s.IsPlain) :
    ∀ l ∈ s.metadata, '\n' ∉ l ∧ l ≠ fenceLine := by
  have hcount := Text.notMem_ofNat (show ('\n').isDigit = false from rfl) s.count
  rw [metadata, List.forall_mem_cons, List.forall_mem_cons]
  refine ⟨⟨by simp [hcount], nofun⟩, ⟨by simp [hs.moment], nofun⟩, ?_⟩
  split
  · decide
  · rw [List.forall_mem_cons, List.forall_mem_map]
    exact ⟨by decide, fun key hkey => ⟨by simp [hs.keys key hkey], nofun⟩⟩

theorem Sheet.IsPlain.linesIn_text {s : Sheet} (hs : s.IsPlain) :
    linesIn s.text =
      fenceLine :: (s.metadata ++ fenceLine :: [] :: (linesIn s.body ++ [[]])) := by
  let head := [fenceLine] ++ s.metadata ++ [fenceLine, []]
  have htext : s.text = Text.joinWith ['\n'] head ++ '\n' :: (s.body ++ '\n' :: []) := by
    have hne : head ≠ [] := by simp [head]
    have hjoin := Text.joinWith_append ['\n'] hne (List.cons_ne_nil s.body [])
    rw [text, show [fenceLine] ++ s.metadata ++ [fenceLine, [], s.body] = head ++ [s.body] by
      simp [head], hjoin, Text.joinWith]
    simp
  have hhead : ∀ l ∈ head, '\n' ∉ l := by
    intro l hl
    rcases List.mem_append.mp hl with hl | hl
    · rcases List.mem_append.mp hl with hl | hl
      · rw [List.mem_singleton.mp hl]
        decide
      · exact (hs.notMem_metadata l hl).1
    · exact (by decide : ∀ l ∈ [fenceLine, []], '\n' ∉ l) l hl
  rw [htext, linesIn_append, linesIn_append, linesIn_joinWith (by simp [head]) hhead]
  simp [head, linesIn, Text.splitAtEach]

/-- The metadata end at the second line of hyphens, so the lines of the body are settled. -/
theorem Sheet.IsPlain.linesIn_body_eq {s s' : Sheet} (hs : s.IsPlain) (hs' : s'.IsPlain)
    (h : s.text = s'.text) : linesIn s.body = linesIn s'.body := by
  have hlines := congrArg linesIn h
  rw [hs.linesIn_text, hs'.linesIn_text, List.cons.injEq] at hlines
  obtain ⟨-, hrest⟩ := Lists.append_cons_inj (fun hmem => (hs.notMem_metadata _ hmem).2 rfl)
    (fun hmem => (hs'.notMem_metadata _ hmem).2 rfl) hlines.2
  exact List.append_cancel_right (List.tail_eq_of_cons_eq hrest)

/-- The sheet of groups with this body. -/
def Sheet.ofGroups (now : Calendar.Instant) (gs : List Group) (body : Text) : Sheet where
  count := (gs.flatMap (·.entries)).length
  moment := now.renderSeconds
  keys := gs.map (·.key)
  body := body

theorem report_of_body {i : Index} {now : Calendar.Instant} {cwd body : Text}
    (h : Index.body cwd none i.groups = .ok body) :
    report i now cwd none = .ok (Sheet.ofGroups now i.groups body).text := by
  have hmetadata : metadata now i.groups = (Sheet.ofGroups now i.groups body).metadata := by
    unfold metadata Sheet.metadata Sheet.ofGroups
    cases i.groups with
    | nil => rfl
    | cons g gs => simp
  show (Index.body cwd none i.groups >>= _) = _
  rw [h, Traverse.ok_bind, hmetadata, Sheet.text]
  simp [Sheet.ofGroups]
  rfl

theorem Sheet.isPlain_ofGroups (hgs : ∀ g ∈ gs, g.IsShowable) (now : Calendar.Instant)
    (body : Text) : (Sheet.ofGroups now gs body).IsPlain where
  moment := now.notMem_renderSeconds
  keys := List.forall_mem_map.mpr fun g hg => (hgs g hg).notMem_key

/-- The head of a sheet can be counted in the lines of its body. -/
theorem Sheet.ofGroups_eq {body : Text} (h : linesIn body ++ [[]] = allLines gs)
    (now : Calendar.Instant) :
    Sheet.ofGroups now gs body =
      ⟨(linesIn body).countP isItem, now.renderSeconds, (linesIn body).filterMap heading?,
        body⟩ := by
  rw [ofGroups, ← countP_isItem_allLines, ← filterMap_heading?_allLines, ← h, List.countP_append,
    List.filterMap_append]
  simp [heading?, isItem]

end Sections

/-! ## Runs -/

theorem isShowable_of_mem_entriesOf {d : Document} (hd : d.HasShowablePath) {e : Entry}
    (he : e ∈ entriesOf d) : e.IsShowable := by
  rw [entriesOf_eq_map] at he
  obtain ⟨tag, htag, rfl⟩ := List.mem_map.mp he
  obtain ⟨htag, -⟩ := Document.mem_tags.mp (List.mem_filter.mp htag).1
  obtain ⟨line, -, hline⟩ := Option.bind_eq_some_iff.mp htag
  obtain ⟨hpayload, hended⟩ := Tag.payload_of_ofLine? hline
  have hkey : '\n' ∉ "@AI:EXPIRY".toList := by decide
  exact ⟨hkey, hd, hpayload, hended⟩

theorem isShowable_of_mem_groups {as : List Action}
    (has : ∀ a ∈ as, ∀ d, a.Brings d → d.HasShowablePath) :
    ∀ g ∈ (run as).groups, g.IsShowable := by
  intro g hg
  refine ⟨entries_ne_nil_of_mem_groups hg,
    fun e he => ((mem_entries_of_mem_groups hg).mp he).2, fun e he => ?_⟩
  have hall := ((mem_entries_of_mem_groups hg).mp he).1
  obtain ⟨d, ⟨before, a, after, rfl, ha, -⟩, he⟩ := (holds_run as).mem_all.mp hall
  have hd := has a (List.mem_append_right before List.mem_cons_self) d ha
  exact isShowable_of_mem_entriesOf hd he

/-- After a run that brings only documents whose paths hold neither a backtick nor a line feed, the
report with the paths as they are is made. Its head gives as many entries as lines of its body begin
as items, which is the number of entries shown, and the keys that the headings of its body have, in
order, which are those of the groups. At one moment the reports after two such runs are the same
exactly if their groups show the same keys, paths, lines and payloads in the same order. -/
theorem report_isFaithful {as bs : List Action}
    (has : ∀ a ∈ as, ∀ d, a.Brings d → d.HasShowablePath)
    (hbs : ∀ b ∈ bs, ∀ d, b.Brings d → d.HasShowablePath)
    (now : Calendar.Instant) (cwd cwd' : Text) :
    (∃ body,
      report (run as) now cwd none = .ok (Sheet.text
        ⟨(linesIn body).countP isItem, now.renderSeconds, (linesIn body).filterMap heading?,
          body⟩) ∧
      (linesIn body).countP isItem = ((run as).groups.flatMap (·.entries)).length ∧
      (linesIn body).filterMap heading? = (run as).groups.map (·.key)) ∧
    (report (run as) now cwd none = report (run bs) now cwd' none ↔
      (run as).groups.map Group.shown = (run bs).groups.map Group.shown) := by
  have has := isShowable_of_mem_groups has
  have hbs := isShowable_of_mem_groups hbs
  obtain ⟨body, hbody, hlines⟩ := exists_body has cwd
  obtain ⟨body', hbody', hlines'⟩ := exists_body hbs cwd'
  have hsheet := Sheet.ofGroups_eq hlines now
  refine ⟨⟨body, ?_, ?_, ?_⟩, ?_⟩
  · rw [report_of_body hbody, hsheet]
  · exact (congrArg Sheet.count hsheet).symm
  · exact (congrArg Sheet.keys hsheet).symm
  · rw [← allLines_eq_iff has hbs]
    constructor
    · intro h
      rw [report_of_body hbody, report_of_body hbody'] at h
      have hsame := (Sheet.isPlain_ofGroups has now body).linesIn_body_eq
        (Sheet.isPlain_ofGroups hbs now body') (Except.ok.inj h)
      rw [← hlines, ← hlines']
      exact congrArg (· ++ [[]]) hsame
    · intro h
      have hsame : body = body' := by
        rw [body_none, h, ← body_none cwd', hbody'] at hbody
        exact (Except.ok.inj hbody).symm
      subst hsame
      rw [report_of_body hbody, report_of_body hbody', hsheet, Sheet.ofGroups_eq hlines' now]

/-- Putting in two documents, one of them with a payload that looks like part of a report. -/
def lookalikeRun (path : String) : List Action :=
  [.upsert (.ofText path.toList "<!-- @AI:EXPIRY - \x60b:2\x60 # x".toList),
    .upsert (.ofText ['b'] "\n# @AI:EXPIRY".toList)]

/-- A path that ends like the place of an entry is told from the path before the colon. -/
theorem report_isFaithful_lookalikes :
    (∀ a ∈ lookalikeRun "a.md:1", ∀ d, a.Brings d → d.HasShowablePath) ∧
      (∀ a ∈ lookalikeRun "a.md", ∀ d, a.Brings d → d.HasShowablePath) ∧
      (∃ text, report (run (lookalikeRun "a.md:1")) ⟨0⟩ ['/'] none = .ok text) ∧
      report (run (lookalikeRun "a.md:1")) ⟨0⟩ ['/'] none ≠
        report (run (lookalikeRun "a.md")) ⟨0⟩ ['/'] none := by
  have hpaths : ∀ path ∈ ["a.md:1", "a.md"], ∀ a ∈ lookalikeRun path, ∀ d, a.Brings d →
      d.HasShowablePath := by
    intro path hpath a ha d hd
    simp only [lookalikeRun, List.mem_cons, List.not_mem_nil, or_false] at ha hpath
    rcases hpath with rfl | rfl <;> rcases ha with rfl | rfl <;> cases hd <;> decide
  have hfirst := hpaths "a.md:1" (by decide)
  have hsecond := hpaths "a.md" (by decide)
  obtain ⟨⟨body, hbody, -⟩, hiff⟩ := report_isFaithful hfirst hsecond ⟨0⟩ ['/'] ['/']
  refine ⟨hfirst, hsecond, ⟨_, hbody⟩, fun hsame => ?_⟩
  have hshown := hiff.mp hsame
  -- an entry of the first run would be shown with its path after the second one
  obtain ⟨e, he, hpath⟩ : ∃ e ∈ (run (lookalikeRun "a.md:1")).all, e.path = "a.md:1".toList := by
    decide +kernel
  have hother : ∀ e' ∈ (run (lookalikeRun "a.md")).all, e'.path ≠ "a.md:1".toList := by
    decide +kernel
  obtain ⟨g, hg, heg⟩ := exists_mem_groups_iff.mpr he
  have hg' : g.shown ∈ (run (lookalikeRun "a.md")).groups.map Group.shown := by
    rw [← hshown]
    exact List.mem_map_of_mem hg
  obtain ⟨g', hg', hgroup⟩ := List.mem_map.mp hg'
  have he' : e.shown ∈ g'.shown.entries := by
    rw [hgroup]
    exact List.mem_map_of_mem heg
  obtain ⟨e', he', hentry⟩ := List.mem_map.mp he'
  exact hother e' (exists_mem_groups_iff.mp ⟨g', hg', he'⟩)
    ((congrArg Entry.path hentry).trans hpath)

end Index

end TagLint
