import TagLint.Proofs.Storage.Tidy
/-!
Where names lead on a disk. Names lead from a trail to a trail over so many links; a search finds
the trail exactly if the links are no more than may be followed. What leads over all the names of a
list leads over its beginning first, so the entry of a folder is found only if the folder is, and
from there.
-/

namespace TagLint.Storage.Disk

variable {d : Disk} {trail mid last : Trail} {name : Text} {rest ss : List Text} {links n m : Nat}

/-! ## Leading from one trail to another -/

/-- A step that goes down: a name that is not too long. -/
structure IsDown (name : Text) : Prop where
  ne_here : name ≠ Path.here
  ne_up : name ≠ Path.up
  short : Text.byteLength name ≤ nameLimit

/-- Where the target of a link in a folder is read. -/
def linkStart (folder : Trail) (target : Text) : Trail :=
  if Path.isAbsolute target then [] else folder

/-- Names lead from one trail to another over so many links, all links followed. -/
inductive Leads (d : Disk) : Nat → Trail → List Text → Trail → Prop
  | stop {trail : Trail} : Leads d 0 trail [] trail
  | stay {n : Nat} {trail last : Trail} {rest : List Text}
      (hfolder : d.item? trail = some .folder) (hrest : Leads d n trail rest last) :
    Leads d n trail (Path.here :: rest) last
  | up {n : Nat} {trail last : Trail} {rest : List Text}
      (hfolder : d.item? trail = some .folder) (hrest : Leads d n trail.dropLast rest last) :
    Leads d n trail (Path.up :: rest) last
  | down {n : Nat} {trail last : Trail} {name : Text} {rest : List Text} {item : Item}
      (hfolder : d.item? trail = some .folder) (hname : IsDown name)
      (hitem : d.item? (trail ++ [name]) = some item) (hlink : ∀ target, item ≠ .link target)
      (hrest : Leads d n (trail ++ [name]) rest last) :
    Leads d n trail (name :: rest) last
  | link {n : Nat} {trail last : Trail} {name target : Text} {rest : List Text}
      (hfolder : d.item? trail = some .folder) (hname : IsDown name)
      (hitem : d.item? (trail ++ [name]) = some (.link target))
      (hrest : Leads d n (linkStart trail target) (stepsOf target ++ rest) last) :
    Leads d (n + 1) trail (name :: rest) last

/-- What is done at a link when so many links may still be followed. -/
def jumpOver (d : Disk) : (links : Nat) → Trail → List Text → Except Fault Trail
  | 0, _, _ => .error .loop
  | links + 1, trail, ss => d.follow true links trail ss

theorem follow_eq_descend (d : Disk) (links : Nat) :
    d.follow true links = descend d (d.jumpOver links) true := by
  cases links <;> rfl

theorem follow_nil (d : Disk) (links : Nat) (trail : Trail) :
    d.follow true links trail [] = .ok trail := by
  rw [follow_eq_descend, descend]

theorem leads_of_descend {jump : Trail → List Text → Except Fault Trail}
    (hjump : ∀ trail ss last, jump trail ss = .ok last → ∃ n < links, d.Leads n trail ss last)
    {trail : Trail} (h : descend d jump true trail ss = .ok last) :
    ∃ n ≤ links, d.Leads n trail ss last := by
  induction ss generalizing trail with
  | nil =>
    rw [descend] at h
    cases h
    exact ⟨0, Nat.zero_le _, .stop⟩
  | cons name rest ih =>
    rw [descend] at h
    split at h
    · cases h
    rename_i hfolder
    rw [Decidable.not_not] at hfolder
    split at h
    · rename_i hhere
      obtain ⟨n, hn, hrest⟩ := ih h
      exact ⟨n, hn, hhere ▸ .stay hfolder hrest⟩
    rename_i hhere
    split at h
    · rename_i hup
      obtain ⟨n, hn, hrest⟩ := ih h
      exact ⟨n, hn, hup ▸ .up hfolder hrest⟩
    rename_i hup
    split at h
    · cases h
    rename_i hlong
    have hname : IsDown name := ⟨hhere, hup, Nat.le_of_not_lt hlong⟩
    split at h
    · cases h
    · rename_i target hitem
      rw [Bool.not_true, Bool.and_false, if_neg Bool.false_ne_true] at h
      obtain ⟨n, hn, hrest⟩ := hjump _ _ _ h
      exact ⟨n + 1, hn, .link hfolder hname hitem hrest⟩
    · rename_i item hlink hitem
      obtain ⟨n, hn, hrest⟩ := ih h
      exact ⟨n, hn, .down hfolder hname hitem hlink hrest⟩

theorem leads_of_follow (h : d.follow true links trail ss = .ok last) :
    ∃ n ≤ links, d.Leads n trail ss last := by
  induction links generalizing trail ss last with
  | zero =>
    refine leads_of_descend ?_ h
    intro trail ss last hloop
    cases hloop
  | succ links ih =>
    refine leads_of_descend ?_ h
    intro trail ss last hjump
    obtain ⟨n, hn, hleads⟩ := ih hjump
    exact ⟨n, Nat.lt_succ_of_le hn, hleads⟩

theorem follow_of_leads (h : d.Leads n trail ss last) (hn : n ≤ links) :
    d.follow true links trail ss = .ok last := by
  induction h generalizing links with
  | stop => exact follow_nil d links _
  | stay hfolder hrest ih =>
    have hgo := ih hn
    rw [follow_eq_descend] at hgo ⊢
    rw [descend, if_neg (not_not_intro hfolder), if_pos rfl, hgo]
  | up hfolder hrest ih =>
    have hgo := ih hn
    rw [follow_eq_descend] at hgo ⊢
    rw [descend, if_neg (not_not_intro hfolder), if_neg (by decide), if_pos rfl, hgo]
  | @down n trail last name rest item hfolder hname hitem hlink hrest ih =>
    have hgo := ih hn
    rw [follow_eq_descend] at hgo ⊢
    rw [descend, if_neg (not_not_intro hfolder), if_neg hname.ne_here, if_neg hname.ne_up,
      if_neg (Nat.not_lt.mpr hname.short), hitem]
    cases item with
    | link target => exact absurd rfl (hlink target)
    | file bytes => exact hgo
    | folder => exact hgo
  | link hfolder hname hitem hrest ih =>
    obtain ⟨left, rfl⟩ := Nat.exists_eq_add_of_le' (Nat.le_trans (Nat.succ_pos _) hn)
    have hgo := ih (Nat.le_of_succ_le_succ hn)
    rw [follow_eq_descend, descend, if_neg (not_not_intro hfolder), if_neg hname.ne_here,
      if_neg hname.ne_up, if_neg (Nat.not_lt.mpr hname.short), hitem]
    dsimp only
    rw [Bool.not_true, Bool.and_false, if_neg Bool.false_ne_true]
    exact hgo

/-- A search finds what the names lead to if no more links are on the way than may be followed. -/
theorem follow_eq_ok_iff :
    d.follow true links trail ss = .ok last ↔ ∃ n ≤ links, d.Leads n trail ss last :=
  ⟨leads_of_follow, fun ⟨_, hn, h⟩ => follow_of_leads h hn⟩

/-! ## One part after the other -/

theorem Leads.split_nil (h : d.Leads n trail rest last) :
    ∃ mid k m, k ≤ n ∧ m ≤ n ∧ d.Leads k trail [] mid ∧ d.Leads m mid rest last :=
  ⟨trail, 0, n, Nat.zero_le n, Nat.le_refl n, .stop, h⟩

/-- What leads over all the names leads over the first of them, and from there over the others. -/
theorem Leads.split {names more : List Text} (h : d.Leads n trail names last)
    (hnames : ss ++ more = names) :
    ∃ mid k m, k ≤ n ∧ m ≤ n ∧ d.Leads k trail ss mid ∧ d.Leads m mid more last := by
  induction h generalizing ss with
  | stop =>
    obtain ⟨rfl, rfl⟩ := List.append_eq_nil_iff.mp hnames
    exact Leads.stop.split_nil
  | stay hfolder hrest ih =>
    cases ss with
    | nil =>
      rw [List.nil_append] at hnames
      rw [hnames]
      exact (Leads.stay hfolder hrest).split_nil
    | cons s ss =>
      obtain ⟨rfl, htail⟩ := List.cons.inj hnames
      obtain ⟨mid, k, m, hk, hm, hfirst, hmore⟩ := ih htail
      exact ⟨mid, k, m, hk, hm, .stay hfolder hfirst, hmore⟩
  | up hfolder hrest ih =>
    cases ss with
    | nil =>
      rw [List.nil_append] at hnames
      rw [hnames]
      exact (Leads.up hfolder hrest).split_nil
    | cons s ss =>
      obtain ⟨rfl, htail⟩ := List.cons.inj hnames
      obtain ⟨mid, k, m, hk, hm, hfirst, hmore⟩ := ih htail
      exact ⟨mid, k, m, hk, hm, .up hfolder hfirst, hmore⟩
  | down hfolder hname hitem hlink hrest ih =>
    cases ss with
    | nil =>
      rw [List.nil_append] at hnames
      rw [hnames]
      exact (Leads.down hfolder hname hitem hlink hrest).split_nil
    | cons s ss =>
      obtain ⟨rfl, htail⟩ := List.cons.inj hnames
      obtain ⟨mid, k, m, hk, hm, hfirst, hmore⟩ := ih htail
      exact ⟨mid, k, m, hk, hm, .down hfolder hname hitem hlink hfirst, hmore⟩
  | @link n trail last name target rest hfolder hname hitem hrest ih =>
    cases ss with
    | nil =>
      rw [List.nil_append] at hnames
      rw [hnames]
      exact (Leads.link hfolder hname hitem hrest).split_nil
    | cons s ss =>
      obtain ⟨rfl, htail⟩ := List.cons.inj hnames
      -- the names of the link's target come before what is left of the first part
      have hnext : (stepsOf target ++ ss) ++ more = stepsOf target ++ rest := by
        rw [List.append_assoc]
        exact congrArg (stepsOf target ++ ·) htail
      obtain ⟨mid, k, m, hk, hm, hfirst, hmore⟩ := ih hnext
      exact ⟨mid, k + 1, m, Nat.succ_le_succ hk, Nat.le_succ_of_le hm,
        .link hfolder hname hitem hfirst, hmore⟩

/-- What leads over the first names and from there over the others leads over all of them. -/
theorem Leads.append {more : List Text} (h : d.Leads n trail ss mid)
    (hmore : d.Leads m mid more last) : d.Leads (n + m) trail (ss ++ more) last := by
  induction h with
  | stop =>
    rw [Nat.zero_add, List.nil_append]
    exact hmore
  | stay hfolder _ ih => exact .stay hfolder (ih hmore)
  | up hfolder _ ih => exact .up hfolder (ih hmore)
  | down hfolder hname hitem hlink _ ih => exact .down hfolder hname hitem hlink (ih hmore)
  | link hfolder hname hitem _ ih =>
    rw [Nat.add_right_comm, List.cons_append]
    refine .link hfolder hname hitem ?_
    rw [← List.append_assoc]
    exact ih hmore

/-- The entry of a folder: either it is where the name leads to, or it is a link. -/
theorem Leads.singleton (h : d.Leads n trail [name] last) (hname : Path.IsName name) :
    d.item? trail = some .folder ∧
      ((∃ item, d.item? (trail ++ [name]) = some item ∧ (∀ target, item ≠ .link target) ∧
          last = trail ++ [name]) ∨
        ∃ target, d.item? (trail ++ [name]) = some (.link target)) := by
  cases h with
  | stay _ _ => exact absurd rfl hname.ne_here
  | up _ _ => exact absurd rfl hname.ne_up
  | down hfolder _ hitem hlink hrest =>
    cases hrest
    exact ⟨hfolder, Or.inl ⟨_, hitem, hlink, rfl⟩⟩
  | link hfolder _ hitem _ => exact ⟨hfolder, Or.inr ⟨_, hitem⟩⟩

/-! ## Paths -/

theorem byteLength_le_of_isPrefix {s t : Text} (h : s <+: t) :
    Text.byteLength s ≤ Text.byteLength t :=
  Text.byteLength_le_of_sublist h.sublist

/-- A path is found if it is short enough and its names lead there. -/
theorem locate_eq_ok_iff {path : Text} :
    d.locate true path = .ok last ↔
      '\x00' ∉ path ∧ path ≠ [] ∧ Text.byteLength path ≤ pathLimit ∧
        ∃ n ≤ linkLimit, d.Leads n [] (stepsOf path) last := by
  unfold locate
  rw [← follow_eq_ok_iff, ← List.contains_iff_mem]
  split
  · simp_all
  · split
    · simp_all
    · split
      · rename_i hlong
        simp [Nat.not_le.mpr hlong]
      · rename_i hnul hne hlong
        rw [and_iff_right hnul, and_iff_right (by simpa using hne),
          and_iff_right (Nat.le_of_not_lt hlong)]

theorem ne_nil_of_locate {path : Text} (h : d.locate true path = .ok last) : path ≠ [] :=
  (locate_eq_ok_iff.mp h).2.1

/-- A slash at the end of a path asks for a folder and leads no further. -/
theorem exists_leads_components {path : Text} (h : d.Leads n [] (stepsOf path) last) :
    ∃ k ≤ n, d.Leads k [] (Path.components path) last := by
  unfold stepsOf at h
  split at h
  · obtain ⟨mid, k, m, hk, -, hfirst, hlast⟩ := h.split rfl
    cases hlast with
    | stay _ hrest =>
      cases hrest
      exact ⟨k, hk, hfirst⟩
    | down _ hname _ _ _ => exact absurd rfl hname.ne_here
    | link _ hname _ _ => exact absurd rfl hname.ne_here
  · rw [List.append_nil] at h
    exact ⟨n, Nat.le_refl n, h⟩

theorem leads_stepsOf {path : Text} (h : d.Leads n [] (Path.components path) last)
    (hfolder : d.item? last = some .folder) : d.Leads n [] (stepsOf path) last := by
  unfold stepsOf
  split
  · exact h.append (.stay hfolder .stop)
  · rw [List.append_nil]
    exact h

/-! ## Joined paths -/

section Joined

variable {folder : Text}

theorem stepsOf_join (folder : Text) (hname : Path.IsName name) :
    stepsOf (Path.join folder name) = Path.components folder ++ [name] := by
  have hlast : (Path.join folder name).getLast? ≠ some '/' := by
    obtain ⟨gap, hjoin⟩ := Path.exists_join_eq folder hname.isAbsolute_eq_false
    rw [hjoin, List.getLast?_append_of_ne_nil _ hname.ne_nil]
    exact fun h => hname.no_slash (List.mem_of_getLast? h)
  unfold stepsOf
  rw [if_neg hlast, List.append_nil, Path.components_join folder hname.isAbsolute_eq_false,
    Path.components_of_isName hname]

theorem locate_join_eq_ok_iff (hname : Path.IsName name) :
    d.locate true (Path.join folder name) = .ok last ↔
      '\x00' ∉ Path.join folder name ∧ Text.byteLength (Path.join folder name) ≤ pathLimit ∧
        ∃ n ≤ linkLimit, d.Leads n [] (Path.components folder ++ [name]) last := by
  have hne : Path.join folder name ≠ [] := by
    obtain ⟨gap, hjoin⟩ := Path.exists_join_eq folder hname.isAbsolute_eq_false
    rw [hjoin]
    simp [hname.ne_nil]
  rw [locate_eq_ok_iff, stepsOf_join folder hname, and_iff_right hne]

/-- If an entry of a folder is found then so is the folder, and the entry is found from there. -/
theorem exists_locate_of_join (hfolder : folder ≠ []) (hname : Path.IsName name)
    (h : d.locate true (Path.join folder name) = .ok last) :
    ∃ trail, d.locate true folder = .ok trail ∧ d.item? trail = some .folder ∧
      ∃ m ≤ linkLimit, d.Leads m trail [name] last := by
  have hstart := Path.isPrefix_join folder hname.isAbsolute_eq_false
  obtain ⟨hnul, hlong, n, hn, hleads⟩ := (locate_join_eq_ok_iff hname).mp h
  obtain ⟨trail, k, m, hk, hm, hfirst, hrest⟩ := hleads.split rfl
  have hitem := (hrest.singleton hname).1
  refine ⟨trail, locate_eq_ok_iff.mpr ⟨fun hc => hnul (hstart.subset hc), hfolder, ?_, ?_⟩, hitem,
    m, hm.trans hn, hrest⟩
  · exact (byteLength_le_of_isPrefix hstart).trans hlong
  · exact ⟨k, hk.trans hn, leads_stepsOf hfirst hitem⟩

/-- A folder in a folder is found under its own trail. -/
theorem locate_join_folder (hname : Path.IsName name)
    (htrail : d.locate true folder = .ok trail)
    (hitem : d.item? (trail ++ [name]) = some .folder)
    (h : d.locate true (Path.join folder name) = .ok last) : last = trail ++ [name] := by
  obtain ⟨trail', htrail', -, m, -, hleads⟩ :=
    exists_locate_of_join (ne_nil_of_locate htrail) hname h
  rw [htrail] at htrail'
  cases htrail'
  rcases (hleads.singleton hname).2 with ⟨item, -, -, hlast⟩ | ⟨target, hlink⟩
  · exact hlast
  · rw [hitem] at hlink
    cases hlink

/-- A folder in a folder is found if its name and its path are not too long. -/
theorem locate_join_eq_ok (hname : Path.IsName name) (hnull : '\x00' ∉ name)
    (hshort : Text.byteLength name ≤ nameLimit) (htrail : d.locate true folder = .ok trail)
    (hfolder : d.item? trail = some .folder) (hitem : d.item? (trail ++ [name]) = some .folder)
    (hlong : Text.byteLength (Path.join folder name) ≤ pathLimit) :
    d.locate true (Path.join folder name) = .ok (trail ++ [name]) := by
  obtain ⟨hnul, -, -, n, hn, hleads⟩ := locate_eq_ok_iff.mp htrail
  obtain ⟨k, hk, hcomponents⟩ := exists_leads_components hleads
  have hdown : d.Leads 0 trail [name] (trail ++ [name]) :=
    .down hfolder ⟨hname.ne_here, hname.ne_up, hshort⟩ hitem nofun .stop
  rw [locate_join_eq_ok_iff hname]
  exact ⟨Path.not_mem_join hnul hnull (by decide), hlong, k, hk.trans hn, hcomponents.append hdown⟩

/-- If a path through folders is found then so is the folder where it starts. -/
theorem exists_locate_of_foldl_join {names : List Text} (hfolder : folder ≠ [])
    (hnames : ∀ s ∈ names, Path.IsName s) (hne : names ≠ [])
    (h : d.locate true (names.foldl Path.join folder) = .ok last) :
    ∃ trail, d.locate true folder = .ok trail ∧ d.item? trail = some .folder := by
  induction names generalizing folder with
  | nil => exact absurd rfl hne
  | cons name rest ih =>
    rw [List.forall_mem_cons] at hnames
    rw [List.foldl_cons] at h
    obtain ⟨next, hnext⟩ : ∃ next, d.locate true (Path.join folder name) = .ok next := by
      by_cases hrest : rest = []
      · subst hrest
        exact ⟨last, h⟩
      · obtain ⟨next, hnext, -⟩ := ih (Path.join_ne_nil hfolder name) hnames.2 hrest h
        exact ⟨next, hnext⟩
    obtain ⟨trail, htrail, hitem, -⟩ := exists_locate_of_join hfolder hnames.1 hnext
    exact ⟨trail, htrail, hitem⟩

end Joined

end TagLint.Storage.Disk
