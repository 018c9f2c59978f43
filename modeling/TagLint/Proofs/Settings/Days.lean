import TagLint.Proofs.Lists
import TagLint.Proofs.Settings.Load
/-!
Whole numbers as days of grace. On their way through the floating-point numbers exactly those stay
what they are that are short enough for a significand, and the greatest ones do not arrive at all.
The days have no other part in the settings: without them the same settings are loaded but for this
field.
-/

namespace TagLint.Settings

variable {disk : Storage.Disk} {env : Environment} {cwd home : Text} {asked : Option Text}
  {file : Toml.Table} {n : Int}

/-! ## The days themselves -/

/-- A whole number that is kept as days of grace, or is set to zero: it is in range, and what it has
above zero is short. -/
structure IsKept (n : Int) : Prop where
  inRange : n.natAbs < Binary64.firstBeyond
  isShort : Binary64.IsShort n.toNat

/-- The whole part of the nearest floating-point number, none below zero. -/
def wholeDays (n : Int) : Nat :=
  Binary64.roundUnits (n.toNat * Binary64.unitsPerOne) 1 / Binary64.unitsPerOne

theorem wholeDays_eq_iff : (wholeDays n : Int) = max n 0 ↔ Binary64.IsShort n.toNat := by
  obtain ⟨places, hplaces⟩ := Binary64.exists_unitsPerOne_eq
  rw [wholeDays, hplaces, ← Binary64.roundUnits_mul_div_eq_iff n.toNat places, ← Int.ofNat_toNat,
    Int.natCast_inj]

theorem daysOfReal_ofInt (h : n.natAbs < Binary64.firstBeyond) (fallback : Int) :
    daysOfReal fallback (Binary64.ofInt n) = wholeDays n := by
  rw [Binary64.ofInt_of_lt_firstBeyond h, daysOfReal, Binary64.floorUnits]
  rcases lt_or_ge 0 n with hpos | hle
  · have habs : n.natAbs = n.toNat := by omega
    rw [Int.sign_eq_one_of_pos hpos, Int.one_mul, habs, if_neg (Int.natCast_nonneg _).not_gt,
      wholeDays, Int.fdiv_eq_ediv_of_nonneg _ (Int.natCast_nonneg _), Int.natCast_ediv]
  · have hzero : wholeDays n = 0 := by
      rw [wholeDays, Int.toNat_of_nonpos hle, Nat.zero_mul,
        Binary64.roundUnits_of_isShort (Binary64.isShort_of_lt (Binary64.two_pow_pos _)),
        Nat.zero_div]
    have hunits : n.sign * (Binary64.roundUnits (n.natAbs * Binary64.unitsPerOne) 1 : Int) ≤ 0 :=
      Int.mul_nonpos_of_nonpos_of_nonneg (Int.sign_nonpos_iff.mpr hle) (Int.natCast_nonneg _)
    rw [hzero]
    split
    · rfl
    · rename_i hneg
      rw [le_antisymm hunits (not_lt.mp hneg), Int.zero_fdiv]
      rfl

/-- The conversion becomes a variable first: a match on it would be evaluated otherwise. -/
theorem isBeyondReals_eq_true_iff {v : Toml.Value} :
    isBeyondReals v = true ↔
      ∃ n negative, v = .integer n ∧ Binary64.ofInt n = .infinite negative := by
  obtain ⟨toReal, htoReal⟩ : ∃ toReal, toReal = Binary64.ofInt := ⟨_, rfl⟩
  rw [isBeyondReals.eq_def, ← htoReal]
  cases v with
  | integer n =>
    dsimp only
    cases h : toReal n <;> simp [h]
  | _ => simp

theorem clampDays_of_firstBeyond_le (h : Binary64.firstBeyond ≤ n.natAbs) (fallback : Int) :
    clampDays (.integer n) fallback = .error .outOfRange := by
  have hbeyond : isBeyondReals (.integer n) = true :=
    isBeyondReals_eq_true_iff.mpr ⟨n, _, rfl, Binary64.ofInt_of_firstBeyond_le h⟩
  rw [clampDays, if_pos hbeyond]

theorem clampDays_of_lt_firstBeyond (h : n.natAbs < Binary64.firstBeyond) (fallback : Int) :
    clampDays (.integer n) fallback = .ok (wholeDays n) := by
  have hwithin : ¬isBeyondReals (.integer n) = true := by
    intro hbeyond
    obtain ⟨m, negative, hm, hinfinite⟩ := isBeyondReals_eq_true_iff.mp hbeyond
    cases hm
    cases (Binary64.ofInt_of_lt_firstBeyond h).symm.trans hinfinite
  rw [clampDays, if_neg hwithin, numberIn?, Option.map_some, Option.getD_some, daysOfReal_ofInt h]

theorem clampDays_eq_ok_iff (n fallback : Int) :
    clampDays (.integer n) fallback = .ok (max n 0) ↔ IsKept n := by
  rcases lt_or_ge n.natAbs Binary64.firstBeyond with hlt | hge
  · rw [clampDays_of_lt_firstBeyond hlt, Except.ok.injEq, wholeDays_eq_iff]
    exact ⟨fun hshort => ⟨hlt, hshort⟩, IsKept.isShort⟩
  · rw [clampDays_of_firstBeyond_le hge]
    exact iff_of_false (by simp) fun hkept => absurd hge (not_le.mpr hkept.inRange)

theorem clampDays_eq_error_iff (n fallback : Int) :
    clampDays (.integer n) fallback = .error .outOfRange ↔ Binary64.firstBeyond ≤ n.natAbs := by
  rcases lt_or_ge n.natAbs Binary64.firstBeyond with hlt | hge
  · rw [clampDays_of_lt_firstBeyond hlt]
    exact iff_of_false (by simp) (not_le.mpr hlt)
  · exact iff_of_true (clampDays_of_firstBeyond_le hge fallback) hge

/-! ## The days in a file -/

/-- The value without the entry for the days of grace, if it is a table. -/
def dropDays : Toml.Value → Toml.Value
  | .table es => .table (es.filter (·.1 != "grace_days".toList))
  | v => v

/-- A file without the days of grace. -/
def withoutDays (file : Toml.Table) : Toml.Table :=
  file.map fun e => (e.1, if e.1 = "expiry".toList then dropDays e.2 else e.2)

/-- Settings with other days of grace. -/
def withDays (days : Int) (s : Settings) : Settings :=
  { s with expiry := { s.expiry with graceDays := days } }

/-- The settings file that is looked for, empty if there is none. -/
def sourceFile (disk : Storage.Disk) (cwd home : Text) (asked : Option Text) :
    Except Failure Toml.Table := do
  tableOf disk (← firstThere disk (candidates cwd home asked))

theorem load_eq_bind (disk : Storage.Disk) (env : Environment) (cwd home : Text)
    (asked : Option Text) :
    load disk env cwd home asked = sourceFile disk cwd home asked >>= ofSources env := by
  rw [load, sourceFile, bind_assoc]
  refine congrArg (firstThere disk (candidates cwd home asked) >>= ·) (funext fun path? => ?_)
  cases path? with
  | none => rfl
  | some path =>
    rw [tableOf]
    dsimp only
    cases disk.read path <;> rfl

theorem lookup_withoutDays (file : Toml.Table) (key : Text) :
    (withoutDays file).lookup key =
      (file.lookup key).map fun v => if key = "expiry".toList then dropDays v else v :=
  Lists.lookup_map_values (fun k v => if k = "expiry".toList then dropDays v else v) file key

theorem lookup_withoutDays_of_ne {key : Text} (h : key ≠ "expiry".toList) :
    (withoutDays file).lookup key = file.lookup key := by
  simp only [lookup_withoutDays, if_neg h, Option.map_id']

/-- Without the days the sections are found to be tables as before. -/
theorem entriesOf_withoutDays :
    entriesOf (section? (withoutDays file) "expiry") =
      (entriesOf (section? file "expiry")).map (·.filter (·.1 != "grace_days".toList)) := by
  rw [section?, lookup_withoutDays, section?]
  cases file.lookup "expiry".toList with
  | none => rfl
  | some v => cases v <;> rfl

/-- The days of a file take effect after its section on expiry is found to be a table, and before
anything else is looked at. -/
theorem ofSources_eq_bind (henv : env.get? "AITAGS_GRACE_DAYS" = none)
    (hvalue : valueAt? file "expiry" "grace_days" = some (.integer n)) :
    ofSources env file =
      clampDays (.integer n) 0 >>= fun days =>
        (ofSources env (withoutDays file)).map (withDays days) := by
  obtain ⟨es, hes, hdays⟩ := Option.bind_eq_some_iff.mp hvalue
  obtain ⟨v, hv, htable⟩ := Option.bind_eq_some_iff.mp hes
  have hexpiry : entriesOf (section? file "expiry") = .ok es := by
    rw [section?, hv, Option.getD_some, entriesOf, htable]
  have hrest : entriesOf (section? (withoutDays file) "expiry") =
      .ok (es.filter (·.1 != "grace_days".toList)) := by
    rw [entriesOf_withoutDays, hexpiry]
    rfl
  have hfile : daysInFile es = clampDays (.integer n) 0 := by
    rw [daysInFile, field, hdays]
    rfl
  have hnone : daysInFile (es.filter (·.1 != "grace_days".toList)) = .ok 0 := by
    rw [daysInFile, field, Lists.lookup_filter_bne_self]
    rfl
  have hother (part : String) (hpart : part.toList ≠ "expiry".toList) :
      (section? (withoutDays file) part) = section? file part := by
    rw [section?, section?, lookup_withoutDays_of_ne hpart]
  have hfield (key : String) (hkey : key.toList ≠ "grace_days".toList) :
      field (es.filter (·.1 != "grace_days".toList)) key = field es key :=
    Lists.lookup_filter_bne_of_ne hkey es
  have hlevel : logLevelIn env (withoutDays file) = logLevelIn env file := by
    rw [logLevelIn, logLevelIn, field, field, lookup_withoutDays_of_ne (by decide)]
  have hunset (days : Int) : Settings.days env days = days := by
    rw [Settings.days, henv]
  unfold ofSources
  rw [hexpiry, hrest, hother "scan" (by decide), hother "sync" (by decide), Traverse.ok_bind,
    Traverse.ok_bind, hfile, hnone, Traverse.ok_bind, hlevel, hfield "enabled" (by decide),
    hfield "warn_on_invalid" (by decide)]
  simp only [hunset]
  refine congrArg (clampDays (.integer n) 0 >>= ·) (funext fun days => ?_)
  cases entriesOf (section? file "scan") with
  | error e => rfl
  | ok scan =>
    cases entriesOf (section? file "sync") with
    | error e => rfl
    | ok sync =>
      rw [Traverse.ok_bind, Traverse.ok_bind, Traverse.ok_bind, Traverse.ok_bind]
      cases excludedIn scan with
      | error e => rfl
      | ok excluded => cases maxSizeIn env scan <;> rfl

/-! ## The whole -/

/-- Whole numbers of any size as days of grace. As a single value a number gives itself, or zero for
one below it, exactly if it is kept, and it fails exactly if it lies beyond the floating-point
numbers. In the settings file, with no variable set for them, the days change one field of the
settings that are loaded without them or fail first, so they arrive exactly if they are kept. -/
theorem days_arrive_iff_isKept (n : Int) :
    (∀ fallback, clampDays (.integer n) fallback = .ok (max n 0) ↔ IsKept n) ∧
    (∀ fallback, clampDays (.integer n) fallback = .error .outOfRange ↔
      Binary64.firstBeyond ≤ n.natAbs) ∧
    ∀ disk env cwd home asked file,
      sourceFile disk cwd home asked = .ok file → env.get? "AITAGS_GRACE_DAYS" = none →
      valueAt? file "expiry" "grace_days" = some (.integer n) →
      load disk env cwd home asked =
        (clampDays (.integer n) 0 >>= fun days =>
          (ofSources env (withoutDays file)).map (withDays days)) ∧
      ∀ rest, ofSources env (withoutDays file) = .ok rest →
        ((∃ s, load disk env cwd home asked = .ok s ∧ s.expiry.graceDays = max n 0) ↔
          IsKept n) := by
  refine ⟨clampDays_eq_ok_iff n, clampDays_eq_error_iff n, ?_⟩
  intro disk env cwd home asked file hfile henv hvalue
  have hload : load disk env cwd home asked =
      (clampDays (.integer n) 0 >>= fun days =>
        (ofSources env (withoutDays file)).map (withDays days)) := by
    rw [load_eq_bind, hfile, Traverse.ok_bind, ofSources_eq_bind henv hvalue]
  refine ⟨hload, fun rest hrest => ?_⟩
  rw [hload, hrest, ← clampDays_eq_ok_iff n 0]
  constructor
  · rintro ⟨s, hs, hdays⟩
    obtain ⟨days, hclamp, hs⟩ := Traverse.bind_eq_ok.mp hs
    cases hs
    rw [hclamp]
    exact congrArg Except.ok hdays
  · intro hclamp
    rw [hclamp]
    exact ⟨withDays (max n 0) rest, rfl, rfl⟩

/-- A disk with a settings file that sets the days of grace and nothing else. -/
def daysDisk (digits : String) : Storage.Disk where
  items := [
    (["ws".toList], .folder),
    (["ws".toList, "aitags.toml".toList], .file <|
      Text.encode ("[expiry]\ngrace_days = " ++ digits ++ "\n").toList)]

/-- The whole number that the file on that disk sets, if what is left of the file can be loaded. -/
def daysOnDisk? (digits : String) : Option Int := do
  let file ← (sourceFile (daysDisk digits) "/ws".toList "/home".toList none).toOption
  let _ ← (ofSources [] (withoutDays file)).toOption
  match ← valueAt? file "expiry" "grace_days" with
  | .integer n => return n
  | _ => none

/-- An even number of 54 bits is kept, on its own and from the settings file. -/
theorem days_arrive_iff_isKept_even :
    clampDays (.integer 9007199254740994) 0 = .ok 9007199254740994 ∧
    ∃ s, load (daysDisk "9007199254740994") [] "/ws".toList "/home".toList none = .ok s ∧
      s.expiry.graceDays = 9007199254740994 := by
  have hkept : IsKept 9007199254740994 :=
    ⟨by decide +kernel, 4503599627370497, 1, by decide +kernel, by decide +kernel⟩
  have hdisk : daysOnDisk? "9007199254740994" = some 9007199254740994 := by decide +kernel
  have harrives (n : Int) (digits : String) (hn : max n 0 = n) (hkept : IsKept n)
      (hdisk : daysOnDisk? digits = some n) :
      clampDays (.integer n) 0 = .ok n ∧
      ∃ s, load (daysDisk digits) [] "/ws".toList "/home".toList none = .ok s ∧
        s.expiry.graceDays = n := by
    obtain ⟨hclamp, -, hload⟩ := days_arrive_iff_isKept n
    rw [hn] at hclamp hload
    obtain ⟨file, hfile, hdisk⟩ := Option.bind_eq_some_iff.mp hdisk
    obtain ⟨rest, hrest, hdisk⟩ := Option.bind_eq_some_iff.mp hdisk
    obtain ⟨v, hvalue, hdisk⟩ := Option.bind_eq_some_iff.mp hdisk
    cases v with
    | integer m =>
      obtain rfl : m = n := Option.some.inj hdisk
      obtain ⟨-, hload⟩ := hload _ [] _ _ _ file (Traverse.toOption_eq_some_iff.mp hfile) rfl hvalue
      exact ⟨(hclamp 0).mpr hkept, (hload rest (Traverse.toOption_eq_some_iff.mp hrest)).mpr hkept⟩
    | _ => cases hdisk
  exact harrives _ _ (by decide +kernel) hkept hdisk

/-- The odd number below it is not kept, and a number of more than 1024 bits fails. -/
theorem clampDays_of_not_isKept :
    clampDays (.integer 9007199254740993) 0 = .ok 9007199254740992 ∧
    clampDays (.integer (2 ^ 1024)) 0 = .error .outOfRange ∧
    (load (daysDisk "9007199254740993") [] "/ws".toList "/home".toList none).toOption.map
      (·.expiry.graceDays) = some 9007199254740992 := by
  decide +kernel

end TagLint.Settings
