import Mathlib.Algebra.Order.Group.Unbundled.Int
import Mathlib.Data.Int.Cast.Lemmas
import TagLint.Number.Binary64
/-!
Whole numbers among the floating-point ones. Rounding keeps exactly the magnitudes whose significand
has no more bits than there is room for, and it leaves the finite numbers from half a last place
below the first power of two that has no room among them.
-/

namespace TagLint.Binary64

theorem two_pow_pos (n : Nat) : 0 < Nat.pow 2 n := Nat.pow_pos Nat.two_pos

/-- The exponent is hidden, so that no power is written out. -/
theorem exists_unitsPerOne_eq : ∃ places, unitsPerOne = Nat.pow 2 places := by
  unfold unitsPerOne
  exact ⟨_, rfl⟩

theorem div_le_roundDiv (num den : Nat) : num / den ≤ roundDiv num den := by
  unfold roundDiv
  dsimp only
  split <;> omega

theorem roundDiv_le (num den : Nat) : roundDiv num den ≤ num / den + 1 := by
  unfold roundDiv
  dsimp only
  split <;> omega

theorem roundDiv_of_dvd {num den : Nat} (hpos : 0 < den) (h : den ∣ num) :
    roundDiv num den = num / den := by
  have hmod : num % den = 0 := Nat.mod_eq_zero_of_dvd h
  simp [roundDiv, hmod, hpos.ne]

/-- An odd number is passed from the middle between it and the next one on: a tie goes to the even
one. -/
theorem lt_roundDiv_iff (num : Nat) {den odd : Nat} (hpos : 0 < den) (hodd : odd % 2 = 1) :
    odd < roundDiv num den ↔ (2 * odd + 1) * den ≤ 2 * num := by
  have hnum : den * (num / den) + num % den = num := Nat.div_add_mod num den
  have hmod : num % den < den := Nat.mod_lt num hpos
  rw [Nat.add_mul, Nat.mul_assoc]
  rcases Nat.lt_trichotomy (num / den) odd with hlt | heq | hgt
  · -- Even rounding up stops at the odd number.
    have hmul : (num / den + 1) * den ≤ odd * den := Nat.mul_le_mul_right den hlt
    rw [Nat.succ_mul, Nat.mul_comm (num / den)] at hmul
    have hle := roundDiv_le num den
    omega
  · have hmul : odd * den = den * (num / den) := by rw [heq, Nat.mul_comm]
    unfold roundDiv
    dsimp only
    split <;> omega
  · have hmul : (odd + 1) * den ≤ num / den * den := Nat.mul_le_mul_right den hgt
    rw [Nat.succ_mul, Nat.mul_comm (num / den)] at hmul
    have hle := div_le_roundDiv num den
    omega

/-! ## Rounding a magnitude -/

variable {units k n : Nat}

/-- How many bits of a magnitude are rounded away. -/
def shift (units : Nat) : Nat :=
  if units < Nat.pow 2 precision then 0 else units.log2 + 1 - precision

theorem roundUnits_one (units : Nat) :
    roundUnits units 1 = roundDiv units (Nat.pow 2 (shift units)) * Nat.pow 2 (shift units) := by
  rw [roundUnits, Nat.div_one, Nat.one_mul]
  rfl

theorem lt_two_pow_shift (units : Nat) : units < Nat.pow 2 (precision + shift units) := by
  unfold shift
  split
  · assumption
  · rename_i hge
    have hne : units ≠ 0 := fun hzero => hge (hzero ▸ two_pow_pos _)
    have hlog : precision ≤ units.log2 := (Nat.le_log2 hne).mpr (not_lt.mp hge)
    rw [Nat.add_sub_of_le (hlog.trans (Nat.le_succ _))]
    exact Nat.lt_log2_self

theorem two_pow_shift_le (h : 0 < shift units) :
    Nat.pow 2 (precision + shift units) ≤ 2 * units := by
  unfold shift at h ⊢
  split at h
  · exact absurd h (lt_irrefl 0)
  · rename_i hge
    have hne : units ≠ 0 := fun hzero => hge (hzero ▸ two_pow_pos _)
    have hlog : precision ≤ units.log2 := (Nat.le_log2 hne).mpr (not_lt.mp hge)
    have hle : 2 ^ units.log2 ≤ units := Nat.log2_self_le hne
    rw [if_neg hge, Nat.add_sub_of_le (hlog.trans (Nat.le_succ _)), Nat.pow_eq, Nat.pow_succ]
    omega

/-- Rounding does not lose the first bit. -/
theorem two_pow_shift_le_roundUnits (h : 0 < shift units) :
    Nat.pow 2 (precision + shift units) ≤ 2 * roundUnits units 1 := by
  have hsplit : Nat.pow 2 (precision + shift units) =
      2 * (Nat.pow 2 (precision - 1) * Nat.pow 2 (shift units)) :=
    (Nat.pow_add 2 precision (shift units)).trans (Nat.mul_assoc 2 (2 ^ 52) _)
  have hquot : Nat.pow 2 (precision - 1) ≤ units / Nat.pow 2 (shift units) := by
    rw [Nat.le_div_iff_mul_le (two_pow_pos _)]
    have hle := two_pow_shift_le h
    omega
  rw [roundUnits_one, hsplit]
  exact Nat.mul_le_mul_left 2
    (Nat.mul_le_mul_right _ (hquot.trans (div_le_roundDiv units (Nat.pow 2 (shift units)))))

/-- The shift is the least one that leaves no more bits than there is room for. -/
theorem shift_le (h : units < Nat.pow 2 (precision + k)) : shift units ≤ k := by
  by_contra hlt
  have hle : Nat.pow 2 (precision + shift units) ≤ 2 * units :=
    two_pow_shift_le (Nat.zero_lt_of_lt (not_le.mp hlt))
  have hpow : Nat.pow 2 (precision + k + 1) ≤ Nat.pow 2 (precision + shift units) :=
    Nat.pow_le_pow_right Nat.two_pos (by omega)
  have hsucc : Nat.pow 2 (precision + k + 1) = Nat.pow 2 (precision + k) * 2 := Nat.pow_succ ..
  omega

theorem roundDiv_shift_le (units : Nat) :
    roundDiv units (Nat.pow 2 (shift units)) ≤ Nat.pow 2 precision := by
  have hlt := lt_two_pow_shift units
  have hquot : units / Nat.pow 2 (shift units) < Nat.pow 2 precision := by
    rw [Nat.div_lt_iff_lt_mul (two_pow_pos _)]
    exact hlt.trans_eq (Nat.pow_add ..)
  have hle := roundDiv_le units (Nat.pow 2 (shift units))
  omega

/-- A magnitude of no more bits than a significand has room for, but for zeros at its end. -/
def IsShort (units : Nat) : Prop :=
  ∃ significand zeros, significand < Nat.pow 2 precision ∧ units = significand * Nat.pow 2 zeros

theorem isShort_of_lt (h : units < Nat.pow 2 precision) : IsShort units :=
  ⟨units, 0, h, (Nat.mul_one units).symm⟩

/-- One more than the greatest significand is a power of two, and so is short as well. -/
theorem isShort_of_le (h : n ≤ Nat.pow 2 precision) : IsShort (n * Nat.pow 2 k) := by
  rcases h.lt_or_eq with hlt | heq
  · exact ⟨n, k, hlt, rfl⟩
  · refine ⟨1, precision + k, by decide, ?_⟩
    rw [heq, Nat.one_mul]
    exact (Nat.pow_add ..).symm

/-- The shift is at most the number of zeros here, so the rounding divides without remainder. -/
theorem roundUnits_of_isShort (h : IsShort units) : roundUnits units 1 = units := by
  obtain ⟨significand, zeros, hlt, hunits⟩ := h
  have hbound : units < Nat.pow 2 (precision + zeros) := by
    rw [hunits]
    exact (Nat.mul_lt_mul_of_pos_right hlt (two_pow_pos zeros)).trans_eq (Nat.pow_add ..).symm
  have hdvd : Nat.pow 2 (shift units) ∣ units :=
    (Nat.pow_dvd_pow 2 (shift_le hbound)).trans (hunits ▸ Nat.dvd_mul_left _ _)
  rw [roundUnits_one, roundDiv_of_dvd (two_pow_pos _) hdvd, Nat.div_mul_cancel hdvd]

/-- With this many bits the last place of a significand is worth twice `2 ^ k`, and the greatest
significand is odd. -/
theorem two_pow_le_roundUnits_iff :
    Nat.pow 2 (precision + k + 1) ≤ roundUnits units 1 ↔
      Nat.pow 2 (precision + k + 1) ≤ units + Nat.pow 2 k := by
  have hlt := lt_two_pow_shift units
  have hsucc : Nat.pow 2 (precision + k + 1) = Nat.pow 2 (precision + k) * 2 := Nat.pow_succ ..
  rcases Nat.lt_trichotomy (shift units) (k + 1) with hsmall | heq | hlarge
  · have hpow : Nat.pow 2 (precision + shift units) ≤ Nat.pow 2 (precision + k) :=
      Nat.pow_le_pow_right Nat.two_pos (by omega)
    have hround : roundUnits units 1 ≤ Nat.pow 2 (precision + shift units) := by
      rw [roundUnits_one]
      exact (Nat.mul_le_mul_right _ (roundDiv_shift_le units)).trans_eq (Nat.pow_add ..).symm
    have hk : Nat.pow 2 k < Nat.pow 2 (precision + k) :=
      Nat.pow_lt_pow_right (by decide) (Nat.lt_add_of_pos_left (by decide))
    omega
  · have hodd : (Nat.pow 2 precision - 1) % 2 = 1 := by decide
    have hiff := lt_roundDiv_iff units (two_pow_pos (k + 1)) hodd
    have hsplit : Nat.pow 2 (precision + k + 1) = Nat.pow 2 precision * Nat.pow 2 (k + 1) :=
      Nat.pow_add 2 precision (k + 1)
    have hdouble : Nat.pow 2 (k + 1) = Nat.pow 2 k * 2 := Nat.pow_succ ..
    have hbound : (2 * (Nat.pow 2 precision - 1) + 1) * Nat.pow 2 (k + 1) + Nat.pow 2 (k + 1) =
        2 * Nat.pow 2 (precision + k + 1) := by
      rw [hsplit, ← Nat.succ_mul, ← Nat.mul_assoc]
      rfl
    have hpos := two_pow_pos precision
    rw [roundUnits_one, heq, hsplit, Nat.mul_le_mul_right_iff (two_pow_pos _), ← hsplit]
    omega
  · have hpow : Nat.pow 2 (precision + k + 2) ≤ Nat.pow 2 (precision + shift units) :=
      Nat.pow_le_pow_right Nat.two_pos (by omega)
    have hunits := two_pow_shift_le (Nat.zero_lt_of_lt hlarge)
    have hround := two_pow_shift_le_roundUnits (Nat.zero_lt_of_lt hlarge)
    have hsucc' : Nat.pow 2 (precision + k + 2) = Nat.pow 2 (precision + k + 1) * 2 :=
      Nat.pow_succ ..
    omega

/-! ## Whole numbers -/

theorem two_pow_mul (k places : Nat) : Nat.pow 2 k * Nat.pow 2 places = Nat.pow 2 (k + places) :=
  (Nat.pow_add 2 k places).symm

theorem two_pow_le_roundUnits_mul_iff {top places : Nat} (htop : top = precision + k + 1) :
    Nat.pow 2 top * Nat.pow 2 places ≤ roundUnits (n * Nat.pow 2 places) 1 ↔
      Nat.pow 2 top - Nat.pow 2 k ≤ n := by
  have hexponent : top + places = precision + (k + places) + 1 := by omega
  rw [two_pow_mul, hexponent, two_pow_le_roundUnits_iff, ← hexponent, ← two_pow_mul,
    ← two_pow_mul k, ← Nat.add_mul, Nat.mul_le_mul_right_iff (two_pow_pos places),
    Nat.sub_le_iff_le_add]

/-- The whole part of the nearest number is the whole number itself exactly if that is short. Where
it is not, more bits are rounded away than stand behind the point. -/
theorem roundUnits_mul_div_eq_iff (n places : Nat) :
    roundUnits (n * Nat.pow 2 places) 1 / Nat.pow 2 places = n ↔ IsShort n := by
  constructor
  · intro heq
    rcases Nat.lt_or_ge (shift (n * Nat.pow 2 places)) places with hsmall | hlarge
    · refine isShort_of_lt (Nat.lt_of_mul_lt_mul_right (a := Nat.pow 2 places) ?_)
      rw [two_pow_mul]
      exact (lt_two_pow_shift _).trans_le (Nat.pow_le_pow_right Nat.two_pos (by omega))
    · have hsplit : Nat.pow 2 (shift (n * Nat.pow 2 places)) =
          Nat.pow 2 (shift (n * Nat.pow 2 places) - places) * Nat.pow 2 places := by
        rw [two_pow_mul, Nat.sub_add_cancel hlarge]
      rw [← heq, roundUnits_one]
      nth_rewrite 2 [hsplit]
      rw [← Nat.mul_assoc, Nat.mul_div_cancel _ (two_pow_pos places)]
      exact isShort_of_le (roundDiv_shift_le _)
  · rintro ⟨significand, zeros, hlt, hn⟩
    have hshort : IsShort (n * Nat.pow 2 places) :=
      ⟨significand, zeros + places, hlt, by rw [hn, Nat.mul_assoc, two_pow_mul]⟩
    rw [roundUnits_of_isShort hshort, Nat.mul_div_cancel _ (two_pow_pos places)]

/-- The first whole number beyond the finite numbers, half a last place below the power of two. -/
def firstBeyond : Nat := Nat.pow 2 1024 - Nat.pow 2 970

theorem overflow_le_roundUnits_iff (n : Nat) :
    overflow ≤ roundUnits (n * unitsPerOne) 1 ↔ firstBeyond ≤ n := by
  obtain ⟨places, hplaces⟩ := exists_unitsPerOne_eq
  obtain ⟨top, htop⟩ : ∃ top, 1024 = top := ⟨1024, rfl⟩
  obtain ⟨k, hk⟩ : ∃ k, 970 = k := ⟨970, rfl⟩
  have hexponent : top = precision + k + 1 := by rw [← htop, ← hk]; rfl
  rw [overflow, firstBeyond, hplaces, htop, hk, two_pow_le_roundUnits_mul_iff hexponent]

theorem ofInt_of_firstBeyond_le {n : Int} (h : firstBeyond ≤ n.natAbs) :
    ofInt n = .infinite (n < 0) := by
  rw [ofInt, ofRatio, if_pos ((overflow_le_roundUnits_iff n.natAbs).mpr h)]

theorem ofInt_of_lt_firstBeyond {n : Int} (h : n.natAbs < firstBeyond) :
    ofInt n = .finite (n.sign * roundUnits (n.natAbs * unitsPerOne) 1) := by
  rw [ofInt, ofRatio, if_neg (mt (overflow_le_roundUnits_iff n.natAbs).mp (not_le.mpr h))]
  rcases lt_trichotomy n 0 with hneg | rfl | hpos
  · simp [hneg, Int.sign_eq_neg_one_of_neg hneg]
  · simp [roundUnits, roundDiv]
  · simp [hpos.le, Int.sign_eq_one_of_pos hpos]

end TagLint.Binary64
