import TagLint.Text.Basic
import Mathlib.Algebra.Group.Nat.Defs
import Mathlib.Data.List.Basic
import Mathlib.Data.List.Induction
import Mathlib.Data.Nat.Digits.Defs
import Mathlib.Data.Nat.Init
/-!
Decimal numerals digit by digit. A numeral is that of the number without its last digit, and the
last digit after it, so its digits add up to the number; a numeral of a fixed width is one place
wider than that of the number without its last digit. The value of any digits is the same sum.
-/

namespace TagLint.Text

/-! ## Digits -/

theorem isDigit_iff (c : Char) : c.isDigit = true ↔ 48 ≤ c.toNat ∧ c.toNat ≤ 57 := by
  unfold Char.isDigit
  rw [Bool.and_eq_true, decide_eq_true_iff, decide_eq_true_iff]
  exact Iff.rfl

/-- A character is a digit of this value exactly when it is written for the value. -/
theorem eq_digitChar_iff {c : Char} {n : Nat} :
    n < 10 ∧ c = Nat.digitChar n ↔ c.isDigit = true ∧ n = c.toNat - 48 := by
  rw [isDigit_iff]
  constructor
  · rintro ⟨hn, rfl⟩
    have hval := Nat.toNat_digitChar_of_lt_ten hn
    omega
  · rintro ⟨hc, rfl⟩
    have hn : c.toNat - 48 < 10 := by omega
    have hval := Nat.toNat_digitChar_of_lt_ten hn
    refine ⟨hn, Char.toNat_inj.mp ?_⟩
    omega

/-! ## Numerals -/

theorem ofNat_eq (n : Nat) : ofNat n = Nat.toDigits 10 n := Nat.toList_repr

theorem ofNat_of_lt {n : Nat} (h : n < 10) : ofNat n = [Nat.digitChar n] := by
  rw [ofNat_eq, Nat.toDigits_of_lt_base h]

theorem ofNat_of_le {n : Nat} (h : 10 ≤ n) :
    ofNat n = ofNat (n / 10) ++ [Nat.digitChar (n % 10)] := by
  rw [ofNat_eq, ofNat_eq, Nat.toDigits_of_base_le (by omega) h]

theorem ofNat_ne_nil (n : Nat) : ofNat n ≠ [] := by
  rw [ofNat_eq]
  exact Nat.toDigits_ne_nil

theorem isDigit_of_mem_ofNat {n : Nat} {c : Char} (h : c ∈ ofNat n) : c.isDigit = true := by
  induction n using Nat.strongRecOn with
  | ind n ih =>
    by_cases hn : n < 10
    · rw [ofNat_of_lt hn, List.mem_singleton] at h
      exact (eq_digitChar_iff.mp ⟨hn, h⟩).1
    · rw [ofNat_of_le (Nat.le_of_not_lt hn), List.mem_append, List.mem_singleton] at h
      rcases h with h | h
      · exact ih (n / 10) (by omega) h
      · exact (eq_digitChar_iff.mp ⟨Nat.mod_lt n (by omega), h⟩).1

theorem notMem_ofNat {c : Char} (hc : c.isDigit = false) (n : Nat) : c ∉ ofNat n := by
  intro hmem
  rw [isDigit_of_mem_ofNat hmem] at hc
  cases hc

theorem notMem_ofNatPadded {c : Char} (hc : c.isDigit = false) (width n : Nat) :
    c ∉ ofNatPadded width n := by
  unfold ofNatPadded
  rw [List.mem_append, not_or]
  refine ⟨fun hmem => ?_, notMem_ofNat hc n⟩
  rw [List.eq_of_mem_replicate hmem] at hc
  cases hc

/-- Adding the digits up from the first one on gives the number back. -/
theorem foldl_ofNat (n : Nat) :
    (ofNat n).foldl (fun m c => m * 10 + (c.toNat - 48)) 0 = n := by
  induction n using Nat.strongRecOn with
  | ind n ih =>
    have hlast : ∀ d, d < 10 → (Nat.digitChar d).toNat - 48 = d := by
      intro d hd
      exact (eq_digitChar_iff.mp ⟨hd, rfl⟩).2.symm
    by_cases hn : n < 10
    · rw [ofNat_of_lt hn, List.foldl_cons, List.foldl_nil, hlast n hn]
      omega
    · rw [ofNat_of_le (Nat.le_of_not_lt hn), List.foldl_append, ih (n / 10) (by omega),
        List.foldl_cons, List.foldl_nil, hlast (n % 10) (Nat.mod_lt n (by omega))]
      omega

theorem ofNat_injective : Function.Injective ofNat := Function.LeftInverse.injective foldl_ofNat

/-- The number that digits stand for, each worth ten times the one behind it. -/
def value (digits : Text) : Nat := Nat.ofDigits 10 (digits.reverse.map fun c => c.toNat - '0'.toNat)

theorem value_append_singleton (digits : Text) (c : Char) :
    value (digits ++ [c]) = value digits * 10 + (c.toNat - 48) := by
  simp [value, Nat.ofDigits_cons]
  omega

/-- Adding digits up from the first one on gives their value. -/
theorem foldl_eq_value (digits : Text) :
    digits.foldl (fun n c => n * 10 + (c.toNat - 48)) 0 = value digits := by
  induction digits using List.reverseRecOn with
  | nil => rfl
  | append_singleton digits c ih =>
    rw [List.foldl_append, ih, value_append_singleton, List.foldl_cons, List.foldl_nil]

theorem ofNatPadded_of_lt {n : Nat} (h : n < 10) : ofNatPadded 1 n = [Nat.digitChar n] := by
  unfold ofNatPadded
  rw [ofNat_of_lt h]
  rfl

theorem ofNatPadded_succ {width : Nat} (hw : 1 ≤ width) (n : Nat) :
    ofNatPadded (width + 1) n = ofNatPadded width (n / 10) ++ [Nat.digitChar (n % 10)] := by
  unfold ofNatPadded
  by_cases hn : n < 10
  · have hzero : n / 10 = 0 := by omega
    have hself : n % 10 = n := by omega
    obtain ⟨w, rfl⟩ := Nat.exists_eq_add_of_le' hw
    rw [ofNat_of_lt hn, hzero, hself, ofNat_of_lt (by omega)]
    simp [List.replicate_succ']
  · rw [ofNat_of_le (Nat.le_of_not_lt hn)]
    simp

theorem length_ofNatPadded {width n : Nat} (hw : 1 ≤ width) (h : n < 10 ^ width) :
    (ofNatPadded width n).length = width := by
  induction width, hw using Nat.le_induction generalizing n with
  | base => rw [ofNatPadded_of_lt (by omega), List.length_singleton]
  | succ width hw ih =>
    have hrest : n / 10 < 10 ^ width := by omega
    rw [ofNatPadded_succ hw, List.length_append, ih hrest, List.length_singleton]

theorem length_ofNatPadded_one_of_le {n : Nat} (h : 10 ≤ n) : 1 < (ofNatPadded 1 n).length := by
  have hlen := List.length_pos_iff.mpr (ofNat_ne_nil (n / 10))
  unfold ofNatPadded
  rw [ofNat_of_le h]
  simp only [List.length_append, List.length_cons, List.length_nil]
  omega

theorem exists_ofNatPadded_two {n : Nat} (h : n < 100) : ∃ a b, ofNatPadded 2 n = [a, b] := by
  have hlen : (ofNatPadded 2 n).length = 2 := length_ofNatPadded (by omega) (by omega)
  match ofNatPadded 2 n, hlen with
  | [a, b], _ => exact ⟨a, b, rfl⟩

theorem exists_ofNatPadded_four {n : Nat} (h : n < 10000) :
    ∃ a b c d, ofNatPadded 4 n = [a, b, c, d] := by
  have hlen : (ofNatPadded 4 n).length = 4 := length_ofNatPadded (by omega) (by omega)
  match ofNatPadded 4 n, hlen with
  | [a, b, c, d], _ => exact ⟨a, b, c, d, rfl⟩

end TagLint.Text
