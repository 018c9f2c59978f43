/-!
Binary floating-point numbers of 64 bits, by their values. Every finite one is a whole multiple of
the smallest positive one, `2 ^ -1074`, so its value is kept as that multiple. The two zeros are
one value here.
-/

namespace TagLint

/-- A floating-point number. A finite one has the value `units / 2 ^ 1074`. -/
inductive Binary64 where
  | finite (units : Int)
  | infinite (negative : Bool)
  | nan
deriving DecidableEq, Repr

namespace Binary64

/-- How many units make one. -/
def unitsPerOne : Nat := Nat.pow 2 1074

/-- The number of bits of a significand. -/
def precision : Nat := 53

/-- The quotient rounded to the nearest whole number, a tie to the even one. -/
def roundDiv (num den : Nat) : Nat :=
  let q := num / den
  let r := num % den
  if den < 2 * r ∨ (2 * r = den ∧ q % 2 = 1) then q + 1 else q

/-- The multiple of the unit nearest to `num / den` units among those with a significand of no more
bits than there is room for, whatever the exponent. -/
def roundUnits (num den : Nat) : Nat :=
  let q := num / den
  let shift := if q < Nat.pow 2 precision then 0 else q.log2 + 1 - precision
  roundDiv num (den * Nat.pow 2 shift) * Nat.pow 2 shift

/-- The first magnitude beyond the finite numbers, in units. -/
def overflow : Nat := Nat.pow 2 1024 * unitsPerOne

/-- The number nearest to `num / den` or its negative; beyond the finite ones it is infinite. -/
def ofRatio (negative : Bool) (num den : Nat) : Binary64 :=
  let units := roundUnits (num * unitsPerOne) den
  if overflow ≤ units then .infinite negative
  else .finite (if negative then -(units : Int) else units)

/-- The number nearest to a whole number. -/
def ofInt (n : Int) : Binary64 := ofRatio (n < 0) n.natAbs 1

/-- The greatest whole number that is not larger. -/
def floorUnits (units : Int) : Int := Int.fdiv units unitsPerOne

/-- The whole number left when the fraction is cut off. -/
def truncateUnits (units : Int) : Int := Int.tdiv units unitsPerOne

end Binary64

end TagLint
