import TagLint.Text.Basic
/-!
Tables of code points in a compact written form. A table is a list of rows of words; a word is
`gap` or `gap+more` in hexadecimal and stands for a range: `gap` code points after the end of the
range before it there is one, and it goes on for `more` further code points.
-/

namespace TagLint.Text

/-- The value of a hexadecimal digit with capital letters, zero for any other character. -/
def hexValue (c : Char) : Nat :=
  if '0' ≤ c ∧ c ≤ '9' then c.toNat - 48
  else if 'A' ≤ c ∧ c ≤ 'F' then c.toNat - 55
  else 0

/-- The value of a hexadecimal numeral. -/
def ofHex (t : Text) : Nat := t.foldl (fun n c => n * 16 + hexValue c) 0

/-- The words of rows that are separated by spaces. -/
def rowWords (rows : List String) : List Text :=
  (rows.flatMap fun r => splitAtEach (· == ' ') r.toList).filter (fun w => !w.isEmpty)

/-- A word cut at the first place of a character. -/
def cutAtFirst (c : Char) (t : Text) : Text × Text :=
  (t.takeWhile (· != c), (t.dropWhile (· != c)).drop 1)

/-- The ranges that words stand for, the first code point and the last, when the range before them
ends just below `next`. -/
def rangesFrom (next : Nat) : List Text → List (Nat × Nat)
  | [] => []
  | w :: ws =>
    let (gap, more) := cutAtFirst '+' w
    let first := next + ofHex gap
    let last := first + ofHex more
    (first, last) :: rangesFrom (last + 1) ws

/-- The ranges of a table. -/
def rangesOf (rows : List String) : List (Nat × Nat) := rangesFrom 0 (rowWords rows)

/-- Whether a code point lies in one of the ranges. -/
def inRanges (ranges : List (Nat × Nat)) (n : Nat) : Bool :=
  ranges.any fun r => r.1 ≤ n && n ≤ r.2

end TagLint.Text
