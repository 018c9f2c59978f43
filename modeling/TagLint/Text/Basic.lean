/-!
Text as a list of Unicode code points, and the searches that the rest of the library makes in it.
Columns and indices everywhere count code points, so an index is a position in the list.
-/

namespace TagLint

/-- A text is the list of its code points. -/
abbrev Text := List Char

namespace Text

/-- Whether `word` stands in `t` at position `i`. -/
def occursAt (word t : Text) (i : Nat) : Bool := word.isPrefixOf (t.drop i)

/-- The position of the first occurrence of `word`. -/
def find? (word : Text) : Text → Option Nat
  | [] => if word.isEmpty then some 0 else none
  | c :: r => if word.isPrefixOf (c :: r) then some 0 else (find? word r).map (· + 1)

/-- The position of the last occurrence of `word`. -/
def findLast? (word : Text) : Text → Option Nat
  | [] => if word.isEmpty then some 0 else none
  | c :: r =>
    match findLast? word r with
    | some i => some (i + 1)
    | none => if word.isPrefixOf (c :: r) then some 0 else none

/-- The first occurrence of `word` that starts at `start` or later. -/
def findFrom? (word t : Text) (start : Nat) : Option Nat :=
  if start ≤ t.length then (find? word (t.drop start)).map (· + start) else none

/-- The last occurrence of `word` that ends at `stop` or earlier. -/
def findLastBefore? (word t : Text) (stop : Nat) : Option Nat := findLast? word (t.take stop)

/-- Whether `t` ends with `word`. -/
def endsWith (t word : Text) : Bool := word.isSuffixOf t

/-- Cuts a text at every character of the class; the pieces are never none. -/
def splitAtEach (cut : Char → Bool) : Text → List Text
  | [] => [[]]
  | c :: r =>
    match splitAtEach cut r with
    | [] => [[c]]
    | p :: ps => if cut c then [] :: p :: ps else (c :: p) :: ps

theorem splitAtEach_ne_nil (cut : Char → Bool) (t : Text) : splitAtEach cut t ≠ [] := by
  cases t with
  | nil => simp [splitAtEach]
  | cons c r =>
    rw [splitAtEach]
    split
    · simp
    · split <;> simp

/-- The pieces joined with `sep` between neighbours. -/
def joinWith (sep : Text) : List Text → Text
  | [] => []
  | [p] => p
  | p :: q :: ps => p ++ sep ++ joinWith sep (q :: ps)

/-- The decimal numeral of a natural number. -/
def ofNat (n : Nat) : Text := (toString n).toList

/-- The decimal numeral of `n` with zeros in front, at least `width` digits. -/
def ofNatPadded (width n : Nat) : Text :=
  let digits := ofNat n
  List.replicate (width - digits.length) '0' ++ digits

end Text

end TagLint
