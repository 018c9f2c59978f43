import TagLint.Text.Composition
/-!
The composed compatibility form of an identifier: every character is taken apart into its
compatibility decomposition, marks are put into the order of their combining classes, and what has
a composed character is put together again.
-/

namespace TagLint.Text

/-! ## Syllables of Korean, which are composed by arithmetic -/

/-- The first code point of the syllables, and of the leading, vowel and trailing letters; the
trailing letters are counted from the code point before their first. -/
def syllableBase : Nat := 0xAC00

/-- The first leading letter. -/
def leadBase : Nat := 0x1100

/-- The first vowel. -/
def vowelBase : Nat := 0x1161

/-- The code point before the first trailing letter. -/
def trailBase : Nat := 0x11A7

/-- How many leading letters, vowels and (with none) trailing letters there are. -/
def leadCount : Nat := 19

/-- How many vowels there are. -/
def vowelCount : Nat := 21

/-- How many trailing letters there are, none included. -/
def trailCount : Nat := 28

/-- The letters of a syllable. -/
def syllableLetters? (n : Nat) : Option (List Nat) :=
  let i := n - syllableBase
  if n < syllableBase ∨ leadCount * vowelCount * trailCount ≤ i then none
  else
    let lead := leadBase + i / (vowelCount * trailCount)
    let vowel := vowelBase + i / trailCount % vowelCount
    let trail := i % trailCount
    some (if trail = 0 then [lead, vowel] else [lead, vowel, trailBase + trail])

/-- The syllable that a leading letter and a vowel, or an open syllable and a trailing letter,
make. -/
def syllable? (a b : Nat) : Option Nat :=
  if leadBase ≤ a ∧ a < leadBase + leadCount ∧ vowelBase ≤ b ∧ b < vowelBase + vowelCount then
    some (syllableBase + ((a - leadBase) * vowelCount + (b - vowelBase)) * trailCount)
  else if syllableBase ≤ a ∧ a < syllableBase + leadCount * vowelCount * trailCount ∧
      (a - syllableBase) % trailCount = 0 ∧ trailBase < b ∧ b < trailBase + trailCount then
    some (a + (b - trailBase))
  else none

/-! ## Taking apart -/

/-- The decomposition of a code point, going through so many levels of composed characters. -/
def decomposeCode : (levels : Nat) → Nat → List Nat
  | 0, n => [n]
  | levels + 1, n =>
    if n < 0x80 then [n]
    else
      match syllableLetters? n with
      | some ls => ls
      | none =>
        match entryOf? compositions n with
        | some (_, _, parts) => parts.flatMap (decomposeCode levels)
        | none =>
          match entryOf? decompositions n with
          | some (first, _, [target]) => [target + (n - first)]
          | some (_, _, targets) => targets
          | none => [n]

/-- How many times a composed character can have a composed first part. -/
def compositionDepth : Nat := 8

/-- The combining class of a code point. -/
def combiningClass (n : Nat) : Nat :=
  if n < 0x300 then 0
  else
    match entryOf? combiningClasses n with
    | some (_, _, [k]) => k
    | _ => 0

/-- Puts a mark behind all marks before it whose class is not larger. The list holds the marks
since the last character of class zero, the last one first. -/
def insertMark (n : Nat) : List Nat → List Nat
  | [] => [n]
  | m :: ms => if combiningClass n < combiningClass m then m :: insertMark n ms else n :: m :: ms

/-- The code points with each run of marks in the order of their classes; `marks` is the run in
hand, the last one first. -/
def orderMarks (marks : List Nat) : List Nat → List Nat
  | [] => marks.reverse
  | n :: ns =>
    if combiningClass n = 0 then marks.reverse ++ n :: orderMarks [] ns
    else orderMarks (insertMark n marks) ns

/-! ## Putting together -/

/-- The character composed of two. -/
def compose? (a b : Nat) : Option Nat :=
  match syllable? a b with
  | some s => some s
  | none => (compositions.find? fun e => e.2.2 == [a, b]).map (·.1)

/-- Composes from the left. `starter` is the last character of class zero, `held` what follows it
so far, the last one first. A character joins the starter unless one of the same or a higher class,
or another character of class zero, stands between them. -/
def composeFrom (starter : Nat) (held : List Nat) : List Nat → List Nat
  | [] => starter :: held.reverse
  | n :: ns =>
    let k := combiningClass n
    let blocked :=
      match held with
      | [] => false
      | m :: _ => combiningClass m == 0 || k ≤ combiningClass m
    match (if blocked then none else compose? starter n) with
    | some s => composeFrom s held ns
    | none =>
      if k = 0 then starter :: held.reverse ++ composeFrom n [] ns
      else composeFrom starter (n :: held) ns

/-- Composes; marks before the first character of class zero stay. -/
def compose : List Nat → List Nat
  | [] => []
  | n :: ns => if combiningClass n = 0 then composeFrom n [] ns else n :: compose ns

/-- The composed compatibility form. -/
def compatibilityForm (t : Text) : Text :=
  if t.all (fun c => c.toNat < 0x80) then t
  else
    (compose (orderMarks [] (t.flatMap fun c => decomposeCode compositionDepth c.toNat))).map
      Char.ofNat

end TagLint.Text
