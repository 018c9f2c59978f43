import TagLint.Text.Basic
/-!
Upper and lower case as far as ASCII words are concerned. The texts compared after a change of case
are all ASCII words, so a letter matters only if its upper or lower case form is ASCII; every other
letter keeps its shape here, since neither form of it occurs in such a word.
-/

namespace TagLint.Text

/-- The upper-case form where it is made of ASCII letters: the ASCII letters themselves, sharp s,
the dotless i, the long s and the Latin ligatures. -/
def upperChar (c : Char) : Text :=
  if 'a' ≤ c ∧ c ≤ 'z' then [Char.ofNat (c.toNat - 32)]
  else match c.toNat with
    | 0x00DF => ['S', 'S']
    | 0x0131 => ['I']
    | 0x017F => ['S']
    | 0xFB00 => ['F', 'F']
    | 0xFB01 => ['F', 'I']
    | 0xFB02 => ['F', 'L']
    | 0xFB03 => ['F', 'F', 'I']
    | 0xFB04 => ['F', 'F', 'L']
    | 0xFB05 => ['S', 'T']
    | 0xFB06 => ['S', 'T']
    | _ => [c]

/-- The lower-case form where it holds an ASCII letter: the ASCII letters, the dotted capital I and
the Kelvin sign. -/
def lowerChar (c : Char) : Text :=
  if 'A' ≤ c ∧ c ≤ 'Z' then [Char.ofNat (c.toNat + 32)]
  else match c.toNat with
    | 0x0130 => ['i', Char.ofNat 0x0307]
    | 0x212A => ['k']
    | _ => [c]

/-- The text in upper case. -/
def upper (t : Text) : Text := t.flatMap upperChar

/-- The text in lower case. -/
def lower (t : Text) : Text := t.flatMap lowerChar

end TagLint.Text
