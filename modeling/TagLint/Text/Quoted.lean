import TagLint.Text.Printable
/-!
Text written as a quoted literal in one line of visible characters.
-/

namespace TagLint.Text.Quoted

/-- A hexadecimal digit in lower case. -/
def hexDigit (n : Nat) : Char := if n < 10 then Char.ofNat (48 + n) else Char.ofNat (87 + n)

/-- The lowest so many hexadecimal digits of a number. -/
def hexDigits : (width n : Nat) → Text
  | 0, _ => []
  | width + 1, n => hexDigits width (n / 16) ++ [hexDigit (n % 16)]

/-- The quotation mark of a literal: the single one, unless only that one occurs in the text. -/
def mark (t : Text) : Char := if t.contains '\x27' && !t.contains '\x22' then '\x22' else '\x27'

/-- A character inside a literal. The backslash and the mark are escaped, and so is what is not
printable: by its letter, or by two, four or eight hexadecimal digits. -/
def encodeChar (mark c : Char) : Text :=
  if c = mark ∨ c = '\\' then ['\\', c]
  else if c = '\n' then ['\\', 'n']
  else if c = '\r' then ['\\', 'r']
  else if c = '\t' then ['\\', 't']
  else if isPrintable c then [c]
  else if c.toNat < 0x100 then '\\' :: 'x' :: hexDigits 2 c.toNat
  else if c.toNat < 0x10000 then '\\' :: 'u' :: hexDigits 4 c.toNat
  else '\\' :: 'U' :: hexDigits 8 c.toNat

/-- The literal of a text. -/
def encode (t : Text) : Text := [mark t] ++ t.flatMap (encodeChar (mark t)) ++ [mark t]

end TagLint.Text.Quoted
