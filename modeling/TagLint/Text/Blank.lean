import TagLint.Text.Basic
/-!
Blank characters: the white space of Unicode and the four information separators. Words are what
stands between blanks.
-/

namespace TagLint.Text

/-- White space: the ASCII blanks, the information separators 1C to 1F, and the spaces and line
separators of Unicode. -/
def isBlank (c : Char) : Bool :=
  let n := c.toNat
  (9 ≤ n && n ≤ 0x0D) || (0x1C ≤ n && n ≤ 0x20) || n == 0x85 || n == 0xA0 || n == 0x1680 ||
    (0x2000 ≤ n && n ≤ 0x200A) || n == 0x2028 || n == 0x2029 || n == 0x202F || n == 0x205F ||
    n == 0x3000

/-- The text without the blanks at its front. -/
def trimLeft (t : Text) : Text := t.dropWhile isBlank

/-- The text without the blanks at its back. -/
def trimRight (t : Text) : Text := (t.reverse.dropWhile isBlank).reverse

/-- The text without the blanks at either end. -/
def trim (t : Text) : Text := trimRight (trimLeft t)

/-- The maximal runs of non-blank characters, in order. -/
def words (t : Text) : List Text := (splitAtEach isBlank t).filter (fun w => !w.isEmpty)

end TagLint.Text
