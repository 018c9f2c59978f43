import TagLint.Failure
import TagLint.Tag.Key
/-!
Number literals of a source text: whole numbers in base two, eight, ten and sixteen, decimal
fractions with an exponent, and imaginary numbers.
-/

namespace TagLint.Outline.Numeral

/-- Whether a character could stand in a word: ASCII letters, digits, the underscore, and everything
outside ASCII. -/
def isWordLike (c : Char) : Bool := Tag.isWordChar c || 0x80 ≤ c.toNat

/-- Digits with single underscores before any of them, and the text behind; an underscore without a
digit behind it is an error. -/
def digits? (isDigit : Char → Bool) : Text → Option (Text × Text)
  | '_' :: d :: r =>
    if isDigit d then (digits? isDigit r).map fun (ds, e) => (d :: ds, e) else none
  | ['_'] => none
  | d :: r =>
    if isDigit d then (digits? isDigit r).map fun (ds, e) => (d :: ds, e) else some ([], d :: r)
  | [] => some ([], [])

/-- The reserved words that may follow a number without a blank. -/
def followers : List Text := ["and", "else", "for", "if", "in", "is", "or", "not"].map String.toList

/-- Whether a number may end before this text. -/
def endsBefore (r : Text) : Bool :=
  followers.any (·.isPrefixOf r) || !(r.head?.any isWordLike)

/-- A number that ends before this text. -/
def finished? (imaginary : Bool) (r : Text) : Option (Bool × Text) :=
  if endsBefore r then some (imaginary, r) else none

/-- An imaginary letter and the end of a number. -/
def suffix? (r : Text) : Option (Bool × Text) :=
  match r with
  | 'j' :: r => finished? true r
  | 'J' :: r => finished? true r
  | r => finished? false r

/-- The digits of an exponent and the end of a number. -/
def exponentDigits? (r : Text) : Option (Bool × Text) := do
  let (_, r) ← digits? Char.isDigit r
  suffix? r

/-- An exponent, if there is one, and the end of a number. An `e` without digits behind it may only
be the start of `else`. -/
def exponent? (t : Text) : Option (Bool × Text) :=
  match t with
  | c :: r =>
    if c = 'e' ∨ c = 'E' then
      match r with
      | s :: d :: r' =>
        if s = '+' ∨ s = '-' then (if d.isDigit then exponentDigits? (d :: r') else none)
        else if s.isDigit then exponentDigits? (s :: d :: r')
        else if "else".toList.isPrefixOf t then some (false, t)
        else none
      | [s] => if s.isDigit then exponentDigits? [s] else none
      | [] => none
    else suffix? t
  | [] => suffix? []

/-- The digits behind a point and the end of a number. -/
def fraction? (r : Text) : Option (Bool × Text) :=
  if r.head?.any Char.isDigit then do
    let (_, r) ← digits? Char.isDigit r
    exponent? r
  else exponent? r

/-- A whole number in another base, from the text behind its letter on. -/
def based? (isDigit : Char → Bool) (r : Text) : Option (Bool × Text) := do
  let (ds, r) ← digits? isDigit r
  if ds.isEmpty || r.head?.any Char.isDigit then none else finished? false r

/-- Whether a character is a hexadecimal digit. -/
def isHexDigit (c : Char) : Bool :=
  c.isDigit || ('a' ≤ c && c ≤ 'f') || ('A' ≤ c && c ≤ 'F')

/-- What may follow the digits before a point. Digits that start with a zero but are not all zero,
and those that are too many, do not make a whole number. -/
def afterWhole? (ds r : Text) : Option (Bool × Text) :=
  let short := ds.head? = some '0' || ds.length ≤ Failure.digitLimit
  let whole := short && (ds.head? != some '0' || ds.all (· == '0'))
  match r with
  | '.' :: r => fraction? r
  | c :: _ =>
    if c = 'e' ∨ c = 'E' then
      (exponent? r).bind fun (imaginary, rest) =>
        if rest.length < r.length || short then some (imaginary, rest) else none
    else if whole || c == 'j' || c == 'J' then suffix? r
    else none
  | [] => if whole then suffix? [] else none

/-- Reads a number: whether it is imaginary, and the text behind it. The text starts with a digit,
or with a point and a digit. -/
def read? (t : Text) : Option (Bool × Text) :=
  match t with
  | '.' :: r => fraction? r
  | '0' :: c :: r =>
    if c = 'x' ∨ c = 'X' then based? isHexDigit r
    else if c = 'o' ∨ c = 'O' then based? (fun d => '0' ≤ d && d ≤ '7') r
    else if c = 'b' ∨ c = 'B' then based? (fun d => d == '0' || d == '1') r
    else do
      let (ds, r) ← digits? Char.isDigit t
      afterWhole? ds r
  | _ => do
    let (ds, r) ← digits? Char.isDigit t
    afterWhole? ds r

end TagLint.Outline.Numeral
