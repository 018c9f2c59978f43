import TagLint.Failure
import TagLint.Number.Binary64
import TagLint.Text.Blank
import TagLint.Text.DecimalDigit
import TagLint.Text.LetterCase
import TagLint.Text.Quoted
/-!
Numerals in text: whole numbers and decimal fractions, with digits of any script, a sign, blanks
around them, and single underscores between digits.
-/

namespace TagLint.Numeral

/-- Blanks that may stand around a numeral: all but the information separators. -/
def isPad (c : Char) : Bool := Text.isBlank c && !(0x1C ≤ c.toNat && c.toNat ≤ 0x1F)

/-- The text without its pads. -/
def withoutPads (t : Text) : Text := ((t.dropWhile isPad).reverse.dropWhile isPad).reverse

/-- A character with every decimal digit in its ASCII form. -/
def plainDigit (c : Char) : Char :=
  match Text.digitValue? c with
  | some v => Char.ofNat (48 + v)
  | none => c

/-- A numeral without pads and with plain digits. -/
def plain (t : Text) : Text := (withoutPads t).map plainDigit

/-- The sign at the front, `true` for a minus, and what follows it. -/
def sign : Text → Bool × Text
  | '-' :: r => (true, r)
  | '+' :: r => (false, r)
  | t => (false, t)

/-- The value of ASCII digits. -/
def value (digits : Text) : Nat := digits.foldl (fun n c => n * 10 + (c.toNat - 48)) 0

/-- Whether every underscore stands between two digits, after a character that was a digit or
not. -/
def underscoresFit (afterDigit : Bool) : Text → Bool
  | [] => true
  | '_' :: r => afterDigit && (r.head?.any Char.isDigit) && underscoresFit false r
  | c :: r => underscoresFit c.isDigit r

/-- The text without its underscores, if they all stand between digits. -/
def withoutUnderscores? (t : Text) : Option Text :=
  if underscoresFit false t then some (t.filter (· != '_')) else none

/-! ## Whole numbers -/

/-- The whole number that a text spells. Digits are counted before what follows them is looked at,
so a numeral that is too long is reported as such even if it is followed by other text. -/
def readInt (raw : Text) : Except Failure Int :=
  let bad := Except.error (Failure.badNumeral ((Text.Quoted.encode raw).take 200))
  let (negative, body) := sign (plain raw)
  let run := body.takeWhile fun c => c.isDigit || c == '_'
  match withoutUnderscores? run with
  | none => bad
  | some [] => bad
  | some digits =>
    if Failure.digitLimit < digits.length then .error (.longNumeral digits.length)
    else if run.length < body.length then bad
    else .ok (if negative then -(value digits : Int) else value digits)

/-! ## Decimal fractions -/

/-- The parts of a decimal fraction: the digits before and after the point, and the exponent. -/
structure Decimal where
  whole : Text
  fraction : Text
  exponent : Int

/-- The exponent at the end of a decimal fraction, zero if there is none. -/
def exponent? : Text → Option Int
  | [] => some 0
  | c :: r =>
    if c = 'e' ∨ c = 'E' then
      let (negative, digits) := sign r
      if digits.isEmpty || !digits.all Char.isDigit then none
      else some (if negative then -(value digits : Int) else value digits)
    else none

/-- The parts of an unsigned decimal fraction; digits must stand before or after the point. -/
def decimal? (t : Text) : Option Decimal := do
  let whole := t.takeWhile Char.isDigit
  let rest := t.dropWhile Char.isDigit
  let (fraction, tail) :=
    match rest with
    | '.' :: r => (r.takeWhile Char.isDigit, r.dropWhile Char.isDigit)
    | r => ([], r)
  if whole.isEmpty && fraction.isEmpty then none
  else
    let exponent ← exponent? tail
    return { whole, fraction, exponent }

/-- The number nearest to a decimal fraction. Magnitudes far outside the range of the finite
numbers are settled without writing them out. -/
def Decimal.toBinary64 (negative : Bool) (d : Decimal) : Binary64 :=
  let digits := (d.whole ++ d.fraction).dropWhile (· == '0')
  let scale := d.exponent - d.fraction.length
  let order := digits.length + scale
  if digits.isEmpty then .finite 0
  else if 310 < order then .infinite negative
  else if order < -326 then .finite 0
  else if 0 ≤ scale then Binary64.ofRatio negative (value digits * Nat.pow 10 scale.toNat) 1
  else Binary64.ofRatio negative (value digits) (Nat.pow 10 (-scale).toNat)

/-- The special numbers by their names in lower case. -/
def special? (negative : Bool) (t : Text) : Option Binary64 :=
  let name := t.map Char.toLower
  if name = "inf".toList ∨ name = "infinity".toList then some (.infinite negative)
  else if name = "nan".toList then some .nan
  else none

/-- The floating-point number that a text spells. -/
def readReal? (raw : Text) : Option Binary64 := do
  let t ← withoutUnderscores? (plain raw)
  let (negative, body) := sign t
  match special? negative body with
  | some x => some x
  | none => (decimal? body).map (Decimal.toBinary64 negative)

end TagLint.Numeral
