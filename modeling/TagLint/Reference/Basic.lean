import TagLint.Failure
import TagLint.Tag.Key
/-!
References: what the payload of a sync tag lists. A reference is a path, and optionally the lines
or the symbol meant there: `path:L10`, `path:L10-L20`, `path:L10-20` or `path#Outer.inner`.
-/

namespace TagLint

/-- Lines of a file, counted from 1; without a last line only the first is meant. -/
structure Reference.LineRange where
  first : Nat
  last : Option Nat
deriving DecidableEq, Repr

/-- What a reference means in the file that it names. -/
inductive Reference.Place where
  | whole
  | lines (range : Reference.LineRange)
  | symbol (name : Text)
deriving DecidableEq, Repr

/-- A reference to a file or folder. -/
structure Reference where
  path : Text
  place : Reference.Place
deriving DecidableEq, Repr

namespace Reference

/-- The lines meant, if lines are. -/
def Place.lines? : Place → Option LineRange
  | .lines r => some r
  | _ => none

/-- The symbol meant, if one is. -/
def Place.symbol? : Place → Option Text
  | .symbol s => some s
  | _ => none

/-- The value of a numeral of ASCII digits, unless it is too long. -/
def number (digits : Text) : Except Failure Nat :=
  if Failure.digitLimit < digits.length then .error (.longNumeral digits.length)
  else .ok (digits.foldl (fun n c => n * 10 + (c.toNat - 48)) 0)

/-- Whether a text consists of ASCII digits, at least one. -/
def isNumeral (t : Text) : Bool := !t.isEmpty && t.all Char.isDigit

/-- The letter that stands before a line number, in either case. -/
def isLineLetter (c : Char) : Bool := c == 'L' || c == 'l'

/-- The text without a line letter at its front. -/
def dropLineLetter : Text → Text
  | c :: r => if isLineLetter c then r else c :: r
  | [] => []

/-- The numerals of a line suffix, less its colon: one after a line letter, then perhaps a hyphen
and a second one, whose letter may be missing. -/
def lineNumerals? : Text → Option (Text × Option Text)
  | [] => none
  | c :: body =>
    let first := body.takeWhile Char.isDigit
    if isLineLetter c && isNumeral first then
      match body.dropWhile Char.isDigit with
      | [] => some (first, none)
      | '-' :: r =>
        if isNumeral (dropLineLetter r) then some (first, some (dropLineLetter r)) else none
      | _ => none
    else none

/-- A text cut at the last place of a character, if it has one. -/
def cutAtLast? (c : Char) (t : Text) : Option (Text × Text) :=
  (Text.findLast? [c] t).map fun i => (t.take i, t.drop (i + 1))

/-- The reference that a token with a line suffix makes. A line feed at its end is passed over. -/
def ofLines? (token : Text) : Except Failure (Option Reference) :=
  match cutAtLast? ':' (Tag.withoutFinalBreak token) with
  | none => .ok none
  | some (path, suffix) =>
    match lineNumerals? suffix with
    | none => .ok none
    | some (first, none) => do
      let a ← number first
      return some { path, place := .lines { first := a, last := none } }
    | some (first, some last) => do
      let a ← number first
      let b ← number last
      return some { path, place := .lines { first := a, last := some b } }

/-- The characters of a symbol suffix. -/
def isSymbolChar (c : Char) : Bool := Tag.isWordChar c || c == '.'

/-- The reference that a token with a symbol suffix makes. A line feed at its end is passed over. -/
def ofSymbol? (token : Text) : Option Reference :=
  match cutAtLast? '#' (Tag.withoutFinalBreak token) with
  | none => none
  | some (path, name) =>
    if !name.isEmpty && name.all isSymbolChar then some { path, place := .symbol name } else none

/-- The reference that a token makes: lines come before a symbol, and without either suffix the
whole token is the path. -/
def ofToken (token : Text) : Except Failure Reference := do
  match ← ofLines? token with
  | some r => return r
  | none => return (ofSymbol? token).getD { path := token, place := .whole }

/-- The tokens of a payload: between commas if it has any, else between blanks. -/
def tokens (payload : Text) : List Text :=
  if payload.contains ',' then
    ((Text.splitAtEach (· == ',') payload).map Text.trim).filter fun t => !t.isEmpty
  else Text.words payload

end Reference

end TagLint
