import TagLint.Outline.Numeral
import TagLint.Outline.Token
import TagLint.Text.Identifier
import TagLint.Text.LetterCase
import TagLint.Text.Lines
import TagLint.Text.Utf8
/-!
Cutting a source text into tokens. Line ends and indentation count outside brackets only; a line
with nothing but blanks and a comment has no tokens; a backslash at the end of a line joins it to
the next.
-/

namespace TagLint.Outline.Lexer

/-- A place in the source: the text from there on, its line, and its column in bytes. -/
structure Cursor where
  rest : Text
  line : Nat := 0
  column : Nat := 0

namespace Cursor

/-- The place behind one character. -/
def pass (c : Cursor) (ch : Char) (rest : Text) : Cursor :=
  if ch = '\n' then { rest, line := c.line + 1, column := 0 }
  else { rest, line := c.line, column := c.column + Text.charBytes ch }

/-- The place behind the next so many characters. -/
def advance (c : Cursor) : Nat → Cursor
  | 0 => c
  | n + 1 =>
    match c.rest with
    | [] => c
    | ch :: r => (c.pass ch r).advance n

/-- The place at which only `rest` is left. -/
def moveTo (c : Cursor) (rest : Text) : Cursor := c.advance (c.rest.length - rest.length)

/-- The place before the next line feed, or at the end of the text. -/
def toLineEnd (c : Cursor) : Cursor := c.moveTo (c.rest.dropWhile (· != '\n'))

/-- A token at this place. -/
def token (c : Cursor) (kind : Token.Kind) : Token := { kind, line := c.line, column := c.column }

end Cursor

/-! ## Words and strings -/

/-- The letters in front of a string literal, in lower case. -/
def stringLetters : List Text := ["", "r", "u", "b", "br", "rb", "f", "fr", "rf"].map String.toList

/-- The body of a string on one line, up to the closing mark, and the text behind it. -/
def lineBody? (mark : Char) : Text → Option (Text × Text)
  | '\\' :: c :: r => (lineBody? mark r).map fun (b, e) => ('\\' :: c :: b, e)
  | c :: r =>
    if c = mark then some ([], r)
    else if c = '\n' then none
    else (lineBody? mark r).map fun (b, e) => (c :: b, e)
  | [] => none

/-- The body of a string on several lines, up to three closing marks, and the text behind them. -/
def linesBody? (mark : Char) : Text → Option (Text × Text)
  | '\\' :: c :: r => (linesBody? mark r).map fun (b, e) => ('\\' :: c :: b, e)
  | c :: r =>
    if [mark, mark, mark].isPrefixOf (c :: r) then some ([], r.drop 2)
    else (linesBody? mark r).map fun (b, e) => (c :: b, e)
  | [] => none

/-- The body of a string from its opening mark on. -/
def stringBody? : Text → Option (Text × Text)
  | m :: r =>
    if [m, m].isPrefixOf r then linesBody? m (r.drop 2)
    else lineBody? m r
  | [] => none

/-- Whether a character is a quotation mark. -/
def isQuote (c : Char) : Bool := c == '\x27' || c == '\x22'

/-- The string with these letters in front, from its opening mark on. -/
def string? (letters t : Text) : Option (Token.Kind × Text) :=
  (stringBody? t).map fun (body, rest) =>
    (.string {
      bytes := letters.contains 'b'
      raw := letters.contains 'r'
      formatted := letters.contains 'f'
      body }, rest)

/-- A word, or a string with letters in front of it. A word with characters outside ASCII must be an
identifier. -/
def word? (t : Text) : Option (Token.Kind × Text) :=
  let word := t.takeWhile Numeral.isWordLike
  let rest := t.dropWhile Numeral.isWordLike
  let letters := Text.lower word
  if rest.head?.any isQuote && stringLetters.contains letters then string? letters rest
  else if word.any (fun c => 0x80 ≤ c.toNat) && !Text.isIdentifier word then none
  else some (if Token.reserved.contains word then .word word else .name word, rest)

/-- An operator. -/
def operator? (t : Text) : Option (Token.Kind × Text) :=
  (Token.operators.find? (·.isPrefixOf t)).map fun op => (.word op, t.drop op.length)

/-- A token that is no bracket and no line end. -/
def plain? (t : Text) : Option (Token.Kind × Text) :=
  match t with
  | [] => none
  | c :: r =>
    if c.isDigit || (c == '.' && r.head?.any Char.isDigit) then
      (Numeral.read? t).map fun (imaginary, rest) => (.number imaginary, rest)
    else if Numeral.isWordLike c then word? t
    else if isQuote c then string? [] t
    else operator? t

/-! ## Indentation -/

/-- How far a line is indented, with tabs to the next multiple of eight and with tabs as one
blank. -/
structure Indent where
  wide : Nat
  narrow : Nat
deriving DecidableEq, Repr

/-- The deepest indentation, as a number of blocks. -/
def indentLimit : Nat := 100

/-- The deepest nesting of brackets. -/
def bracketLimit : Nat := 200

/-- Measures blanks at the front of a line. A form feed starts again from zero. Over a backslash the
line goes on, but its indentation is that of the first line that has one. -/
def measure? (seen : Indent) (first : Option Indent) : Text → Option (Indent × Text)
  | ' ' :: r => measure? ⟨seen.wide + 1, seen.narrow + 1⟩ first r
  | '\t' :: r => measure? ⟨(seen.wide / 8 + 1) * 8, seen.narrow + 1⟩ first r
  | '\x0c' :: r => measure? ⟨0, 0⟩ first r
  | '\\' :: '\n' :: r =>
    if r.isEmpty then none
    else measure? seen (first.or (if seen.wide = 0 then none else some ⟨seen.wide, seen.wide⟩)) r
  | '\\' :: _ => none
  | t => some (first.getD seen, t)

/-- The indentations after a line, the innermost first, with the tokens for the change. A line may
go one block deeper, or back to the indentation of a block around it. -/
def reindent? (stack : List Indent) (i : Indent) : Option (List Indent × List Token.Kind) :=
  match stack with
  | [] => if i.wide = 0 ∧ i.narrow = 0 then some ([], []) else enter [] ⟨0, 0⟩
  | top :: below =>
    if i.wide = top.wide then (if i.narrow = top.narrow then some (stack, []) else none)
    else if top.wide < i.wide then enter stack top
    else (reindent? below i).bind fun (s, kinds) =>
      if s.length ≤ below.length then some (s, .dedent :: kinds) else none
where
  /-- Opens a block. -/
  enter (stack : List Indent) (top : Indent) : Option (List Indent × List Token.Kind) :=
    if indentLimit ≤ stack.length + 1 ∨ i.narrow ≤ top.narrow then none
    else some (i :: stack, [.indent])

/-! ## The whole text -/

/-- The indentations of the blocks around a place, and the closing brackets that are waited for. -/
structure Context where
  indents : List Indent := []
  closers : List Char := []

/-- A bracket and the context behind it. -/
def bracket? (ctx : Context) (c : Char) : Option Context :=
  match Token.brackets.lookup c with
  | some closer =>
    if bracketLimit ≤ ctx.closers.length then none
    else some { ctx with closers := closer :: ctx.closers }
  | none =>
    match ctx.closers with
    | d :: ds => if c = d then some { ctx with closers := ds } else none
    | [] => none

/-- Whether a character is a bracket. -/
def isBracket (c : Char) : Bool := Token.brackets.any fun p => p.1 == c || p.2 == c

mutual

/-- The tokens from the start of a line on, in no more than `left` steps. -/
def lineStart : (left : Nat) → Context → Cursor → Option (List Token)
  | 0, _, _ => none
  | left + 1, ctx, at' =>
    match measure? ⟨0, 0⟩ none at'.rest with
    | none => none
    | some (indent, rest) =>
      let here := at'.moveTo rest
      let body := here.toLineEnd
      if rest.head?.any fun c => c == '\n' || c == '#' then
        match body.rest with
        | [] => lineStart left ctx body
        | c :: r => lineStart left ctx (body.pass c r)
      else if ctx.closers.isEmpty then
        match reindent? ctx.indents indent with
        | none => none
        | some (indents, kinds) =>
          if rest.isEmpty then some ((kinds ++ [Token.Kind.textEnd]).map here.token)
          else (inLine left { ctx with indents } here).map ((kinds.map here.token) ++ ·)
      else if rest.isEmpty then none
      else inLine left ctx here

/-- The tokens from a place inside a line on, in no more than `left` steps. -/
def inLine : (left : Nat) → Context → Cursor → Option (List Token)
  | 0, _, _ => none
  | left + 1, ctx, at' =>
    match at'.rest with
    | [] => none
    | c :: r =>
      if c = ' ' ∨ c = '\t' ∨ c = '\x0c' then inLine left ctx (at'.pass c r)
      else if c = '#' then inLine left ctx at'.toLineEnd
      else if c = '\n' then
        let next := lineStart left ctx (at'.pass c r)
        if ctx.closers.isEmpty then next.map (at'.token .lineEnd :: ·) else next
      else if c = '\\' then
        match r with
        | '\n' :: _ :: _ => inLine left ctx (at'.advance 2)
        | _ => none
      else if isBracket c then
        match bracket? ctx c with
        | some ctx => (inLine left ctx (at'.pass c r)).map (at'.token (.word [c]) :: ·)
        | none => none
      else
        match plain? (c :: r) with
        | some (kind, rest) => (inLine left ctx (at'.moveTo rest)).map (at'.token kind :: ·)
        | none => none

end

/-- A source text with every line terminator as a line feed and with one at its end. A text that
ends in a carriage return and a line feed gets one more. -/
def closed (source : Text) : Text :=
  let t := Text.unifyBreaks source
  if t.getLast? = some '\n' ∧ !Text.endsWith source ['\r', '\n'] then t else t ++ ['\n']

/-- The tokens of a source text, if it can be cut into tokens. -/
def tokens? (source : Text) : Option (List Token) :=
  let t := closed source
  lineStart (2 * t.length + 2) {} { rest := t }

end TagLint.Outline.Lexer
