import TagLint.Outline.Lexer
/-!
String literals of a source text: whether their escapes are well-formed, and which expressions stand
between the braces of a formatted one. An escape may give a character by its name; there is no list
of such names here, so any word in braces is taken for one.
-/

namespace TagLint.Outline.Literal

/-! ## Escapes -/

/-- Whether a text starts with so many hexadecimal digits. -/
def hasHex (width : Nat) (t : Text) : Bool :=
  (t.take width).length == width && (t.take width).all Numeral.isHexDigit

/-- The greatest code point. -/
def lastCode : Nat := 0x10FFFF

/-- Characters of the name of a character. Names are not looked up. -/
def isNameChar (c : Char) : Bool := c.isAlphanum || c == ' ' || c == '-'

/-- The name in braces at the front of a text, with its braces. -/
def bracedName? (t : Text) : Option Text :=
  let name := (t.drop 1).takeWhile isNameChar
  if t.head? = some '\x7b' ∧ !name.isEmpty ∧ (t.drop (1 + name.length)).head? = some '\x7d' then
    some (t.take (name.length + 2))
  else none

/-- How many characters an escape has behind its backslash, none if it is malformed. A literal may
end in a backslash only before a brace of a formatted one, where the backslash stands for itself. -/
def escapeLength? (bytes : Bool) (t : Text) : Option Nat :=
  match t with
  | [] => some 0
  | 'x' :: r => if hasHex 2 r then some 3 else none
  | 'u' :: r => if bytes then some 1 else if hasHex 4 r then some 5 else none
  | 'U' :: r =>
    if bytes then some 1
    else if hasHex 8 r &&
        decide ((r.take 8).foldl (fun n c => n * 16 + Text.hexValue c.toUpper) 0 ≤ lastCode) then
      some 9
    else none
  | 'N' :: r => if bytes then some 1 else (bracedName? r).map fun name => 1 + name.length
  | _ :: _ => some 1

/-- Whether all escapes are well-formed. So many characters are passed over first. -/
def escapesFit (bytes : Bool) : (passed : Nat) → Text → Bool
  | _, [] => true
  | passed + 1, _ :: r => escapesFit bytes passed r
  | 0, c :: r =>
    if c = '\\' then
      match escapeLength? bytes r with
      | some n => escapesFit bytes n r
      | none => false
    else escapesFit bytes 0 r

/-! ## Formatted literals -/

/-- Whether a character is a brace. -/
def isBrace (c : Char) : Bool := c == '\x7b' || c == '\x7d'

/-- Whether a stretch of a formatted literal may stand there. The stretch is given backwards. -/
def stretchFits (raw : Bool) (stretch : Text) : Bool := raw || escapesFit false 0 stretch.reverse

/-- Passes over the text of a formatted literal up to a brace that is not doubled; the brace is
given with what follows it. It fails on a malformed escape and, at the top, on a lone closing brace.
Inside a format no brace is doubled. -/
def literalPart? (raw nested : Bool) : (inName : Bool) → (stretch : Text) → Text →
    Option (Option (Char × Text))
  | _, stretch, [] => if stretchFits raw stretch then some none else none
  | true, stretch, c :: r => literalPart? raw nested (c != '\x7d') (c :: stretch) r
  | false, stretch, [c] =>
    if isBrace c then
      if !nested && c == '\x7d' then none
      else if stretchFits raw stretch then some (some (c, []))
      else none
    else literalPart? raw nested false (c :: stretch) []
  | false, stretch, c :: d :: r =>
    if c = '\\' ∧ !raw then
      if isBrace d then literalPart? raw nested false (c :: stretch) (d :: r)
      else literalPart? raw nested (d == 'N' && r.head? == some '\x7b') (d :: c :: stretch) r
    else if !isBrace c then literalPart? raw nested false (c :: stretch) (d :: r)
    else if !nested && c == d then
      if stretchFits raw (c :: stretch) then literalPart? raw nested false [] r else none
    else if !nested && c == '\x7d' then none
    else if stretchFits raw stretch then some (some (c, d :: r))
    else none

/-- Where in an expression the scan is: inside a string with this mark, of one line or of several,
or outside. -/
abbrev InString := Option (Char × Bool)

/-- The characters that end an expression outside brackets, if no equals sign makes an operator of
them. -/
def endsExpression (c : Char) : Bool := c == '!' || c == ':' || c == '\x7d' || c == '='

/-- The characters that make an operator with an equals sign behind them. -/
def joinsEquals (c : Char) : Bool := c == '!' || c == '=' || c == '<' || c == '>'

/-- Puts a character in front of the expression that is read. -/
def withChar (c : Char) (p : Option (Text × Text)) : Option (Text × Text) :=
  p.map fun (e, r) => (c :: e, r)

/-- The expression in a field, and the text from the character on that ends it. Backslashes and
comments may not stand in it, and its brackets match. -/
def expressionPart? : InString → (closers : List Char) → Text → Option (Text × Text)
  | _, _, [] => none
  | some (mark, lines), closers, c :: r =>
    if c = '\\' then none
    else if c ≠ mark then withChar c (expressionPart? (some (mark, lines)) closers r)
    else if !lines then withChar c (expressionPart? none closers r)
    else
      match r with
      | a :: b :: r' =>
        if a = mark ∧ b = mark then
          withChar c (withChar a (withChar b (expressionPart? none closers r')))
        else withChar c (expressionPart? (some (mark, lines)) closers (a :: b :: r'))
      | r => withChar c (expressionPart? (some (mark, lines)) closers r)
  | none, closers, c :: r =>
    if c = '\\' ∨ c = '#' then none
    else if Lexer.isQuote c then
      match r with
      | a :: b :: r' =>
        if a = c ∧ b = c then
          withChar c (withChar a (withChar b (expressionPart? (some (c, true)) closers r')))
        else withChar c (expressionPart? (some (c, false)) closers (a :: b :: r'))
      | r => withChar c (expressionPart? (some (c, false)) closers r)
    else
      match Token.brackets.lookup c with
      | some closer =>
        if Lexer.bracketLimit ≤ closers.length then none
        else withChar c (expressionPart? none (closer :: closers) r)
      | none =>
        match closers with
        | d :: ds =>
          if c = d then withChar c (expressionPart? none ds r)
          else if Lexer.isBracket c then none
          else withChar c (expressionPart? none (d :: ds) r)
        | [] =>
          match r with
          | '=' :: r' =>
            if joinsEquals c then withChar c (withChar '=' (expressionPart? none [] r'))
            else if endsExpression c then some ([], c :: '=' :: r')
            else if Lexer.isBracket c then none
            else withChar c (expressionPart? none [] ('=' :: r'))
          | r =>
            if endsExpression c then some ([], c :: r)
            else if Lexer.isBracket c then none
            else withChar c (expressionPart? none [] r)

/-- ASCII blanks. -/
def isAsciiBlank (c : Char) : Bool := c == ' ' || (9 ≤ c.toNat && c.toNat ≤ 13)

/-- The text behind an equals sign and the blanks that follow it, if one stands here. -/
def afterEquals : Text → Text
  | '=' :: r => r.dropWhile isAsciiBlank
  | t => t

/-- The text behind a conversion, if one stands here. -/
def afterConversion? : Text → Option Text
  | '!' :: c :: r => if c = 's' ∨ c = 'r' ∨ c = 'a' then some r else none
  | ['!'] => none
  | t => some t

/-- How deep formats may be nested. -/
def formatLimit : Nat := 2

/-- The expressions in a formatted literal, reading no more than `left` pieces, and the text from
the brace on that ends a nested format. -/
def fields? (raw : Bool) : (left level : Nat) → Text → Option (List Text × Text)
  | 0, _, _ => none
  | left + 1, level, t => do
    match ← literalPart? raw (level != 0) false [] t with
    | none => return ([], [])
    | some (brace, r) =>
      if brace = '\x7d' then return ([], brace :: r)
      else if formatLimit ≤ level then none
      else
        let (expression, r) ← expressionPart? none [] r
        let r ← afterConversion? (afterEquals r)
        let (inner, r) ←
          match r with
          | ':' :: r => fields? raw left (level + 1) r
          | r => some ([], r)
        match r with
        | c :: r =>
          if c = '\x7d' then
            let (more, rest) ← fields? raw left level r
            return (expression :: inner ++ more, rest)
          else none
        | [] => none

/-- Whether a literal is well-formed, where `accepts` judges the expressions in it. -/
def isWellFormed (accepts : Text → Bool) (l : Literal) : Bool :=
  if l.formatted then
    match fields? l.raw (l.body.length + 1) 0 l.body with
    | some (expressions, _) => expressions.all accepts
    | none => false
  else
    (l.raw || escapesFit l.bytes 0 l.body) && (!l.bytes || l.body.all fun c => c.toNat < 0x80)

end TagLint.Outline.Literal
