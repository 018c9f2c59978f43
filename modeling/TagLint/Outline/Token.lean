import TagLint.Text.Basic
/-!
Tokens of a source text in Python.
-/

namespace TagLint.Outline

/-- A string literal: what its letters in front say, and what stands between its quotation marks. -/
structure Literal where
  bytes : Bool
  raw : Bool
  formatted : Bool
  body : Text
deriving DecidableEq, Repr

/-- What a token is. -/
inductive Token.Kind where
  | name (text : Text)
  /-- A reserved word, an operator or a bracket. -/
  | word (text : Text)
  | number (imaginary : Bool)
  | string (literal : Literal)
  /-- The end of a logical line. -/
  | lineEnd
  | indent
  | dedent
  | textEnd
deriving DecidableEq, Repr

/-- A token with the place where it starts: the line, and the column in bytes of UTF-8. -/
structure Token where
  kind : Token.Kind
  line : Nat
  column : Nat
deriving DecidableEq, Repr

namespace Token

/-- The words that are never names. -/
def reserved : List Text :=
  ["False", "None", "True", "and", "as", "assert", "async", "await", "break", "class", "continue",
    "def", "del", "elif", "else", "except", "finally", "for", "from", "global", "if", "import",
    "in", "is", "lambda", "nonlocal", "not", "or", "pass", "raise", "return", "try", "while",
    "with", "yield"].map String.toList

/-- The operators, the longer ones first. -/
def operators : List Text :=
  ["**=", "//=", "<<=", ">>=", "...", "!=", "%=", "&=", "**", "*=", "+=", "-=", "->", "//", "/=",
    ":=", "<<", "<=", "<>", "==", ">=", ">>", "@=", "^=", "|=", "%", "&", "*", "+", ",", "-", ".",
    "/", ":", ";", "<", "=", ">", "@", "^", "|", "~"].map String.toList

/-- The opening brackets with the closing ones that match them. -/
def brackets : List (Char × Char) := [('(', ')'), ('[', ']'), ('\x7b', '\x7d')]

end Token

end TagLint.Outline
