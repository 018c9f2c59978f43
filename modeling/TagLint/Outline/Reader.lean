import TagLint.Outline.Grammar
import TagLint.Outline.Literal
import TagLint.Outline.Symbol
/-!
The outline of a file: the classes and functions of a source text in Python, each with those
directly in its body. What stands inside other statements is left out. How deep a source text may be
nested is up to its brackets and blocks, which are counted, not to the stack of a parser.
-/

namespace TagLint.Outline

/-- Whether strings that follow each other directly are all of bytes or all of text. -/
def stringsAgree : List Token → Bool
  | a :: b :: ts =>
    (match a.kind, b.kind with
      | .string l, .string m => l.bytes == m.bytes
      | _, _ => true) && stringsAgree (b :: ts)
  | _ => true

/-- Whether all string literals among tokens are well-formed. -/
def literalsFit (accepts : Text → Bool) (tokens : List Token) : Bool :=
  stringsAgree tokens && tokens.all fun t =>
    match t.kind with
    | .string l => l.isWellFormed accepts
    | _ => true

/-- Whether a text has something but blanks in it. -/
def isInhabited (t : Text) : Bool :=
  t.any fun c => !(c == ' ' || c == '\t' || c == '\n' || c == '\x0c')

/-- The items of a source text by a rule. Formatted strings are looked into no more than `depth`
times, one inside the other. -/
def itemsAt? : (depth : Nat) → Rule → Text → Option (List Item)
  | 0, _, _ => none
  | depth + 1, start, source => do
    let tokens ← Lexer.tokens? source
    let accepts (e : Text) : Bool :=
      isInhabited e && (itemsAt? depth .embedded (['('] ++ e ++ [')'])).isSome
    if literalsFit accepts tokens then Peg.parse? Rule.form start tokens else none

/-- The items of a source text, if it is well-formed. Expressions in a string are shorter than the
text. -/
def items? (source : Text) : Option (List Item) := itemsAt? (source.length + 1) .file source

/-- The word that is looked for in front of a name. -/
def Item.Kind.keyword : Item.Kind → Text
  | .classItem => "class".toList
  | _ => "def".toList

/-- The column of a name in its line: behind the first keyword from a column on. A name that is not
found there is shown at that column. -/
def nameColumn (lines : List Text) (kind : Item.Kind) (line column : Nat) (name : Text) : Nat :=
  let found? : Option Nat := do
    let text ← lines[line]?
    let keyword ← Text.findFrom? kind.keyword text column
    Text.findFrom? name text (keyword + kind.keyword.length)
  found?.getD column

mutual

/-- The symbol of an item in a text with these lines. -/
def Item.symbol (lines : List Text) : Item → Symbol
  | .mk kind line column name inner =>
    .mk name line (nameColumn lines kind line column name) (symbolsOf lines inner)

/-- The symbols of items in a text with these lines. -/
def symbolsOf (lines : List Text) : List Item → List Symbol
  | [] => []
  | i :: is => i.symbol lines :: symbolsOf lines is

end

/-- The file names that have an outline. -/
def isOutlined (path : Text) : Bool :=
  Text.endsWith path ".py".toList || Text.endsWith path ".pyi".toList

/-- The outline of a source text. -/
def ofSource (source : Text) : Except Failure (List Symbol) :=
  if source.contains '\x00' then .error .nulInSource
  else
    match items? source with
    | some items => .ok (symbolsOf (Text.lines source) items)
    | none => .error .badSource

/-- The outline of a file; a file of another kind has no symbols and is not read. -/
def ofFile (files : Storage.FileSystem) (path : Text) : Except Failure (List Symbol) :=
  if isOutlined path then
    match files.read path with
    | .ok source => ofSource source
    | .error fault => .error (.storage fault)
  else .ok []

end TagLint.Outline
