import TagLint.Tag.Comment
import TagLint.Text.Blank
import TagLint.Text.LetterCase
/-!
Tags on one line. A tag is written `@AI:` and a name of capital letters and underscores; the rest of
the line is its payload. A line can hold a tag only if its first `@AI:` stands in a comment.
-/

namespace TagLint

/-- The two kinds of tag that are interpreted. -/
inductive Tag.Kind where
  | expiry
  | sync
deriving DecidableEq, Repr

/-- The kind that a name in any letter case stands for. -/
def Tag.Kind.ofName? (name : Text) : Option Tag.Kind :=
  let n := Text.upper name
  if n = "EXPIRY".toList then some .expiry
  else if n = "SYNC".toList then some .sync
  else none

/-- A tag key on a line, with the half-open range of columns that it covers. -/
structure Tag.Key where
  key : Text
  line : Nat
  start : Nat
  stop : Nat
deriving DecidableEq, Repr

/-- An interpreted tag. It covers the line from its `@` to the end. -/
structure Tag where
  kind : Tag.Kind
  payload : Text
  raw : Text
  line : Nat
  start : Nat
  stop : Nat
deriving DecidableEq, Repr

namespace Tag

/-- What every tag starts with. -/
def marker : Text := "@AI:".toList

/-- The characters of a tag's name. -/
def isNameChar (c : Char) : Bool := ('A' ≤ c && c ≤ 'Z') || c == '_'

/-- ASCII letters, digits and the underscore. -/
def isWordChar (c : Char) : Bool := c.isAlphanum || c == '_'

/-- The part of a text before a final line feed. -/
def withoutFinalBreak (t : Text) : Text :=
  if t.getLast? = some '\n' then t.dropLast else t

/-- The name and the rest of a tag that starts right here: the name is a whole run of name
characters with no word character after it, and the rest holds no line feed but a final one, which
is left out. -/
def headOf? (t : Text) : Option (Text × Text) :=
  if marker.isPrefixOf t then
    let body := t.drop marker.length
    let name := body.takeWhile isNameChar
    let rest := body.dropWhile isNameChar
    let payload := withoutFinalBreak rest
    if name.isEmpty || rest.head?.any isWordChar || payload.contains '\n' then none
    else some (name, payload)
  else none

/-- The first well-formed tag at or after a position: where it starts, its name and its rest. -/
def search? : Text → Option (Nat × Text × Text)
  | [] => none
  | c :: r =>
    match headOf? (c :: r) with
    | some (name, rest) => some (0, name, rest)
    | none => (search? r).map fun (i, h) => (i + 1, h)

/-- The tag of a line as it stands there: where it starts, its name and its rest. The first marker
must stand in a comment; the tag may be a later one if the first is malformed. -/
def locate? (line : Text) : Option (Nat × Text × Text) := do
  let first ← Text.find? marker line
  let _ ← Comment.start? line first
  let (i, name, rest) ← search? (line.drop first)
  return (first + i, name, rest)

/-- The tag key of a line. -/
def key? (line : Text) (number : Nat) : Option Key := do
  let (start, name, _) ← locate? line
  return {
    key := marker ++ name
    line := number
    start
    stop := start + marker.length + name.length }

/-- The interpreted tag of a line; a name that is no kind gives none. The tag is read again from
where its key starts. -/
def ofLine? (line : Text) (number : Nat) : Option Tag := do
  let k ← key? line number
  let (_, name, rest) ← search? (line.drop k.start)
  let kind ← Kind.ofName? name
  let raw := marker ++ name ++ rest
  return {
    kind
    payload := Text.trim rest
    raw
    line := number
    start := k.start
    stop := k.start + raw.length }

end Tag

end TagLint
