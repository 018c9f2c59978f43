import TagLint.Text.Basic
/-!
Lines of a text. A line ends at CR LF, at a lone CR or at a lone LF and at no other character; a
terminator at the very end opens no further line.
-/

namespace TagLint.Text

/-- The stretches between line terminators; after a terminator there is always one more stretch. -/
def stretches : Text → List Text
  | [] => [[]]
  | '\r' :: '\n' :: r => [] :: stretches r
  | c :: r =>
    if c = '\r' ∨ c = '\n' then [] :: stretches r
    else
      match stretches r with
      | [] => [[c]]
      | p :: ps => (c :: p) :: ps

/-- The lines of a text: its stretches, less an empty last one. -/
def lines (t : Text) : List Text :=
  let ps := stretches t
  if ps.getLast? = some [] then ps.dropLast else ps

/-- Every line terminator written as a single LF. -/
def unifyBreaks : Text → Text
  | [] => []
  | '\r' :: '\n' :: r => '\n' :: unifyBreaks r
  | c :: r => (if c = '\r' then '\n' else c) :: unifyBreaks r

end TagLint.Text
