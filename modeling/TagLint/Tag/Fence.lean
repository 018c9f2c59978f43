import TagLint.Text.Blank
import TagLint.Document
/-!
Code fences of Markdown. A fence line starts, after blanks, with at least three backticks or three
tildes. A fence opens a block that runs to the next fence line of the same character, or to the
end of the document; the lines strictly inside are masked.
-/

namespace TagLint.Fence

/-- The character that a fence is made of. -/
inductive Mark where
  | backtick
  | tilde
deriving DecidableEq, Repr

/-- The character itself. -/
def Mark.char : Mark → Char
  | .backtick => '\x60'
  | .tilde => '~'

/-- The fence that a line is, if it is one. -/
def ofLine? (line : Text) : Option Mark :=
  let body := Text.trimLeft line
  if (List.replicate 3 Mark.backtick.char).isPrefixOf body then some .backtick
  else if (List.replicate 3 Mark.tilde.char).isPrefixOf body then some .tilde
  else none

/-- The block that is open after a line, given the block that was open before it. -/
def next (opened : Option Mark) (line : Text) : Option Mark :=
  match ofLine? line, opened with
  | some m, none => some m
  | some m, some o => if m = o then none else some o
  | none, o => o

/-- Whether a line is masked: a block was open before it and is still open after it. -/
def masked (opened : Option Mark) (line : Text) : Bool :=
  opened.isSome && (next opened line).isSome

/-- The mask of the lines that follow when `opened` is the open block. -/
def maskFrom (opened : Option Mark) : List Text → List Bool
  | [] => []
  | l :: ls => masked opened l :: maskFrom (next opened l) ls

/-- One entry for each line: whether it lies strictly inside a fenced block. -/
def mask (lines : List Text) : List Bool := maskFrom none lines

@[simp] theorem length_maskFrom (o : Option Mark) (ls : List Text) :
    (maskFrom o ls).length = ls.length := by
  induction ls generalizing o with
  | nil => rfl
  | cons l ls ih => simp [maskFrom, ih]

@[simp] theorem length_mask (ls : List Text) : (mask ls).length = ls.length :=
  length_maskFrom none ls

end TagLint.Fence
