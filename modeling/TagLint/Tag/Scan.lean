import TagLint.Tag.Fence
import TagLint.Tag.Key
/-!
The tags of a document, at most one for each line. In Markdown the lines inside code fences are
left out.
-/

namespace TagLint.Document

/-- The tags of consecutive lines, the first of which has the given number. -/
def tagsFrom (number : Nat) : List Text → List Tag
  | [] => []
  | l :: ls => (Tag.ofLine? l number).toList ++ tagsFrom (number + 1) ls

/-- The tags of all lines, fenced or not. -/
def allTags (d : Document) : List Tag := tagsFrom 0 d.lines

/-- Whether a line lies inside a code fence of a Markdown document. -/
def isFenced (d : Document) (line : Nat) : Bool :=
  d.isMarkdown && ((Fence.mask d.lines)[line]?).getD false

/-- The tags of a document outside its code fences. -/
def tags (d : Document) : List Tag :=
  if d.isMarkdown then
    let mask := Fence.mask d.lines
    d.allTags.filter fun t => !(mask[t.line]?).getD false
  else d.allTags

end TagLint.Document
