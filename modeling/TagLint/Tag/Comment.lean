import TagLint.Text.Basic
/-!
Comment introducers on one line: `//`, `#`, `/*` and `<!--`. A block or HTML comment that is closed
again before the place in question introduces nothing there.
-/

namespace TagLint.Comment

/-- The last place before `index` where an introducer ends in time. -/
def lastBefore (introducer : String) (line : Text) (index : Nat) : Option Nat :=
  Text.findLastBefore? introducer.toList line index

/-- Whether the comment opened at `start` is closed by `closer` before `index`. -/
def closedBefore (opener closer : String) (line : Text) (index : Nat) (start : Option Nat) :
    Bool :=
  match start with
  | none => false
  | some s =>
    match Text.findFrom? closer.toList line (s + opener.length) with
    | none => false
    | some e => e < index

/-- The rightmost of the places given. -/
def rightmost (ps : List (Option Nat)) : Option Nat := (ps.filterMap id).max?

/-- The introducer that governs position `index`: the rightmost one, where a closed block comment
no longer counts, and a closed HTML comment does not count unless a closed block comment has
already been set aside. -/
def start? (line : Text) (index : Nat) : Option Nat :=
  let slashes := lastBefore "//" line index
  let hash := lastBefore "#" line index
  let block := lastBefore "/*" line index
  let html := lastBefore "<!--" line index
  if closedBefore "/*" "*/" line index block then rightmost [slashes, hash, html]
  else if closedBefore "<!--" "-->" line index html then rightmost [slashes, hash, block]
  else rightmost [slashes, hash, block, html]

end TagLint.Comment
