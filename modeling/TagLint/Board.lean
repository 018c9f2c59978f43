import TagLint.ByPath
import TagLint.Finding
/-!
The board: the latest findings of each document, by its path.
-/

namespace TagLint

/-- The latest findings of each document that has been scanned. -/
structure Board where
  entries : ByPath (List Finding) := []
deriving Repr

namespace Board

/-- The findings of a path, if it has an entry. -/
def find? (b : Board) (path : Text) : Option (List Finding) := ByPath.find? b.entries path

/-- The findings of a path, none without an entry. -/
def get (b : Board) (path : Text) : List Finding := (b.find? path).getD []

/-- The board without the entry of a path. -/
def clear (b : Board) (path : Text) : Board := { entries := ByPath.erase b.entries path }

/-- The board with a new entry for a path in place of its old one. -/
def set (b : Board) (path : Text) (findings : List Finding) : Board :=
  { entries := ByPath.put b.entries path findings }

@[simp] theorem find?_clear_self (b : Board) (p : Text) : (b.clear p).find? p = none :=
  ByPath.find?_erase_self b.entries p

theorem find?_clear_other (b : Board) {p q : Text} (h : q ≠ p) :
    (b.clear p).find? q = b.find? q :=
  ByPath.find?_erase_other b.entries h

@[simp] theorem find?_set_self (b : Board) (p : Text) (fs : List Finding) :
    (b.set p fs).find? p = some fs :=
  ByPath.find?_put_self b.entries p fs

theorem find?_set_other (b : Board) {p q : Text} (h : q ≠ p) (fs : List Finding) :
    (b.set p fs).find? q = b.find? q :=
  ByPath.find?_put_other b.entries h fs

end Board

end TagLint
