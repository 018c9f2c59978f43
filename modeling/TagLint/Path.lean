import TagLint.Text.Basic
/-!
Paths as text, with `/` between segments. A path is absolute when it starts with `/`; exactly two
slashes in front are a root of their own, more than two are the same as one. The work is done on
the list of segments: an empty segment and `.` stay where they are, `..` goes one segment up.
-/

namespace TagLint.Path

/-- The segment that stays. -/
def here : Text := ['.']

/-- The segment that goes up. -/
def up : Text := ['.', '.']

/-- Whether the path starts at the root. -/
def isAbsolute (p : Text) : Bool := p.head? == some '/'

/-- The pieces between slashes, empty ones included. -/
def segments (p : Text) : List Text := Text.splitAtEach (· == '/') p

/-- The segments that name something: all but the empty ones. -/
def components (p : Text) : List Text := (segments p).filter (fun s => !s.isEmpty)

/-- How many leading slashes the path keeps when it is normalised. -/
def rootSlashes : Text → Nat
  | '/' :: '/' :: '/' :: _ => 1
  | '/' :: '/' :: _ => 2
  | '/' :: _ => 1
  | _ => 0

/-- One step of the lexical walk; the stack holds the way so far, innermost first. At the root
there is no way up; a relative path keeps the `..` that it cannot undo. -/
def step (absolute : Bool) (stack : List Text) (s : Text) : List Text :=
  if s = [] ∨ s = here then stack
  else if s = up then
    match stack with
    | [] => if absolute then [] else [up]
    | top :: rest => if top = up then up :: stack else rest
  else s :: stack

/-- Where the walk along the segments ends. -/
def walk (absolute : Bool) (ss : List Text) : List Text := (ss.foldl (step absolute) []).reverse

/-- The text of a path with so many slashes in front; the empty path is written `.`. -/
def render (slashes : Nat) (ss : List Text) : Text :=
  let t := List.replicate slashes '/' ++ Text.joinWith ['/'] ss
  if t.isEmpty then here else t

/-- The path without `.`, without repeated or trailing slashes, and with `..` resolved as text. -/
def normalize (p : Text) : Text :=
  let slashes := rootSlashes p
  render slashes (walk (slashes != 0) (segments p))

/-- `b` seen from the folder `a`; an absolute `b` stands for itself. -/
def join (a b : Text) : Text :=
  if isAbsolute b then b
  else if a.isEmpty || a.getLast? == some '/' then a ++ b
  else a ++ ['/'] ++ b

/-- The normalised absolute path that `p` means in the folder `cwd`. -/
def absolute (cwd p : Text) : Text := normalize (if isAbsolute p then p else join cwd p)

/-- The path without its last segment and the slashes before it; a root keeps its slashes. -/
def parent (p : Text) : Text :=
  let head := (p.reverse.dropWhile (· != '/')).reverse
  if head.all (· == '/') then head else (head.reverse.dropWhile (· == '/')).reverse

/-- The longest common beginning of two lists. -/
def commonStart : List Text → List Text → List Text
  | a :: as, b :: bs => if a = b then a :: commonStart as bs else []
  | _, _ => []

/-- The way from `start` to `target`, both read in the folder `cwd`; an empty target has none. -/
def relative? (cwd target start : Text) : Option Text :=
  if target.isEmpty then none
  else
    let from' := components (absolute cwd start)
    let to' := components (absolute cwd target)
    let shared := (commonStart from' to').length
    some (render 0 (List.replicate (from'.length - shared) up ++ to'.drop shared))

/-- The innermost absolute path above both, or equal to one of them; both are absolute. -/
def common (p q : Text) : Text :=
  let named (r : Text) := (components r).filter (· != here)
  '/' :: Text.joinWith ['/'] (commonStart (named p) (named q))

/-- The file extension with its dot: what follows the last dot of the last segment, unless only
dots stand before it. -/
def extension (p : Text) : Text :=
  let name := (p.reverse.takeWhile (· != '/')).reverse
  let stem := name.dropWhile (· == '.')
  match Text.findLast? ['.'] stem with
  | some i => stem.drop i
  | none => []

theorem commonStart_sublist_left (as bs : List Text) : (commonStart as bs).IsPrefix as := by
  induction as generalizing bs with
  | nil => simp [commonStart]
  | cons a as ih =>
    cases bs with
    | nil => simp [commonStart]
    | cons b bs =>
      rw [commonStart]
      split
      · exact List.cons_prefix_cons.2 ⟨rfl, ih bs⟩
      · simp

end TagLint.Path
