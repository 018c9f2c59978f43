import TagLint.Failure
/-!
Symbols of a file as a tree, and the search for a symbol by a dotted name such as `Outer.inner`.
-/

namespace TagLint

/-- A symbol with its place, counted from zero, and the symbols inside it. -/
inductive Symbol where
  | mk (name : Text) (line column : Nat) (children : List Symbol)
deriving Repr

namespace Symbol

/-- The name of a symbol. -/
def name : Symbol → Text
  | mk n _ _ _ => n

/-- The line of a symbol. -/
def line : Symbol → Nat
  | mk _ l _ _ => l

/-- The column of a symbol. -/
def column : Symbol → Nat
  | mk _ _ c _ => c

/-- The symbols inside a symbol. -/
def children : Symbol → List Symbol
  | mk _ _ _ cs => cs

/-- Follows names through the tree, at each level to the first symbol with the name. -/
def find? : List Text → List Symbol → Option Symbol
  | [], _ => none
  | [n], symbols => symbols.find? (·.name == n)
  | n :: m :: ns, symbols =>
    match symbols.find? (·.name == n) with
    | none => none
    | some s => find? (m :: ns) s.children

/-- Why a symbol is not found. -/
inductive Absence where
  | noOutline
  | noSymbols
  | unknown (dotted : Text)
deriving DecidableEq, Repr

/-- The wording of an absence. -/
def Absence.reason : Absence → Text
  | noOutline => "failed to execute symbol provider".toList
  | noSymbols => "no symbols found in file".toList
  | unknown dotted => "symbol not found: ".toList ++ dotted

/-- The names of a dotted name. -/
def names (dotted : Text) : List Text := Text.splitAtEach (· == '.') dotted

/-- The symbol with a dotted name in the outline of a file, if that could be made. -/
def locate (outline : Except Failure (List Symbol)) (dotted : Text) : Except Absence Symbol :=
  match outline with
  | .error _ => .error .noOutline
  | .ok symbols =>
    if symbols.isEmpty then .error .noSymbols
    else
      match find? (names dotted) symbols with
      | some s => .ok s
      | none => .error (.unknown dotted)

end Symbol

end TagLint
