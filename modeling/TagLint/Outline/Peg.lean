import TagLint.Outline.Token
import TagLint.Text.CompatibilityForm
import Std.Data.HashMap
/-!
Parsing expressions over tokens, with ordered choice and greedy repetition. A grammar gives each
rule its expression. What a parse yields is not a whole tree but the items marked in the grammar:
their first token, their name and the items inside.
-/

namespace TagLint.Outline

/-- The kinds of item. -/
inductive Item.Kind where
  | classItem
  | function
  | asyncFunction
deriving DecidableEq, Repr

/-- An item: where its first token stands, the line and the column in bytes, its name in the
compatibility form, and the items directly inside. -/
inductive Item where
  | mk (kind : Item.Kind) (line column : Nat) (name : Text) (inner : List Item)
deriving Repr

/-- How many tokens stand before the name of an item. -/
def Item.Kind.headLength : Item.Kind → Nat
  | .classItem => 1
  | .function => 1
  | .asyncFunction => 2

/-- The tokens that an expression can ask for. -/
inductive Terminal where
  | name
  /-- A name that is written in this way. -/
  | spelled (text : Text)
  | word (text : Text)
  | number
  | realNumber
  | imaginaryNumber
  | string
  | lineEnd
  | indent
  | dedent
  | textEnd
deriving DecidableEq, Repr

/-- Whether a token is the one asked for. -/
def Terminal.accepts : Terminal → Token.Kind → Bool
  | .name, .name _ => true
  | .spelled t, .name u => t == u
  | .word t, .word u => t == u
  | .number, .number _ => true
  | .realNumber, .number imaginary => !imaginary
  | .imaginaryNumber, .number imaginary => imaginary
  | .string, .string _ => true
  | .lineEnd, .lineEnd => true
  | .indent, .indent => true
  | .dedent, .dedent => true
  | .textEnd, .textEnd => true
  | _, _ => false

/-- A parsing expression over the rules `ρ`. -/
inductive Peg (ρ : Type) where
  | empty
  | token (t : Terminal)
  | rule (r : ρ)
  | both (p q : Peg ρ)
  | either (p q : Peg ρ)
  | many (p : Peg ρ)
  /-- Succeeds where `p` does, but takes no token. -/
  | ahead (p : Peg ρ)
  /-- Succeeds where `p` does not, and takes no token. -/
  | absent (p : Peg ρ)
  /-- What `p` matches is an item, and the items in it are inside that one. -/
  | item (kind : Item.Kind) (p : Peg ρ)
  /-- Yields none of the items in `p`. -/
  | hidden (p : Peg ρ)

namespace Peg

variable {ρ : Type}

/-- One after the other. -/
def inOrder : List (Peg ρ) → Peg ρ
  | [] => .empty
  | [p] => p
  | p :: ps => .both p (inOrder ps)

/-- The first one that matches. -/
def firstOf : List (Peg ρ) → Peg ρ
  | [] => .absent .empty
  | [p] => p
  | p :: ps => .either p (firstOf ps)

/-- One or none. -/
def optional (p : Peg ρ) : Peg ρ := .either p .empty

/-- One or more. -/
def oneOrMore (p : Peg ρ) : Peg ρ := .both p (.many p)

/-- One or more, with `s` between them. -/
def separated (p s : Peg ρ) : Peg ρ := .both p (.many (.both s p))

/-- Where a match ends and which items it yields. -/
abbrev Match := Nat × List Item

/-- The results of rules at positions. -/
abbrev Memo (ρ : Type) [BEq ρ] [Hashable ρ] := Std.HashMap (ρ × Nat) (Option Match)

/-- The item that starts at a token. -/
def itemAt? (tokens : Array Token) (start : Nat) (kind : Item.Kind) (inner : List Item) :
    Option Item := do
  let first ← tokens[start]?
  let head ← tokens[start + kind.headLength]?
  match head.kind with
  | .name t => some (.mk kind first.line first.column (Text.compatibilityForm t) inner)
  | _ => none

/-- Matches an expression at a position, with a memory of the results of rules, going down no more
than `depth` steps. -/
def run [BEq ρ] [Hashable ρ] (grammar : ρ → Peg ρ) (tokens : Array Token) :
    (depth : Nat) → Peg ρ → Nat → StateM (Memo ρ) (Option Match)
  | 0, _, _ => pure none
  | depth + 1, p, i =>
    let go := run grammar tokens depth
    match p with
    | .empty => pure (some (i, []))
    | .token t =>
      pure <| match tokens[i]? with
        | some tok => if t.accepts tok.kind then some (i + 1, []) else none
        | none => none
    | .rule r => do
      match (← get)[(r, i)]? with
      | some result => pure result
      | none =>
        let result ← go (grammar r) i
        modify (·.insert (r, i) result)
        pure result
    | .both p q => do
      match ← go p i with
      | none => pure none
      | some (j, xs) =>
        match ← go q j with
        | none => pure none
        | some (k, ys) => pure (some (k, xs ++ ys))
    | .either p q => do
      match ← go p i with
      | some m => pure (some m)
      | none => go q i
    | .many p => do
      match ← go p i with
      | none => pure (some (i, []))
      | some (j, xs) =>
        if j ≤ i then pure (some (i, []))
        else
          match ← go (.many p) j with
          | none => pure none
          | some (k, ys) => pure (some (k, xs ++ ys))
    | .ahead p => do
      match ← go p i with
      | some _ => pure (some (i, []))
      | none => pure none
    | .absent p => do
      match ← go p i with
      | some _ => pure none
      | none => pure (some (i, []))
    | .item kind p => do
      match ← go p i with
      | none => pure none
      | some (j, inner) => pure ((itemAt? tokens i kind inner).map fun x => (j, [x]))
    | .hidden p => do
      match ← go p i with
      | none => pure none
      | some (j, _) => pure (some (j, []))

/-- The items that a rule yields on a list of tokens from the first one on. The depth is enough for
any grammar that needs no more than a thousand steps to take a token. -/
def parse? [BEq ρ] [Hashable ρ] (grammar : ρ → Peg ρ) (start : ρ) (tokens : List Token) :
    Option (List Item) :=
  let found := (run grammar tokens.toArray (1000 * (tokens.length + 1)) (.rule start) 0).run {}
  found.run.1.map (·.2)

end Peg

end TagLint.Outline
