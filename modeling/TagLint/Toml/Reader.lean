import TagLint.Toml.Scalar
/-!
Reading a settings document. Statements add to a table that is being made: a header opens the table
for the statements after it, a header in double brackets adds a table to an array, and all others
set a key. No part of a table is defined twice, and arrays and tables that are written as values are
closed for good.
-/

namespace TagLint.Toml

/-- A key with the keys of the tables around it, the outermost first. -/
abbrev Key := List Text

/-- An ill-formed document. -/
def bad {α : Type} : Except Failure α := .error .badSettings

/-- A reading that may find nothing, as one that fails. -/
def orBad {α : Type} : Option α → Except Failure α
  | some a => .ok a
  | none => bad

/-! ## Keys -/

/-- Characters of a key without quotation marks. -/
def isBareKeyChar (c : Char) : Bool := c.isAlphanum || c == '-' || c == '_'

/-- One part of a key: a bare word or a string of one line. -/
def keyPart? (t : Text) : Option (Text × Text) :=
  let word := t.takeWhile isBareKeyChar
  if word.isEmpty then lineString? t else some (word, t.dropWhile isBareKeyChar)

/-- A key of parts separated by points, with blanks around them and behind the last one. -/
def key? : (left : Nat) → Text → Option (Key × Text)
  | 0, _ => none
  | left + 1, t => do
    let (part, r) ← keyPart? t
    match skipGaps r with
    | '.' :: r =>
      let (parts, r) ← key? left (skipGaps r)
      return (part :: parts, r)
    | r => return ([part], r)

/-- A key. -/
def readKey (t : Text) : Except Failure (Key × Text) := orBad (key? (t.length + 1) t)

/-! ## Values -/

/-- The text without blanks, line feeds and comments at its front; comments may hold no control
characters. -/
def skipSpace? (inComment : Bool) : Text → Option Text
  | [] => some []
  | c :: r =>
    if c = '\n' then skipSpace? false r
    else if inComment then (if isControl c then none else skipSpace? true r)
    else if isGap c then skipSpace? false r
    else if c = '#' then skipSpace? true r
    else some (c :: r)

/-- Whether a key lies in, or is, one that is closed. -/
def isClosed (closed : List Key) (key : Key) : Bool := closed.any (·.isPrefixOf key)

/-- A table with a value put under a key, unless something stands in the way. -/
def putAt (throughArrays : Bool) (key : Key) (v : Value) (t : Table) : Except Failure Table :=
  match key.getLast? with
  | none => bad
  | some stem => orBad (Table.editAt throughArrays (Table.add? stem v) key.dropLast t)

/-- A single value: a truth value, a date, a time, a number or a string. -/
def scalar (t : Text) : Except Failure (Value × Text) :=
  if "true".toList.isPrefixOf t then .ok (.truth true, t.drop 4)
  else if "false".toList.isPrefixOf t then .ok (.truth false, t.drop 5)
  else
    match date? t with
    | some result => result
    | none =>
      match time? t with
      | some result => .ok result
      | none =>
        match number? t with
        | some result => result
        | none => orBad (special? t)

mutual

/-- A value, with no more than `left` values and members in it. -/
def value : (left : Nat) → Text → Except Failure (Value × Text)
  | 0, _ => bad
  | left + 1, t =>
    match t with
    | '[' :: r => do
      let (items, r) ← members left r
      return (.array items, r)
    | '{' :: r =>
      match skipGaps r with
      | '}' :: r => .ok (.table [], r)
      | r => do
        let (entries, r) ← fields left [] [] r
        return (.table entries, r)
    | '\x22' :: _ => do
      let (s, r) ← orBad (string? t)
      return (.text s, r)
    | '\x27' :: _ => do
      let (s, r) ← orBad (string? t)
      return (.text s, r)
    | _ => scalar t

/-- The members of an array up to its closing bracket; a comma may follow the last one. -/
def members : (left : Nat) → Text → Except Failure (List Value × Text)
  | 0, _ => bad
  | left + 1, t => do
    match ← orBad (skipSpace? false t) with
    | ']' :: r => return ([], r)
    | r =>
      let (v, r) ← value left r
      match ← orBad (skipSpace? false r) with
      | ']' :: r => return ([v], r)
      | ',' :: r =>
        let (vs, r) ← members left r
        return (v :: vs, r)
      | _ => bad

/-- The entries of a table on one line up to its closing brace. -/
def fields : (left : Nat) → (made : Table) → (closed : List Key) → Text →
    Except Failure (Table × Text)
  | 0, _, _, _ => bad
  | left + 1, made, closed, t => do
    let (key, r) ← readKey t
    let r ← orBad (after? '=' r)
    let (v, r) ← value left (skipGaps r)
    if isClosed closed key then bad
    else
      let made ← putAt false key v made
      match skipGaps r with
      | '}' :: r => return (made, r)
      | ',' :: r => fields left made (if v.isContainer then key :: closed else closed) (skipGaps r)
      | _ => bad

end

/-- A value. -/
def readValue (t : Text) : Except Failure (Value × Text) := value (2 * t.length + 2) t

/-! ## Statements -/

/-- A document in the making: the table so far, the keys whose values are closed, the keys that no
header may open again, those that become such with the next header, and the header in force. -/
structure Draft where
  table : Table := []
  closed : List Key := []
  opened : List Key := []
  pending : List Key := []
  header : Key := []

namespace Draft

/-- The draft at a header, where the pending keys become opened ones. -/
def settle (d : Draft) : Draft := { d with opened := d.pending ++ d.opened, pending := [] }

/-- The draft after the header of a table. -/
def openTable (d : Draft) (key : Key) : Except Failure Draft := do
  if d.opened.contains key || isClosed d.closed key then bad
  else
    let table ← orBad (Table.editAt true some key d.table)
    return { d with table, opened := key :: d.opened, header := key }

/-- The draft after the header of one more table of an array. Its keys start afresh. -/
def openArray (d : Draft) (key : Key) : Except Failure Draft := do
  if isClosed d.closed key then bad
  else
    match key.getLast? with
    | none => bad
    | some stem =>
      let table ← orBad (Table.editAt true (Table.addToArray? stem) key.dropLast d.table)
      let outside (k : Key) : Bool := !key.isPrefixOf k
      return { d with
        table
        closed := d.closed.filter outside
        opened := key :: d.opened.filter outside
        header := key }

/-- The proper beginnings of a key, the shortest first. -/
def outerKeys (key : Key) : List Key := (List.range' 1 (key.length - 1)).map fun i => key.take i

/-- The draft after a key is set to a value. -/
def set (d : Draft) (key : Key) (v : Value) : Except Failure Draft := do
  let full := d.header ++ key
  let outer := (outerKeys key).map (d.header ++ ·)
  if outer.any d.opened.contains || isClosed d.closed full.dropLast then bad
  else
    let table ← putAt true full v d.table
    return { d with
      table
      pending := outer ++ d.pending
      closed := if v.isContainer then full :: d.closed else d.closed }

end Draft

/-- The draft after one statement and the text behind it. -/
def statement (d : Draft) (t : Text) : Except Failure (Draft × Text) :=
  match t with
  | '[' :: '[' :: r => do
    let (key, r) ← readKey (skipGaps r)
    let d ← d.settle.openArray key
    let r ← orBad (after? ']' r)
    let r ← orBad (after? ']' r)
    return (d, r)
  | '[' :: r => do
    let (key, r) ← readKey (skipGaps r)
    let d ← d.settle.openTable key
    let r ← orBad (after? ']' r)
    return (d, r)
  | _ => do
    let (key, r) ← readKey t
    let r ← orBad (after? '=' r)
    let (v, r) ← readValue (skipGaps r)
    let d ← d.set key v
    return (d, r)

/-- The text behind a comment, if one stands here. -/
def skipComment (t : Text) : Except Failure Text :=
  match t with
  | '#' :: r =>
    if (r.takeWhile (· != '\n')).any isControl then bad else .ok (r.dropWhile (· != '\n'))
  | _ => .ok t

/-- The draft after all statements of a text of no more than `left` lines. -/
def statements : (left : Nat) → Draft → Text → Except Failure Draft
  | 0, _, _ => bad
  | left + 1, d, t =>
    match skipGaps t with
    | [] => .ok d
    | '\n' :: r => statements left d r
    | c :: r => do
      let (d, rest) ← if c = '#' then pure (d, c :: r) else statement d (c :: r)
      match ← skipComment (skipGaps rest) with
      | [] => return d
      | '\n' :: rest => statements left d rest
      | _ => bad

/-- Every pair of a carriage return and a line feed written as a line feed. -/
def pairedBreaks : Text → Text
  | '\r' :: '\n' :: r => '\n' :: pairedBreaks r
  | c :: r => c :: pairedBreaks r
  | [] => []

/-- The table that a document describes. -/
def read (text : Text) : Except Failure Table := do
  let t := pairedBreaks text
  let d ← statements (t.length + 1) {} t
  return d.table

end TagLint.Toml
