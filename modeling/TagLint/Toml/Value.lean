import TagLint.Number.Binary64
import TagLint.Text.Basic
/-!
The values of a settings document: text, numbers, truth values, points in time, arrays and tables.
A table keeps its entries in the order in which they were made.
-/

namespace TagLint.Toml

/-- A value. A date or a time is kept as it is written; nothing is done with it. -/
inductive Value where
  | text (t : Text)
  | integer (n : Int)
  | real (x : Binary64)
  | truth (b : Bool)
  | moment (written : Text)
  | array (items : List Value)
  | table (entries : List (Text × Value))
deriving Repr

/-- The entries of a table, in order; each key stands once. -/
abbrev Table := List (Text × Value)

namespace Value

/-- The entries, if the value is a table. -/
def table? : Value → Option Table
  | table es => some es
  | _ => none

/-- The truth value, if the value is one. -/
def truth? : Value → Option Bool
  | truth b => some b
  | _ => none

/-- Whether the value is an array or a table. -/
def isContainer : Value → Bool
  | array _ => true
  | table _ => true
  | _ => false

end Value

namespace Table

/-- The table with the value of an existing key replaced. -/
def replace (k : Text) (v : Value) : Table → Table
  | [] => []
  | (k', v') :: es => if k' = k then (k, v) :: es else (k', v') :: replace k v es

/-- Applies `edit` to the table behind a path of keys, making the tables that are missing on the
way. With `throughArrays`, an array on the way stands for its last member. There is none if a key
leads to something else. -/
def editAt (throughArrays : Bool) (edit : Table → Option Table) :
    List Text → Table → Option Table
  | [], t => edit t
  | k :: ks, t =>
    match t.lookup k with
    | none => (editAt throughArrays edit ks []).map fun s => t ++ [(k, .table s)]
    | some (.table s) =>
      (editAt throughArrays edit ks s).map fun s' => replace k (.table s') t
    | some (.array items) =>
      match throughArrays, items.getLast? with
      | true, some (.table s) =>
        (editAt throughArrays edit ks s).map fun s' =>
          replace k (.array (items.dropLast ++ [.table s'])) t
      | _, _ => none
    | some _ => none

/-- The table with a new entry, unless it has the key. -/
def add? (k : Text) (v : Value) (t : Table) : Option Table :=
  if (t.lookup k).isSome then none else some (t ++ [(k, v)])

/-- The table in which the array behind a key has one more, empty table. -/
def addToArray? (k : Text) (t : Table) : Option Table :=
  match t.lookup k with
  | none => some (t ++ [(k, .array [.table []])])
  | some (.array items) => some (replace k (.array (items ++ [.table []])) t)
  | some _ => none

end Table

end TagLint.Toml
