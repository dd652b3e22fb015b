import BemNotation.Data.Value

/-!
Tables of configuration documents, put together from headers and assignments. A
table is defined once, by its own header or by dotted keys, and neither adds to
what the other has defined. A header also makes the tables around its own. That does not
define them yet: their own header does, or a dotted key that leads through them,
whichever comes first.
-/

namespace BemNotation.Toml

open Data

/-- A dotted key: the names of the tables around it and its own name. -/
structure Key where
  parents : List String
  name : String
  deriving DecidableEq, Repr

/-- How a table came to be. -/
inductive Origin where
  /-- By a header of its own. -/
  | header
  /-- By the header of a table inside it. -/
  | implied
  /-- By a dotted key, or made by a header and then used by a dotted key. -/
  | dotted
  deriving DecidableEq, Repr

/-- An entry of a table that is still being put together. -/
inductive Node where
  /-- A value that nothing can be added to. -/
  | leaf (v : Value)
  | table (origin : Origin) (entries : List (String × Node))
  /-- Tables under one name, each with a header of its own. -/
  | rows (tables : List (List (String × Node)))
  deriving Inhabited

abbrev Entries := List (String × Node)

mutual

def Node.value : Node → Value
  | .leaf v => v
  | .table _ entries => .table (entryValues entries)
  | .rows tables => .list (rowValues tables)

def entryValues : List (String × Node) → List (String × Value)
  | [] => []
  | (name, node) :: rest => (name, node.value) :: entryValues rest

def rowValues : List (List (String × Node)) → List Value
  | [] => []
  | row :: rest => .table (entryValues row) :: rowValues rest

end

/-- Gives a name a new node, in its old place if it has one. -/
def Entries.set (name : String) (node : Node) : Entries → Entries
  | [] => [(name, node)]
  | (key, old) :: rest =>
    if key = name then (key, node) :: rest else (key, old) :: Entries.set name node rest

/-- Changes the table that the names lead to, making the tables on the way that are
missing. Dotted keys do not pass through a table with a header, and nothing passes
through a value. Of several tables under one name the last is meant. -/
def changeAt (origin : Origin) (change : Origin → Entries → Option Entries)
    (here : Origin) (entries : Entries) : List String → Option Entries
  | [] => change here entries
  | name :: names =>
    match entries.lookup name with
    | none => do
      let inner ← changeAt origin change origin [] names
      return Entries.set name (.table origin inner) entries
    | some (.table inside inner) =>
      if origin = .dotted && inside = .header then none
      else do
        let inner ← changeAt origin change inside inner names
        let inside := if origin = .dotted then .dotted else inside
        return Entries.set name (.table inside inner) entries
    | some (.rows tables) =>
      match tables.getLast? with
      | some last => do
        let last ← changeAt origin change .header last names
        return Entries.set name (.rows (tables.dropLast ++ [last])) entries
      | none => none
    | some (.leaf _) => none

def assign (key : Key) (v : Value) (entries : Entries) : Option Entries :=
  let insert (here : Origin) (entries : Entries) : Option Entries :=
    if key.parents ≠ [] && here = .header then none
    else
      match entries.lookup key.name with
      | none => some (Entries.set key.name (.leaf v) entries)
      | some _ => none
  changeAt .dotted insert .header entries key.parents

/-- Assigns the values one after the other, in a table that stands on one line. -/
def inlineTable (assignments : List (Key × Value)) : Option Value := do
  let entries ← assignments.foldlM (fun entries (key, v) => assign key v entries) []
  return .table (entryValues entries)

/-- What a line of a document says. -/
inductive Statement where
  | header (key : Key)
  /-- The header of one more table under the same name. -/
  | rowHeader (key : Key)
  | assignment (key : Key) (v : Value)

/-- A document read so far: its entries and the names that lead to the table of the
last header. -/
structure Document where
  entries : Entries := []
  here : List String := []

def openTable (name : String) (entries : Entries) : Option Entries :=
  match entries.lookup name with
  | none => some (Entries.set name (.table .header []) entries)
  | some (.table .implied inner) => some (Entries.set name (.table .header inner) entries)
  | some _ => none

def openRow (name : String) (entries : Entries) : Option Entries :=
  match entries.lookup name with
  | none => some (Entries.set name (.rows [[]]) entries)
  | some (.rows tables) => some (Entries.set name (.rows (tables ++ [[]])) entries)
  | some _ => none

def Document.add (d : Document) : Statement → Option Document
  | .header key => do
    let entries ← changeAt .implied (fun _ => openTable key.name) .header d.entries key.parents
    return ⟨entries, key.parents ++ [key.name]⟩
  | .rowHeader key => do
    let entries ← changeAt .implied (fun _ => openRow key.name) .header d.entries key.parents
    return ⟨entries, key.parents ++ [key.name]⟩
  | .assignment key v => do
    let entries ← changeAt .implied (fun _ => assign key v) .header d.entries d.here
    return { d with entries := entries }

def documentTable? (statements : List Statement) : Option (List (String × Value)) := do
  let d ← statements.foldlM Document.add {}
  return entryValues d.entries

end BemNotation.Toml
