import BemNotation.Data.Range

/-!
Plain data as documents hold it, and how records are found in it. A record is
written as a table by the names of its parts, or as a list by their order. The
formats differ in three points only, which a convention states.
-/

namespace BemNotation.Data

inductive Value where
  | null
  | bool (b : Bool)
  | integer (n : Int)
  /-- A number with a fraction or an exponent, as it is spelled. -/
  | decimal (spelling : String)
  /-- A word that passes for a whole number and is none. Nothing can be read from it. -/
  | misspelled (word : String)
  /-- A date, a time of day or both, as it is spelled. -/
  | moment (spelling : String)
  | text (s : String)
  | list (items : List Value)
  | table (entries : List (String × Value))
  deriving Repr, Inhabited

mutual

/-- Whether every number in the value is one and can be held. -/
def Value.fits : Value → Bool
  | .integer n => integerFits n
  | .decimal spelling => decimalFits spelling
  | .misspelled _ => false
  | .list items => itemsFit items
  | .table entries => entriesFit entries
  | _ => true

def itemsFit : List Value → Bool
  | [] => true
  | v :: rest => v.fits && itemsFit rest

def entriesFit : List (String × Value) → Bool
  | [] => true
  | (_, v) :: rest => v.fits && entriesFit rest

end

/-- What a format leaves open about records. -/
structure Convention where
  /-- Whether a list may have more items than the record has parts. -/
  spareItems : Bool
  /-- Which values a table may hold under names that are no part of the record. -/
  mayStandBy : Value → Bool
  /-- Which values can stand for having no content. -/
  isEmpty : Value → Bool

/-- Data exchanged between programs: a list has to fit, and only the null value
is without content. -/
def exchanged : Convention where
  spareItems := false
  mayStandBy _ := true
  isEmpty v :=
    match v with
    | .null => true
    | _ => false

/-- Documents written by hand: spare items are not looked at, but every value of a
table is, so its numbers have to fit. There is no null value, so that an empty list
or table takes its place. -/
def handwritten : Convention where
  spareItems := true
  mayStandBy := Value.fits
  isEmpty v :=
    match v with
    | .list [] => true
    | .table [] => true
    | _ => false

/-- The parts of a record, in the order of their names, where they are given. A
moment is a record of its own kind, none of whose parts has a name in use here. -/
def Value.parts? (convention : Convention) (names : List String) :
    Value → Option (List (Option Value))
  | table entries =>
    if entries.all fun (name, v) => names.contains name || convention.mayStandBy v then
      some (names.map fun name => entries.lookup name)
    else none
  | moment _ => some (names.map fun _ => none)
  | list items =>
    if items.length ≤ names.length || convention.spareItems then
      some ((List.range names.length).map fun i => items[i]?)
    else none
  | _ => none

def Value.texts (items : List String) : Value :=
  list (items.map text)

def Value.text? : Value → Option String
  | text s => some s
  | _ => none

def Value.texts? : Value → Option (List String)
  | list items => items.mapM text?
  | _ => none

theorem Value.texts?_texts (items : List String) : (texts items).texts? = some items := by
  change (items.map text).mapM text? = some items
  induction items with
  | nil => rfl
  | cons s items ih =>
    rw [List.map_cons, List.mapM_cons, ih]
    rfl

def Value.items? : Value → Option (List Value)
  | list items => some items
  | _ => none

def Value.entries? : Value → Option (List (String × Value))
  | table entries => some entries
  | _ => none

/-- A part that may be missing, read if it is there. -/
def optional {α : Type} (default : α) (read : Value → Option α) : Option Value → Option α
  | none => some default
  | some v => read v

end BemNotation.Data
