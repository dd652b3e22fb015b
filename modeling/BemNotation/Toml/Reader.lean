import BemNotation.Data.Format
import BemNotation.Toml.Scalar
import BemNotation.Toml.Table

/-!
Configuration documents read from text. A document is a sequence of headers and
assignments, each on a line of its own. Lists and tables in brackets may spread
over several lines and hold comments, and nest up to a fixed depth.
-/

namespace BemNotation.Toml

open Data

def skipGap (inComment : Bool) : List Char → List Char
  | [] => []
  | c :: cs =>
    if endsLine c cs then skipGap (inComment && c != '\n') cs
    else if inComment then if isPlain c then skipGap true cs else c :: cs
    else if isBlank c then skipGap false cs
    else if c = '#' then skipGap true cs
    else c :: cs

def gap (cs : List Char) : List Char :=
  skipGap false cs

def skipBlanks (cs : List Char) : List Char :=
  cs.dropWhile isBlank

/-- What follows the end of a line that may have a comment. -/
def readLineEnd (cs : List Char) : Option (List Char) :=
  let rest :=
    match skipBlanks cs with
    | '#' :: cs => cs.dropWhile isPlain
    | cs => cs
  if rest.isEmpty then some [] else dropLineBreak rest

def readName (cs : List Char) : Option (String × List Char) :=
  match cs.takeWhile isBare with
  | [] => (readShortText cs).map fun (name, rest) => (String.ofList name, rest)
  | name => some (String.ofList name, cs.drop name.length)

/-- Up to so many names, joined by dots, with blanks around them. -/
def readNames : Nat → List Char → Option (List String × List Char)
  | 0, _ => none
  | count + 1, cs => do
    let (name, rest) ← readName (skipBlanks cs)
    match skipBlanks rest with
    | '.' :: rest => do
      let (names, rest) ← readNames count rest
      return (name :: names, rest)
    | rest => return ([name], rest)

def maxNames : Nat := 80

def readKey (cs : List Char) : Option (Key × List Char) := do
  let (names, rest) ← readNames maxNames cs
  match names.reverse with
  | [] => none
  | name :: parents => return (⟨parents.reverse, name⟩, rest)

mutual

/-- A value and what follows it. Lists and tables inside may nest `room` deep. -/
def readValue (room : Nat) : Nat → List Char → Option (Value × List Char)
  | 0, _ => none
  | fuel + 1, cs =>
    match cs with
    | '[' :: rest =>
      if room = 0 then none
      else do
        let (items, rest) ← readItems (room - 1) fuel rest
        return (.list items, rest)
    | '\x7b' :: rest =>
      if room = 0 then none
      else do
        let (assignments, rest) ← readAssignments (room - 1) fuel rest
        return (← inlineTable assignments, rest)
    | '"' :: _ => (readText cs).map fun (text, rest) => (.text (String.ofList text), rest)
    | '\'' :: _ => (readText cs).map fun (text, rest) => (.text (String.ofList text), rest)
    | _ => readScalar cs

/-- The items up to the closing bracket. A comma may follow the last one. -/
def readItems (room : Nat) : Nat → List Char → Option (List Value × List Char)
  | 0, _ => none
  | fuel + 1, cs =>
    match gap cs with
    | ']' :: rest => some ([], rest)
    | cs => do
      let (v, rest) ← readValue room fuel cs
      match gap rest with
      | ',' :: rest =>
        let (items, rest) ← readItems room fuel rest
        return (v :: items, rest)
      | ']' :: rest => return ([v], rest)
      | _ => none

/-- The assignments up to the closing brace. Their keys stand on one line, but the
equals sign need not. A comma may follow the last one. -/
def readAssignments (room : Nat) : Nat → List Char → Option (List (Key × Value) × List Char)
  | 0, _ => none
  | fuel + 1, cs =>
    match gap cs with
    | '\x7d' :: rest => some ([], rest)
    | cs => do
      let (key, rest) ← readKey cs
      let '=' :: rest := gap rest | none
      let (v, rest) ← readValue room fuel (gap rest)
      match gap rest with
      | ',' :: rest =>
        let (assignments, rest) ← readAssignments room fuel rest
        return ((key, v) :: assignments, rest)
      | '\x7d' :: rest => return ([(key, v)], rest)
      | _ => none

end

def maxNesting : Nat := 80

def readStatement (cs : List Char) : Option (Statement × List Char) :=
  match cs with
  | '[' :: '[' :: cs => do
    let (key, rest) ← readKey cs
    let ']' :: ']' :: rest := rest | none
    return (.rowHeader key, rest)
  | '[' :: cs => do
    let (key, rest) ← readKey cs
    let ']' :: rest := rest | none
    return (.header key, rest)
  | cs => do
    let (key, rest) ← readKey cs
    let '=' :: rest := rest | none
    let rest := skipBlanks rest
    let (v, rest) ← readValue maxNesting (rest.length + 1) rest
    return (.assignment key v, rest)

def readStatements : Nat → List Char → Option (List Statement)
  | 0, _ => none
  | fuel + 1, cs =>
    match gap cs with
    | [] => some []
    | cs => do
      let (statement, rest) ← readStatement cs
      let rest ← readLineEnd rest
      return statement :: (← readStatements fuel rest)

/-- The table that a document writes, if it is well formed. A byte order mark in
front does not count. -/
def read? (source : String) : Option (List (String × Value)) := do
  let cs :=
    match source.toList with
    | '\uFEFF' :: cs => cs
    | cs => cs
  documentTable? (← readStatements (cs.length + 1) cs)

/-- What the table of a document is read as. What is wrong with a document is not said. -/
def read {α : Type} (shape : Shape α) (source : String) : Except String α :=
  match (read? source).bind fun table => shape handwritten (.table table) with
  | some a => .ok a
  | none => .error "TOML parse error"

end BemNotation.Toml
