import BemNotation.Source.Span

/-!
Diagnostics, the findings that a rejected source comes back with. Each has a
message, labels on spans of the source, and possibly a code and a hint. Codes
below 100 concern characters, below 200 the order of tokens, and the others the
choice of names.
-/

namespace BemNotation.Source

inductive Code where
  | strayCharacter
  | unexpectedToken
  | unclosedList
  | missingBlockName
  | emptyList
  | repeatedElement
  | repeatedModifier
  | emptyName
  deriving DecidableEq, Repr

namespace Code

def all : List Code :=
  [strayCharacter, unexpectedToken, unclosedList, missingBlockName, emptyList,
    repeatedElement, repeatedModifier, emptyName]

def text : Code → String
  | strayCharacter => "E001"
  | unexpectedToken => "E100"
  | unclosedList => "E101"
  | missingBlockName => "E102"
  | emptyList => "E103"
  | repeatedElement => "E200"
  | repeatedModifier => "E201"
  | emptyName => "E202"

def ofText? (s : String) : Option Code :=
  all.find? (·.text == s)

def description : Code → String
  | strayCharacter => "unexpected character"
  | unexpectedToken => "unexpected token"
  | unclosedList => "incomplete input"
  | missingBlockName => "missing block name"
  | emptyList => "empty modifier list"
  | repeatedElement => "duplicate element"
  | repeatedModifier => "duplicate modifier"
  | emptyName => "empty name"

theorem ofText?_text (c : Code) : ofText? c.text = some c := by
  cases c <;> decide

end Code

/-- A remark on a span of the source. The primary one marks the mistake, the
others point at what it clashes with. -/
structure Label where
  span : Span
  message : String
  primary : Bool := true
  deriving DecidableEq, Repr

structure Diagnostic where
  code : Option Code := none
  message : String
  labels : List Label := []
  help : Option String := none
  deriving DecidableEq, Repr

def Diagnostic.headline (d : Diagnostic) : String :=
  match d.code with
  | some code => "error[" ++ code.text ++ "]: " ++ d.message
  | none => "error: " ++ d.message

/-- The first of several diagnostics and the number of the others. -/
def summary : List Diagnostic → String
  | [] => ""
  | [d] => d.headline
  | d :: ds => d.headline ++ " (+" ++ toString ds.length ++ " more)"

end BemNotation.Source
