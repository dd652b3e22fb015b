import BemNotation.Naming.Case

/-!
Blocks of the block, element, modifier convention. A block has a name, elements
in order and modifiers in order; an element has modifiers of its own. Names are
kept as they are given and put into param case where they are read.
-/

namespace BemNotation

/-- A named part of a block. -/
structure Element where
  name : String
  modifiers : List String := []
  deriving DecidableEq, Repr, Inhabited

def Element.hasModifiers (e : Element) : Bool :=
  !e.modifiers.isEmpty

structure Block where
  name : String
  elements : List Element := []
  modifiers : List String := []
  deriving DecidableEq, Repr, Inhabited

def Block.paramName (b : Block) : String :=
  Naming.paramCase b.name

/-- A name, with its modifiers in square brackets if there are any. -/
def entryChars (name : String) (modifiers : List String) : List Char :=
  if modifiers.isEmpty then name.toList
  else name.toList ++ '[' :: List.intercalate [','] (modifiers.map String.toList) ++ [']']

/-- A line for the block, its name in param case, and a line for each element. -/
def Block.lines (b : Block) : List (List Char) :=
  entryChars b.paramName b.modifiers :: b.elements.map fun e => entryChars e.name e.modifiers

/-- The block in canonical notation. Every line ends with the separator. -/
def Block.render (b : Block) (separator : String) : String :=
  String.ofList (b.lines.flatMap (· ++ separator.toList))

end BemNotation
