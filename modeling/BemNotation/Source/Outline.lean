import BemNotation.Block
import BemNotation.Source.Span

/-!
The outline of a block as it stands in the source: the line of the block and the
lines of its elements, every name with its span.
-/

namespace BemNotation.Source

/-- A line of the source: a name and the modifiers listed after it. -/
structure Entry where
  name : Located String
  modifiers : List (Located String)
  deriving DecidableEq, Repr

structure Outline where
  block : Entry
  elements : List Entry
  deriving DecidableEq, Repr

def Entry.span (e : Entry) : Span :=
  e.name.span.coverAll (e.modifiers.map (·.span))

def Outline.span (o : Outline) : Span :=
  o.block.span.coverAll (o.elements.map Entry.span)

def Entry.modifierNames (e : Entry) : List String :=
  e.modifiers.map (·.value)

/-- The block that the outline describes, every name as it is spelled. -/
def Outline.toBlock (o : Outline) : Block where
  name := o.block.name.value
  elements := o.elements.map fun e => ⟨e.name.value, e.modifierNames⟩
  modifiers := o.block.modifierNames

end BemNotation.Source
