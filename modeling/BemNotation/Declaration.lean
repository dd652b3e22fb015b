import BemNotation.Block
import BemNotation.Declaration.Field

/-!
The type that lists every legal use of a block. It is a record with the name of
the block, its elements with the modifiers each may have, and its own modifiers.
All names are in param case, in the order of the block.
-/

namespace BemNotation

open Naming (paramCase pascalCase)

structure Declaration where
  exported : Bool
  identifier : String
  fields : Fields
  deriving Repr

/-- The modifiers to choose from, or the type `empty` if there are none. -/
def modifierType (modifiers : List String) (empty : FieldType) : FieldType :=
  .oneOfOr (modifiers.map paramCase) empty

/-- The elements by name. Of several elements with one name the last one counts. -/
def elementFields (elements : List Element) : Fields :=
  .ofList (elements.map fun e => (paramCase e.name, modifierType e.modifiers .undefined))

def Block.declaration (b : Block) : Declaration where
  exported := true
  identifier := pascalCase (b.paramName ++ "Block")
  fields := .ofList [
    ("name", .oneOfOr [b.paramName] .never),
    ("elements", .record (elementFields b.elements)),
    ("modifiers", modifierType b.modifiers .never)]

end BemNotation
