import BemNotation.Block
import BemNotation.Data.Format
import BemNotation.Layout

/-!
Blocks as plain data, and blocks and layouts read from it. Parts that are unknown are
passed over and parts that are missing have defaults, except for names. No value is
taken for one of another kind.
-/

namespace BemNotation

open Data

def Element.toValue (e : Element) : Value :=
  .table [("name", .text e.name), ("modifiers", .texts e.modifiers)]

/-- The fields of a block as data, in their order. -/
def Block.record (b : Block) : List (String × Value) :=
  [("name", .text b.name), ("elements", .list (b.elements.map Element.toValue)),
    ("modifiers", .texts b.modifiers)]

def Block.toValue (b : Block) : Value :=
  .table b.record

def Element.ofValue? : Shape Element := fun convention v =>
  match v.parts? convention ["name", "modifiers"] with
  | some [some name, modifiers] => do
    return ⟨← name.text?, ← optional [] Value.texts? modifiers⟩
  | _ => none

def Block.ofValue? : Shape Block := fun convention v =>
  match v.parts? convention ["name", "elements", "modifiers"] with
  | some [some name, elements, modifiers] => do
    let items ← optional [] Value.items? elements
    return ⟨← name.text?, ← items.mapM (Element.ofValue? convention),
      ← optional [] Value.texts? modifiers⟩
  | _ => none

/-- A separator by its name, or by a table with the name and no content. -/
def LineBreak.ofValue? : Shape LineBreak := fun convention v =>
  match v with
  | .text s => ofName? s
  | .table [(name, content)] => if convention.isEmpty content then ofName? name else none
  | _ => none

private def flag? : Value → Option Bool
  | .bool b => some b
  | _ => none

/-- A count as large as a word of 64 bits holds. -/
private def count? : Value → Option Nat
  | .integer n => if 0 ≤ n ∧ n < Nat.pow 2 64 then some n.toNat else none
  | _ => none

def Layout.ofValue? : Shape Layout := fun convention v =>
  match v.parts? convention ["line_break", "semicolons", "indent"] with
  | some [lineBreak, semicolons, indent] => do
    let default : Layout := {}
    return ⟨← optional default.lineBreak (LineBreak.ofValue? convention) lineBreak,
      ← optional default.semicolons flag? semicolons,
      ← optional default.indent count? indent⟩
  | _ => none

def Layout.ofDocument? : Shape Layout := fun convention document =>
  match document.parts? convention ["output"] with
  | some [output] => optional {} (Layout.ofValue? convention) output
  | _ => none

end BemNotation
