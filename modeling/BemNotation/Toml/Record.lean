import BemNotation.Toml.Table
import BemNotation.Toml.Text

/-!
Records as statements of a configuration document. The plain values of a record come
first, for an assignment after a header would belong to the table of that header. Then
each list of tables has a header for every table.
-/

namespace BemNotation.Toml

open Data

def isBareName (name : String) : Bool :=
  !name.toList.isEmpty && name.toList.all isBare

/-- Values that need no header of their own: texts and lists of texts. -/
def isPlainValue : Value → Bool
  | .text _ => true
  | .list items => items.all (·.text?.isSome)
  | _ => false

theorem isPlainValue_text (s : String) : isPlainValue (.text s) = true := rfl

theorem isPlainValue_texts (items : List String) : isPlainValue (.texts items) = true := by
  simp [isPlainValue, Value.texts, Value.text?]

def distinctNames : List (String × Value) → Bool
  | [] => true
  | (name, _) :: rest => rest.all (·.1 != name) && distinctNames rest

def isFlat (entries : List (String × Value)) : Bool :=
  distinctNames entries && entries.all fun entry => isBareName entry.1 && isPlainValue entry.2

def isTableList : Value → Bool
  | .list items => items.all (·.entries?.any isFlat)
  | _ => false

/-- Whether a table is a record of plain values and of lists of flat tables. -/
def isRecord (entries : List (String × Value)) : Bool :=
  distinctNames entries &&
    entries.all fun entry =>
      isBareName entry.1 && (isPlainValue entry.2 || isTableList entry.2)

def rows : Value → List (List (String × Value))
  | .list items => items.filterMap Value.entries?
  | _ => []

theorem rows_text (s : String) : rows (.text s) = [] := rfl

theorem rows_texts (items : List String) : rows (.texts items) = [] := by
  simp [rows, Value.texts, Value.entries?]

/-- The entries of a record that stand in front of its first header. -/
def plainEntries (entries : List (String × Value)) : List (String × Value) :=
  entries.filter fun entry => isPlainValue entry.2

def assignments (entries : List (String × Value)) : List Statement :=
  entries.map fun entry => .assignment ⟨[], entry.1⟩ entry.2

def rowStatements (name : String) (row : List (String × Value)) : List Statement :=
  .rowHeader ⟨[], name⟩ :: assignments row

def tableStatements (entry : String × Value) : List Statement :=
  (rows entry.2).flatMap (rowStatements entry.1)

/-- The statements that a record is written as. -/
def recordStatements (entries : List (String × Value)) : List Statement :=
  assignments (plainEntries entries) ++ entries.flatMap tableStatements

end BemNotation.Toml
