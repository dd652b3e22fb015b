import BemNotation.Declaration
import BemNotation.Journal
import BemNotation.Source.Reading

/-!
What a session with one source leaves in the journal: how far its reading came,
which names were refused, and what was generated from the block.
-/

namespace BemNotation.Session

open Source Text

def program : String := "bemtype"

def reader : String := "bemtype_parser"

def checker : String := "bemtype_parser::validate"

def declarer : String := "bemtype_core::declaration"

private def braced (name : String) (fields : List (String × String)) : String :=
  name ++ " \x7b " ++ ", ".intercalate (fields.map fun (key, value) => key ++ ": " ++ value) ++
    " \x7d"

def spanText (s : Span) : String :=
  braced "Span" [("start", toString s.start), ("end", toString s.stop)]

def elementText (e : Element) : String :=
  braced "Element" [("name", quoted e.name), ("modifiers", listed (e.modifiers.map quoted))]

def blockText (b : Block) : String :=
  braced "BemModel" [("name", quoted b.name), ("elements", listed (b.elements.map elementText)),
    ("modifiers", listed (b.modifiers.map quoted))]

/-- The record of a refused name. Other faults leave none. -/
def faultRecord? : Fault → Option Record
  | .emptyName role name => some {
      level := .debug
      source := checker
      message := "Name without letters or digits"
      details := [("kind", role.text), ("name", name.value)] }
  | .repeatedElement name _ => some {
      level := .debug
      source := checker
      message := "Duplicate element"
      details := [("element", Naming.paramCase name.value)] }
  | .repeatedModifier name _ => some {
      level := .debug
      source := checker
      message := "Duplicate modifier"
      details := [("modifier", Naming.paramCase name.value)] }
  | _ => none

def tokenRecord (ts : List (Located Token)) : Record where
  level := .debug
  source := reader
  message := "Tokenized source"
  details := [("tokens_count", toString ts.length)]

def outlineRecord (o : Outline) : Record where
  level := .debug
  source := reader
  message := "Parsed block syntax"
  details := [("elements_count", toString o.elements.length), ("span", spanText o.span)]

/-- The records of the steps that a reading went through. -/
def stepRecords : Reading → List Record
  | .unscanned _ => []
  | .misordered ts _ => [tokenRecord ts]
  | .misnamed ts outline faults =>
    [tokenRecord ts, outlineRecord outline] ++ faults.filterMap faultRecord?
  | .complete ts outline =>
    let b := outline.toBlock
    [tokenRecord ts, outlineRecord outline,
      { level := .trace, source := reader, message := "Lowered block model",
        details := [("model", blockText b)] },
      { level := .debug, source := program, message := "Block parsed successfully",
        details := [("name", b.paramName)] },
      { level := .trace, source := program, message := "Parsed block",
        details := [("model", blockText b)] }]

def readingRecords (source : String) : List Record :=
  [{ level := .info, source := program, message := "Parsing block" },
    { level := .info, source := reader, message := "Parsing block",
      details := [("source_len", toString source.utf8ByteSize)] }] ++
    stepRecords (.ofSource source)

def declarationRecords (b : Block) : List Record :=
  let d := b.declaration
  [{ level := .trace, source := declarer, message := "Built type declaration",
      details := [("identifier", d.identifier), ("fields", toString d.fields.length)] },
    { level := .info, source := program, message := "Rendering type declaration",
      details := [("identifier", d.identifier)] }]

def renderingRecords (b : Block) : List Record :=
  [{ level := .info, source := program, message := "Rendering BEM text",
      details := [("name", b.paramName)] }]

/-- The records of a session that reads a source and, if that succeeds, generates
both the declaration and the canonical notation. -/
def records (source : String) : List Record :=
  readingRecords source ++
    match readBlock source with
    | .ok b => declarationRecords b ++ renderingRecords b
    | .error _ => []

end BemNotation.Session
