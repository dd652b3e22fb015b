import BemNotation.Source.Grammar
import BemNotation.Source.Names

/-!
Reading a block. A source is cut into tokens, the tokens are put in order, and
the names are checked. Each step needs the one before it to succeed, and only the
faults of the first step that fails are reported.
-/

namespace BemNotation.Source

/-- How far a source could be read. -/
inductive Reading where
  /-- Some characters belong to no token. -/
  | unscanned (faults : List Fault)
  | misordered (tokens : List (Located Token)) (fault : Fault)
  | misnamed (tokens : List (Located Token)) (outline : Outline) (faults : List Fault)
  | complete (tokens : List (Located Token)) (outline : Outline)
  deriving DecidableEq, Repr

def Reading.ofTokens (ts : List (Located Token)) : Reading :=
  match readOutline ts with
  | .error fault => .misordered ts fault
  | .ok outline =>
    match outline.nameFaults with
    | [] => .complete ts outline
    | faults => .misnamed ts outline faults

def Reading.ofSource (source : String) : Reading :=
  let ls := place 0 (lexemes source.toList)
  match strays ls with
  | [] => .ofTokens (tokens ls)
  | cs => .unscanned (cs.map .strayCharacter)

/-- The block that was read, or all faults of the step that failed. -/
def Reading.result : Reading → Except (List Fault) Block
  | unscanned faults => .error faults
  | misordered _ fault => .error [fault]
  | misnamed _ _ faults => .error faults
  | complete _ outline => .ok outline.toBlock

def readBlock (source : String) : Except (List Fault) Block :=
  (Reading.ofSource source).result

end BemNotation.Source
