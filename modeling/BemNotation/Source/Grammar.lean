import BemNotation.Source.Fault
import BemNotation.Source.Outline

/-!
The order of tokens. Blanks mean nothing, and each line stands alone: it is empty
or holds a name with an optional list of modifiers in square brackets. The first
line with a name describes the block, the others its elements. Reading stops at
the first token that no continuation could make acceptable.
-/

namespace BemNotation.Source

open Naming (extendFirst)

/-- The tokens line by line, without blanks and line breaks. -/
def tokenLines : List (Located Token) → List (List (Located Token))
  | [] => [[]]
  | t :: ts =>
    match t.value with
    | .blank _ => tokenLines ts
    | .lineBreak _ => [] :: tokenLines ts
    | _ => extendFirst t (tokenLines ts)

/-- The modifiers up to the closing bracket, and the tokens after it. `opening` is
the span of the opening bracket and `last` that of the token just read. -/
def readNames (opening last : Span) :
    List (Located Token) → Except Fault (List (Located String) × List (Located Token))
  | [] => .error (.unclosedList (opening.cover last))
  | ⟨.name _, span⟩ :: [] => .error (.unclosedList (opening.cover span))
  | ⟨.name text, span⟩ :: ⟨.comma, comma⟩ :: rest => do
    let (names, rest) ← readNames opening comma rest
    return (⟨String.ofList text, span⟩ :: names, rest)
  | ⟨.name text, span⟩ :: ⟨.closeBracket, _⟩ :: rest =>
    .ok ([⟨String.ofList text, span⟩], rest)
  | ⟨.name _, _⟩ :: t :: _ => .error (.unexpectedToken t .commaOrBracket)
  | t :: _ => .error (.unexpectedToken t .modifierName)

/-- The modifier list that the tokens begin with, if they begin with one, and the
tokens after it. -/
def readModifiers :
    List (Located Token) → Except Fault (List (Located String) × List (Located Token))
  | ⟨.openBracket, opening⟩ :: ⟨.closeBracket, closing⟩ :: _ =>
    .error (.emptyList (opening.cover closing))
  | ⟨.openBracket, opening⟩ :: rest => readNames opening opening rest
  | ts => .ok ([], ts)

/-- A line that begins with the token `t`. The fault `noName` is for a first token
that is not a name. -/
def readEntry (noName : Located Token → Fault) (t : Located Token)
    (ts : List (Located Token)) : Except Fault Entry :=
  match t with
  | ⟨.name text, span⟩ => do
    let (modifiers, rest) ← readModifiers ts
    match rest with
    | [] => return ⟨⟨String.ofList text, span⟩, modifiers⟩
    | t :: _ => .error (.unexpectedToken t .lineBreak)
  | t => .error (noName t)

def readElements : List (List (Located Token)) → Except Fault (List Entry)
  | [] => .ok []
  | [] :: rest => readElements rest
  | (t :: ts) :: rest => do
    let element ← readEntry (.unexpectedToken · .elementName) t ts
    return element :: (← readElements rest)

/-- The block and its elements. The span `whole` is for a source without a name. -/
def readLines (whole : Span) : List (List (Located Token)) → Except Fault Outline
  | [] => .error (.missingBlockName whole)
  | [] :: rest => readLines whole rest
  | (t :: ts) :: rest => do
    let block ← readEntry (fun t => .missingBlockName t.span) t ts
    return ⟨block, ← readElements rest⟩

def spanOf : List (Located Token) → Span
  | [] => { start := 0, stop := 0 }
  | t :: ts => t.span.coverAll (ts.map (·.span))

/-- The outline of a tokenized source, or the first fault in the order of its
tokens. -/
def readOutline (ts : List (Located Token)) : Except Fault Outline :=
  readLines (spanOf ts) (tokenLines ts)

end BemNotation.Source
