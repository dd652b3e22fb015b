import BemNotation.Declaration
import BemNotation.Layout
import BemNotation.Text.Escape
import BemNotation.Unicode.Control

/-!
Declarations as text. A declaration becomes a type alias; a record is written
over several lines, one field a line, and a choice of texts on one line. Names
that cannot stand for themselves are quoted, and the name of the type is made to
fit.
-/

namespace BemNotation

open Naming Unicode

def isIdentifierStart (c : Char) : Bool :=
  isAlphabetic c || c = '_' || c = '$'

def isIdentifierPart (c : Char) : Bool :=
  isWordChar c || c = '_' || c = '$'

def isIdentifier : List Char → Bool
  | [] => false
  | c :: cs => isIdentifierStart c && cs.all isIdentifierPart

/-- A name that a type can have. Characters that do not fit become low lines, and
a low line goes in front where the first one is not fit to begin with. -/
def typeIdentifier (cs : List Char) : List Char :=
  let fitted := cs.map fun c => if isIdentifierPart c then c else '_'
  match fitted with
  | c :: _ => if isIdentifierStart c then fitted else '_' :: fitted
  | [] => ['_']

def literalChar (c : Char) : List Char :=
  if c = '"' then ['\\', '"']
  else if c = '\\' then ['\\', '\\']
  else if c = '\n' then ['\\', 'n']
  else if c = '\r' then ['\\', 'r']
  else if c = '\t' then ['\\', 't']
  else if isControl c then '\\' :: 'u' :: Text.hexDigits4 c
  else [c]

def literal (cs : List Char) : List Char :=
  '"' :: cs.flatMap literalChar ++ ['"']

/-- The name of a field, quoted unless it is a plain name. -/
def propertyKey (cs : List Char) : List Char :=
  if isIdentifier cs then cs else literal cs

def undefinedWord : List Char :=
  ['u', 'n', 'd', 'e', 'f', 'i', 'n', 'e', 'd']

def neverWord : List Char :=
  ['n', 'e', 'v', 'e', 'r']

namespace Layout

def newLine (l : Layout) (depth : Nat) : List Char :=
  l.lineBreak.separator.toList ++ List.replicate (l.indent * depth) ' '

mutual

/-- A type inside a record that is `depth` levels deep. -/
def typeChars (l : Layout) (depth : Nat) : FieldType → List Char
  | .oneOf choices =>
    List.intercalate [' ', '|', ' '] (choices.values.map fun s => literal s.toList)
  | .undefined => undefinedWord
  | .never => neverWord
  | .record [] => ['\x7b', '\x7d']
  | .record (field :: rest) =>
    '\x7b' :: fieldChars l (depth + 1) (field :: rest) ++ l.newLine depth ++ ['\x7d']

def fieldChars (l : Layout) (depth : Nat) : List (String × FieldType) → List Char
  | [] => []
  | (name, type) :: rest =>
    l.newLine depth ++ propertyKey name.toList ++ [':', ' '] ++ l.typeChars depth type ++ [';'] ++
      fieldChars l depth rest

end

def declarationChars (l : Layout) (d : Declaration) : List Char :=
  (if d.exported then "export ".toList else []) ++ "type ".toList ++
    typeIdentifier d.identifier.toList ++ " = ".toList ++ l.typeChars 0 (.record d.fields) ++
    (if l.semicolons then [';'] else []) ++ l.lineBreak.separator.toList

/-- The declaration as a type alias, ending with a line break. -/
def print (l : Layout) (d : Declaration) : String :=
  String.ofList (l.declarationChars d)

def renderTypes (l : Layout) (b : Block) : String :=
  l.print b.declaration

/-- A block in canonical notation. -/
def renderBem (l : Layout) (b : Block) : String :=
  b.render l.lineBreak.separator

end Layout

end BemNotation
