import BemNotation.Naming.Words
import BemNotation.Unicode.Raising

/-!
The two written forms of an identifier. Param case, as in `large-icon`, presents
block, element and modifier names. Pascal case, as in `LargeIcon`, names types.
Both are made from the same words; without any word both are empty.
-/

namespace BemNotation.Naming

open Unicode

/-- A word in small letters. Lowering may leave marks behind; those are dropped. -/
def smallWord (w : List Char) : List Char :=
  (lowerText w).filter isWordChar

def paramChars (cs : List Char) : List Char :=
  List.intercalate ['-'] (((words cs).map smallWord).filter (!·.isEmpty))

def capitalWord : List Char → List Char
  | [] => []
  | c :: cs => raise c :: (cs.flatMap lower).filter isWordChar

/-- Whether a word can follow a text directly and still be read as a word of its
own: after a small letter or a digit, unless it begins with a digit. -/
def standsApart (last first : Char) : Bool :=
  (isLowercase last || isNumeric last) && !isNumeric first

/-- What stands between a text and a word that is joined to it: a low line, where
the two would otherwise run together. -/
def seam (last first : Option Char) : List Char :=
  match last, first with
  | some last, some first => if standsApart last first then [] else ['_']
  | _, _ => []

/-- Words joined without loss of a boundary, after a text that ends in `last`. -/
def joinWords (last : Option Char) : List (List Char) → List Char
  | [] => []
  | word :: rest => seam last word.head? ++ word ++ joinWords (word.getLast?.or last) rest

/-- Capital words, joined without loss of a boundary. -/
def pascalChars (cs : List Char) : List Char :=
  joinWords none ((words cs).map capitalWord)

def paramCase (s : String) : String :=
  String.ofList (paramChars s.toList)

def pascalCase (s : String) : String :=
  String.ofList (pascalChars s.toList)

end BemNotation.Naming
