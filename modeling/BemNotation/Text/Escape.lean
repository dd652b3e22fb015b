import BemNotation.Unicode.DefaultIgnorable
import BemNotation.Unicode.GraphemeExtend
import BemNotation.Unicode.Unprintable

/-!
Characters made visible. Messages and journal records show a text so that every
character of it can be told apart: common controls by a letter after a backslash,
marks and characters without ink by their code point in hexadecimal.
-/

namespace BemNotation.Text

open Unicode

def hexDigits (c : Char) : List Char :=
  Nat.toDigits 16 c.toNat

/-- Hexadecimal digits of a code point, filled up with zeros to four places. -/
def hexDigits4 (c : Char) : List Char :=
  List.replicate (4 - (hexDigits c).length) '0' ++ hexDigits c

/-- Whether the character is drawn on the one before it. The two halfwidth sound marks
have the property too, but take a place of their own like the letters around them. -/
def isDrawnOver (c : Char) : Bool :=
  isGraphemeExtend c && !(c = '\uff9e' || c = '\uff9f')

/-- A character made visible. The characters in `quotes` get a backslash. -/
def visible (quotes : List Char) (c : Char) : List Char :=
  if c = '\x00' then ['\\', '0']
  else if c = '\t' then ['\\', 't']
  else if c = '\r' then ['\\', 'r']
  else if c = '\n' then ['\\', 'n']
  else if c = '\\' || quotes.contains c then ['\\', c]
  else if isDrawnOver c || isUnprintable c || isDefaultIgnorable c then
    ['\\', 'u', '\x7b'] ++ hexDigits c ++ ['\x7d']
  else [c]

/-- A single character as a message shows it, with either kind of quote marked. -/
def showChar (c : Char) : String :=
  String.ofList (visible ['\'', '"'] c)

def quoted (s : String) : String :=
  String.ofList ('"' :: s.toList.flatMap (visible ['"']) ++ ['"'])

def listed (items : List String) : String :=
  "[" ++ ", ".intercalate items ++ "]"

end BemNotation.Text
