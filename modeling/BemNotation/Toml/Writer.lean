import BemNotation.Text.Escape
import BemNotation.Toml.Record

/-!
Records written as configuration documents. Every entry has a line of its own, and an
empty line stands in front of every header.
-/

namespace BemNotation.Toml

open Data

def basicChar (c : Char) : List Char :=
  if c = '"' then ['\\', '"']
  else if c = '\\' then ['\\', '\\']
  else if c = '\x08' then ['\\', 'b']
  else if c = '\t' then ['\\', 't']
  else if c = '\n' then ['\\', 'n']
  else if c = '\x0c' then ['\\', 'f']
  else if c = '\r' then ['\\', 'r']
  else if c.toNat < 0x20 || c.toNat = 0x7F then '\\' :: 'u' :: (Text.hexDigits4 c).map Char.toUpper
  else [c]

def basicText (s : String) : List Char :=
  '"' :: s.toList.flatMap basicChar ++ ['"']

def itemLine (s : String) : List Char :=
  "    ".toList ++ basicText s ++ ",\n".toList

/-- A list of texts: on one line up to one item, else an item a line. -/
def textList : List String → List Char
  | [] => ['[', ']']
  | [s] => '[' :: basicText s ++ [']']
  | items => "[\n".toList ++ items.flatMap itemLine ++ [']']

def plainText (v : Value) : List Char :=
  match v with
  | .text s => basicText s
  | v => textList (v.texts?.getD [])

def entryLine (name : String) (v : Value) : List Char :=
  name.toList ++ " = ".toList ++ plainText v ++ ['\n']

def entryLines (entries : List (String × Value)) : List Char :=
  entries.flatMap fun entry => entryLine entry.1 entry.2

def rowText (name : String) (row : List (String × Value)) : List Char :=
  "\n[[".toList ++ name.toList ++ "]]\n".toList ++ entryLines row

def tableTexts (entry : String × Value) : List Char :=
  (rows entry.2).flatMap (rowText entry.1)

/-- The document of a record. No other data is written. -/
def write : Value → Except String String
  | .table entries =>
    if isRecord entries then
      .ok (String.ofList (entryLines (plainEntries entries) ++ entries.flatMap tableTexts))
    else .error "unsupported table"
  | _ => .error "unsupported value"

end BemNotation.Toml
