/-!
Texts of configuration documents. Between double quotes a backslash begins an
escape, between single quotes it stands for itself. Three quotes enclose a text
of several lines, which does not count a line break right after the opening.
-/

namespace BemNotation.Toml

def isBlank (c : Char) : Bool :=
  c = ' ' || c = '\t'

/-- Characters that a text or a comment may hold as they are. -/
def isPlain (c : Char) : Bool :=
  c = '\t' || (0x20 ≤ c.toNat && c.toNat != 0x7F)

def isBare (c : Char) : Bool :=
  ('0' ≤ c && c ≤ '9') || ('a' ≤ c && c ≤ 'z') || ('A' ≤ c && c ≤ 'Z') || c = '_' || c = '-'

/-- Whether the character ends a line, given what follows it. A carriage return
does so together with a line feed only. -/
def endsLine (c : Char) (cs : List Char) : Bool :=
  c = '\n' || (c = '\r' && cs.head? == some '\n')

def dropLineBreak : List Char → Option (List Char)
  | '\n' :: cs => some cs
  | '\r' :: '\n' :: cs => some cs
  | _ => none

def hexDigit? (c : Char) : Option Nat :=
  if '0' ≤ c ∧ c ≤ '9' then some (c.toNat - '0'.toNat)
  else if 'a' ≤ c ∧ c ≤ 'f' then some (c.toNat - 'a'.toNat + 10)
  else if 'A' ≤ c ∧ c ≤ 'F' then some (c.toNat - 'A'.toNat + 10)
  else none

def charAt? (n : Nat) : Option Char :=
  if n.isValidChar then some (Char.ofNat n) else none

/-- What the character after a backslash stands for: itself or another one, or a
number of hexadecimal digits to come. -/
inductive Escape where
  | char (c : Char)
  | digits (count : Nat)
  deriving DecidableEq, Repr

def escape? (c : Char) : Option Escape :=
  match c with
  | '"' => some (.char '"')
  | '\\' => some (.char '\\')
  | 'b' => some (.char '\x08')
  | 'e' => some (.char '\x1b')
  | 'f' => some (.char '\x0c')
  | 'n' => some (.char '\n')
  | 'r' => some (.char '\r')
  | 't' => some (.char '\t')
  | 'x' => some (.digits 2)
  | 'u' => some (.digits 4)
  | 'U' => some (.digits 8)
  | _ => none

inductive TextState where
  | plain
  /-- Right after a backslash. -/
  | escape
  /-- Some hexadecimal digits are still to come. -/
  | digits (left value : Nat)
  /-- Between a backslash and the end of its line. -/
  | lineEnd
  /-- Past a line that ended with a backslash, in white space to leave out. -/
  | nextLine
  deriving DecidableEq, Repr

/-- The characters of a text and what follows its closing quote. -/
abbrev TextResult := Option (List Char × List Char)

def TextResult.push (c : Char) (r : TextResult) : TextResult :=
  r.map fun (text, rest) => (c :: text, rest)

/-- The end of a text between three quotes, at a run of at least three of them. Two
of the quotes may belong to the text. -/
def closeLong (quote : Char) (cs : List Char) : TextResult :=
  let count := (cs.takeWhile (· == quote)).length
  if count ≤ 5 then some (List.replicate (count - 3) quote, cs.drop count) else none

def startsWithThree (quote : Char) (cs : List Char) : Bool :=
  cs.take 3 == [quote, quote, quote]

/-- What follows the opening double quote, on one line. -/
def readBasic (state : TextState) : List Char → TextResult
  | [] => none
  | c :: cs =>
    match state with
    | .escape =>
      match escape? c with
      | some (.char d) => (readBasic .plain cs).push d
      | some (.digits count) => readBasic (.digits count 0) cs
      | none => none
    | .digits left value =>
      match hexDigit? c with
      | some d =>
        if left ≤ 1 then
          match charAt? (16 * value + d) with
          | some e => (readBasic .plain cs).push e
          | none => none
        else readBasic (.digits (left - 1) (16 * value + d)) cs
      | none => none
    | _ =>
      if c = '"' then some ([], cs)
      else if c = '\\' then readBasic .escape cs
      else if isPlain c then (readBasic .plain cs).push c
      else none

/-- What follows three opening double quotes. -/
def readLongBasic (state : TextState) : List Char → TextResult
  | [] => none
  | c :: cs =>
    match state with
    | .escape =>
      if isBlank c || endsLine c cs then
        readLongBasic (if c = '\n' then .nextLine else .lineEnd) cs
      else
        match escape? c with
        | some (.char d) => (readLongBasic .plain cs).push d
        | some (.digits count) => readLongBasic (.digits count 0) cs
        | none => none
    | .digits left value =>
      match hexDigit? c with
      | some d =>
        if left ≤ 1 then
          match charAt? (16 * value + d) with
          | some e => (readLongBasic .plain cs).push e
          | none => none
        else readLongBasic (.digits (left - 1) (16 * value + d)) cs
      | none => none
    | .lineEnd =>
      if isBlank c || endsLine c cs then
        readLongBasic (if c = '\n' then .nextLine else .lineEnd) cs
      else none
    | _ =>
      if state = .nextLine && (isBlank c || endsLine c cs) then readLongBasic .nextLine cs
      else if c = '"' then
        if startsWithThree '"' (c :: cs) then closeLong '"' (c :: cs)
        else (readLongBasic .plain cs).push c
      else if c = '\\' then readLongBasic .escape cs
      else if isPlain c || endsLine c cs then (readLongBasic .plain cs).push c
      else none

def readLiteral : List Char → TextResult
  | [] => none
  | c :: cs =>
    if c = '\'' then some ([], cs)
    else if isPlain c then (readLiteral cs).push c
    else none

def readLongLiteral : List Char → TextResult
  | [] => none
  | c :: cs =>
    if c = '\'' then
      if startsWithThree '\'' (c :: cs) then closeLong '\'' (c :: cs)
      else (readLongLiteral cs).push c
    else if isPlain c || endsLine c cs then (readLongLiteral cs).push c
    else none

/-- A quoted text on one line, as a key may be written. -/
def readShortText : List Char → TextResult
  | '"' :: cs => readBasic .plain cs
  | '\'' :: cs => readLiteral cs
  | _ => none

def readText : List Char → TextResult
  | '"' :: '"' :: '"' :: cs => readLongBasic .plain ((dropLineBreak cs).getD cs)
  | '\'' :: '\'' :: '\'' :: cs => readLongLiteral ((dropLineBreak cs).getD cs)
  | cs => readShortText cs

end BemNotation.Toml
