import BemNotation.Data.Value
import BemNotation.Toml.Text

/-!
Values of configuration documents that are a single word: truth values, numbers,
dates and times. Low lines may group the digits of a number. The spelling of
fractions, dates and times is checked, and kept as it is. Of whole numbers only the
beginning and the place of the low lines are checked, so that a word may pass for
one and still not be a number.
-/

namespace BemNotation.Toml

open Data

def isDigit (c : Char) : Bool :=
  '0' ≤ c && c ≤ '9'

def isSign (c : Char) : Bool :=
  c = '+' || c = '-'

def dropSign (word : List Char) : List Char :=
  if word.head?.any isSign then word.drop 1 else word

def isDigitOf (base : Nat) (c : Char) : Bool :=
  (hexDigit? c).any (· < base)

/-- Whether every low line stands between two digits, where `before` tells whether the
text follows a digit. -/
def groupsDigits (digit : Char → Bool) (before : Bool) : List Char → Bool
  | [] => true
  | c :: cs =>
    if c = '_' then before && cs.head?.any digit && groupsDigits digit false cs
    else groupsDigits digit (digit c) cs

def ofDigits (base : Nat) (cs : List Char) : Nat :=
  cs.foldl (fun n c => base * n + (hexDigit? c).getD 0) 0

/-- The number that is written to the base, if there is one. Low lines mean nothing. -/
def natural? (base : Nat) (cs : List Char) : Option Nat :=
  let ds := cs.filter (· != '_')
  if !ds.isEmpty && ds.all (isDigitOf base) then some (ofDigits base ds) else none

def wholeValue (word : List Char) (n : Option Int) : Value :=
  match n with
  | some n => .integer n
  | none => .misspelled (String.ofList word)

/-- A number to another base than ten. It has no sign and maybe no digits. -/
def readBased (base : Nat) (word digits : List Char) : Option Value :=
  if digits.all (fun c => c = '_' || isDigitOf base c) &&
      groupsDigits (isDigitOf base) false digits then
    some (wholeValue word ((natural? base digits).map fun n => (n : Int)))
  else none

/-- A whole number to base ten, with no zero in front of other digits. After its first
low line anything may follow, as long as low lines stand between digits of some base. -/
def readWhole (word : List Char) : Option Value :=
  let cs := dropSign word
  let rest := cs.dropWhile isDigit
  let n := (natural? 10 cs).map fun n => if word.head? = some '-' then -(n : Int) else n
  if cs.isEmpty || (cs.head? = some '0' && cs.length ≠ 1) then none
  else if (rest.isEmpty || rest.head? = some '_') &&
      groupsDigits (isDigitOf 16) false cs then
    some (wholeValue word n)
  else none

def isDigits (cs : List Char) : Bool :=
  cs.any isDigit && cs.all fun c => isDigit c || c = '_'

def isExponent : List Char → Bool
  | c :: cs => (c = 'e' || c = 'E') && isDigits (dropSign cs)
  | [] => false

def isFractional (word : List Char) : Bool :=
  let cs := dropSign word
  let isPart (c : Char) : Bool := isDigit c || c = '_'
  let whole := cs.takeWhile isPart
  groupsDigits isDigit false cs && isDigits whole &&
    (whole.head? ≠ some '0' || (whole.filter isDigit).length = 1) &&
    match cs.drop whole.length with
    | '.' :: cs =>
      let places := cs.takeWhile isPart
      let rest := cs.drop places.length
      isDigits places && (rest.isEmpty || isExponent rest)
    | cs => isExponent cs

def readPlaces (count : Nat) (cs : List Char) : Option (Nat × List Char) :=
  let ds := cs.take count
  if ds.length = count && ds.all isDigit then some (ofDigits 10 ds, cs.drop count) else none

def isLeapYear (year : Nat) : Bool :=
  year % 4 = 0 && (year % 100 ≠ 0 || year % 400 = 0)

def daysIn (year month : Nat) : Nat :=
  if month = 2 then if isLeapYear year then 29 else 28
  else if month = 4 || month = 6 || month = 9 || month = 11 then 30
  else 31

def afterDate (cs : List Char) : Option (List Char) := do
  let (year, cs) ← readPlaces 4 cs
  let '-' :: cs := cs | none
  let (month, cs) ← readPlaces 2 cs
  let '-' :: cs := cs | none
  let (day, cs) ← readPlaces 2 cs
  if 1 ≤ month ∧ month ≤ 12 ∧ 1 ≤ day ∧ day ≤ daysIn year month then some cs else none

def afterFraction : List Char → Option (List Char)
  | '.' :: c :: cs => if isDigit c then some (cs.dropWhile isDigit) else none
  | '.' :: [] => none
  | cs => some cs

/-- What follows a time of day. The seconds may be left out. -/
def afterTime (cs : List Char) : Option (List Char) := do
  let (hour, cs) ← readPlaces 2 cs
  let ':' :: cs := cs | none
  let (minute, cs) ← readPlaces 2 cs
  if hour ≤ 23 ∧ minute ≤ 59 then
    match cs with
    | ':' :: cs =>
      let (second, cs) ← readPlaces 2 cs
      if second ≤ 60 then afterFraction cs else none
    | cs => some cs
  else none

/-- Whether a text is the distance of a time zone from universal time, or nothing. -/
def isZone : List Char → Bool
  | [] => true
  | ['Z'] => true
  | ['z'] => true
  | c :: cs =>
    isSign c &&
      match readPlaces 2 cs with
      | some (hours, ':' :: cs) =>
        match readPlaces 2 cs with
        | some (minutes, []) => hours ≤ 23 && minutes ≤ 59
        | _ => false
      | _ => false

def isMoment (word : List Char) : Bool :=
  match afterDate word with
  | some [] => true
  | some (c :: cs) =>
    (c = 'T' || c = 't' || c = ' ') &&
      match afterTime cs with
      | some rest => isZone rest
      | none => false
  | none => afterTime word == some []

/-- Characters of words: all but blanks, line ends and the signs of lists, tables,
assignments and comments. -/
def isWordPart (c : Char) : Bool :=
  !isBlank c && !"\r\n#=,[]\x7b\x7d".toList.contains c

/-- The length of the word at the beginning of a text, after so many blanks. Blanks
belong to a word that goes on after them. Quotes are part of a word, but not at the
beginning or after a blank, where they enclose a text. -/
def wordLength (blanks : Nat) : List Char → Nat
  | [] => 0
  | c :: cs =>
    if isBlank c then wordLength (blanks + 1) cs
    else if isWordPart c && (blanks = 0 || !(c = '"' || c = '\'')) then
      blanks + 1 + wordLength 0 cs
    else 0

/-- The value that a word spells. What follows its first digits decides what it has
to be. -/
def scalar? (word : List Char) : Option Value :=
  match word with
  | '0' :: 'x' :: cs => readBased 16 word cs
  | '0' :: 'o' :: cs => readBased 8 word cs
  | '0' :: 'b' :: cs => readBased 2 word cs
  | _ =>
    let cs := dropSign word
    let rest := cs.dropWhile isDigit
    if word = "true".toList then some (.bool true)
    else if word = "false".toList then some (.bool false)
    else if cs = "inf".toList || cs = "nan".toList then some (.decimal (String.ofList word))
    else if rest.head? = some '-' || rest.head? = some ':' then
      if isMoment word then some (.moment (String.ofList word)) else none
    else if rest.contains ' ' then none
    else if rest.any fun c => c = '.' || c = 'e' || c = 'E' then
      if isFractional word then some (.decimal (String.ofList word)) else none
    else readWhole word

def readScalar (cs : List Char) : Option (Value × List Char) := do
  let count := wordLength 0 cs
  return (← scalar? (cs.take count), cs.drop count)

end BemNotation.Toml
