import BemNotation.Naming.Words
import BemNotation.Source.Span
import BemNotation.Unicode.WhiteSpace

/-!
Tokens of block notation. The source is cut from left to right into the longest
runs of name characters and of blanks, single brackets and commas, and line
breaks. A character that belongs to no token is stray. Nothing is dropped: the
texts of the lexemes, in order, are the source again.
-/

namespace BemNotation.Source

open Naming Unicode

/-- What a character can be part of. A carriage return counts only before a
line feed. -/
inductive CharClass where
  | name
  | openBracket
  | closeBracket
  | comma
  | lineFeed
  | carriageReturn
  | blank
  | other
  deriving DecidableEq, Repr

def isNameChar (c : Char) : Bool :=
  isWordChar c || c = '_' || c = '-'

def charClass (c : Char) : CharClass :=
  if isNameChar c then .name
  else if c = '[' then .openBracket
  else if c = ']' then .closeBracket
  else if c = ',' then .comma
  else if c = '\n' then .lineFeed
  else if c = '\r' then .carriageReturn
  else if isWhiteSpace c then .blank
  else .other

/-- The class of a character that has no run settles the character. -/
theorem eq_of_charClass (c : Char) :
    match charClass c with
    | .openBracket => c = '['
    | .closeBracket => c = ']'
    | .comma => c = ','
    | .lineFeed => c = '\n'
    | .carriageReturn => c = '\r'
    | _ => True := by
  fun_cases charClass c <;> simp_all

inductive Token where
  /-- A block, element or modifier name. -/
  | name (text : List Char)
  | openBracket
  | closeBracket
  | comma
  /-- White space within a line. -/
  | blank (text : List Char)
  /-- A line feed, with or without a carriage return before it. -/
  | lineBreak (returns : Bool)
  deriving DecidableEq, Repr

def Token.text : Token → List Char
  | name text => text
  | openBracket => ['[']
  | closeBracket => [']']
  | comma => [',']
  | blank text => text
  | lineBreak true => ['\r', '\n']
  | lineBreak false => ['\n']

/-- A piece of the source: a token, or a character that fits into none. -/
inductive Lexeme where
  | token (t : Token)
  | stray (c : Char)
  deriving DecidableEq, Repr

def Lexeme.text : Lexeme → List Char
  | token t => t.text
  | stray c => [c]

/-- Puts one more character in front of a source that is cut already. A run of
names or blanks grows, and a carriage return joins the line feed after it. -/
def Lexeme.push (c : Char) (ls : List Lexeme) : List Lexeme :=
  match charClass c, ls with
  | .name, .token (.name text) :: rest => .token (.name (c :: text)) :: rest
  | .name, _ => .token (.name [c]) :: ls
  | .blank, .token (.blank text) :: rest => .token (.blank (c :: text)) :: rest
  | .blank, _ => .token (.blank [c]) :: ls
  | .carriageReturn, .token (.lineBreak false) :: rest => .token (.lineBreak true) :: rest
  | .carriageReturn, _ => .stray c :: ls
  | .openBracket, _ => .token .openBracket :: ls
  | .closeBracket, _ => .token .closeBracket :: ls
  | .comma, _ => .token .comma :: ls
  | .lineFeed, _ => .token (.lineBreak false) :: ls
  | .other, _ => .stray c :: ls

theorem flatMap_text_push (c : Char) (ls : List Lexeme) :
    (Lexeme.push c ls).flatMap Lexeme.text = c :: ls.flatMap Lexeme.text := by
  have h := eq_of_charClass c
  unfold Lexeme.push
  split <;> simp_all [Lexeme.text, Token.text]

def lexemes (cs : List Char) : List Lexeme :=
  cs.foldr Lexeme.push []

/-- The texts of the lexemes are the source again. -/
theorem flatMap_text_lexemes (cs : List Char) : (lexemes cs).flatMap Lexeme.text = cs := by
  induction cs with
  | nil => rfl
  | cons c cs ih =>
    change (Lexeme.push c (lexemes cs)).flatMap Lexeme.text = c :: cs
    rw [flatMap_text_push, ih]

/-- The lexemes with their spans, one after the other from `offset` on. -/
def place (offset : Nat) : List Lexeme → List (Located Lexeme)
  | [] => []
  | l :: ls =>
    let stop := offset + byteLength l.text
    ⟨l, { start := offset, stop := stop }⟩ :: place stop ls

/-- The characters of a source that belong to no token. -/
def strays (ls : List (Located Lexeme)) : List (Located Char) :=
  ls.filterMap fun l =>
    match l.value with
    | .stray c => some ⟨c, l.span⟩
    | .token _ => none

def tokens (ls : List (Located Lexeme)) : List (Located Token) :=
  ls.filterMap fun l =>
    match l.value with
    | .token t => some ⟨t, l.span⟩
    | .stray _ => none

end BemNotation.Source
