import BemNotation.Source.Diagnostic
import BemNotation.Source.Token
import BemNotation.Text.Escape

/-!
The mistakes that a source can hold, each with what is needed to explain it. The
wording of all of them is in one place, the diagnostic of a fault.
-/

namespace BemNotation.Source

/-- What the notation allows where another token was found. -/
inductive Expected where
  | elementName
  | modifierName
  | commaOrBracket
  | lineBreak
  deriving DecidableEq, Repr

def Expected.text : Expected → String
  | elementName => "expected element name"
  | modifierName => "expected modifier name"
  | commaOrBracket => "expected `,` or `]`"
  | lineBreak => "expected line break"

/-- What a name is the name of. -/
inductive Role where
  | block
  | element
  | modifier
  deriving DecidableEq, Repr

def Role.text : Role → String
  | block => "block"
  | element => "element"
  | modifier => "modifier"

inductive Fault where
  | strayCharacter (c : Located Char)
  | unexpectedToken (found : Located Token) (expected : Expected)
  /-- A modifier list that its line does not close. -/
  | unclosedList (span : Span)
  | missingBlockName (span : Span)
  | emptyList (span : Span)
  /-- A name without letters or digits. -/
  | emptyName (role : Role) (name : Located String)
  | repeatedElement (name : Located String) (first : Span)
  | repeatedModifier (name : Located String) (first : Span)
  deriving DecidableEq, Repr

def Fault.diagnostic : Fault → Diagnostic
  | strayCharacter c => {
      code := some .strayCharacter
      message := "unexpected character `" ++ Text.showChar c.value ++ "`"
      labels := [{ span := c.span, message := "unexpected character" }]
      help := some "names may only contain letters, digits, `_` and `-`" }
  | unexpectedToken found expected => {
      code := some .unexpectedToken
      message := "unexpected `" ++ String.ofList found.value.text ++ "`"
      labels := [{ span := found.span, message := expected.text }]
      help := some "each line holds one name with an optional `[mod1,mod2]` list" }
  | unclosedList span => {
      code := some .unclosedList
      message := "unclosed modifier list"
      labels := [{ span := span, message := "expected `]`" }]
      help := some "close the modifier list with `]` on the same line" }
  | missingBlockName span => {
      code := some .missingBlockName
      message := "missing block name"
      labels := [{ span := span, message := "expected block name" }]
      help := some "start the input with the block name, e.g. `button[primary]`" }
  | emptyList span => {
      code := some .emptyList
      message := "empty modifier list"
      labels := [{ span := span, message := "no modifiers listed" }]
      help := some "remove the brackets or list at least one modifier" }
  | emptyName role name => {
      code := some .emptyName
      message := role.text ++ " `" ++ name.value ++ "` has no letters or digits"
      labels := [{ span := name.span, message := "empty after normalization" }]
      help := some "names need at least one letter or digit" }
  | repeatedElement name first => {
      code := some .repeatedElement
      message := "element `" ++ name.value ++ "` is declared multiple times"
      labels := [{ span := name.span, message := "duplicate element" },
        { span := first, message := "first declared here", primary := false }]
      help := some "merge the modifiers into a single element line" }
  | repeatedModifier name first => {
      code := some .repeatedModifier
      message := "modifier `" ++ name.value ++ "` is listed multiple times"
      labels := [{ span := name.span, message := "duplicate modifier" },
        { span := first, message := "first listed here", primary := false }]
      help := some "remove the repeated modifier" }

end BemNotation.Source
