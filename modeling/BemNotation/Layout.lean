import BemNotation.LineBreak

/-!
How generated text is laid out: the separator between lines, the semicolon at the
end of a declaration, and the number of spaces for each level of nesting.
-/

namespace BemNotation

structure Layout where
  lineBreak : LineBreak := .native
  semicolons : Bool := true
  indent : Nat := 4
  deriving DecidableEq, Repr, Inhabited

end BemNotation
