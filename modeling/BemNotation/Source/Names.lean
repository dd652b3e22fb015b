import BemNotation.Naming.Case
import BemNotation.Source.Fault
import BemNotation.Source.Outline

/-!
The choice of names. In param case every name has to keep a letter or a digit,
no two elements of a block may share a name, and no modifier may stand twice in
a list. Every name that breaks a rule is reported, in the order of the source.
-/

namespace BemNotation.Source

open Naming (paramCase)

/-- Names met so far that must differ from those to come, in param case, each with
the span it was met at. -/
abbrev Scope := List (String × Span)

def Scope.enter (scope : Scope) (name : Located String) : Scope :=
  scope ++ [(paramCase name.value, name.span)]

/-- What is wrong with a name in a scope. `clash` is the fault for a name that is
there already, given the span of its first use. -/
def Scope.faults (scope : Scope) (role : Role) (clash : Located String → Span → Fault)
    (name : Located String) : List Fault :=
  let key := paramCase name.value
  if key.isEmpty then [.emptyName role name]
  else
    match scope.lookup key with
    | some first => [clash name first]
    | none => []

/-- A modifier list is a scope of its own. -/
def modifierFaults (scope : Scope) : List (Located String) → List Fault
  | [] => []
  | m :: ms =>
    scope.faults .modifier .repeatedModifier m ++ modifierFaults (scope.enter m) ms

/-- All elements of a block share one scope. -/
def elementFaults (scope : Scope) : List Entry → List Fault
  | [] => []
  | e :: es =>
    scope.faults .element .repeatedElement e.name ++ modifierFaults [] e.modifiers ++
      elementFaults (scope.enter e.name) es

/-- The name of the block has to differ from nothing. -/
def blockNameFaults (name : Located String) : List Fault :=
  if (paramCase name.value).isEmpty then [.emptyName .block name] else []

def Outline.nameFaults (o : Outline) : List Fault :=
  blockNameFaults o.block.name ++ modifierFaults [] o.block.modifiers ++
    elementFaults [] o.elements

end BemNotation.Source
