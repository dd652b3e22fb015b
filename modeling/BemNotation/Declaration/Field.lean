/-!
Types of record fields. A field allows one of several texts, or nothing, or no
value at all, or it is a record itself. Fields of a record are in order; setting
a field that is there keeps its place. Two records are the same when they give
the same types to the same names, whatever the order.
-/

namespace BemNotation

/-- Several distinct texts in order, at least one. -/
structure Choices where
  values : List String
  nonempty : values ≠ []
  distinct : values.Nodup
  deriving DecidableEq, Repr

/-- Keeps the first of equal texts. -/
def firstOccurrences : List String → List String
  | [] => []
  | s :: rest => s :: (firstOccurrences rest).filter (· != s)

theorem mem_firstOccurrences {x : String} {xs : List String} :
    x ∈ firstOccurrences xs ↔ x ∈ xs := by
  induction xs with
  | nil => simp [firstOccurrences]
  | cons s rest ih =>
    by_cases hx : x = s
    · simp [firstOccurrences, hx]
    · simp [firstOccurrences, hx, ih]

theorem nodup_firstOccurrences (xs : List String) : (firstOccurrences xs).Nodup := by
  induction xs with
  | nil => simp [firstOccurrences]
  | cons s rest ih =>
    simp only [firstOccurrences, List.nodup_cons]
    exact ⟨by simp, ih.filter _⟩

/-- The choices among the texts given, or none if there are no texts. -/
def Choices.ofList? : List String → Option Choices
  | [] => none
  | s :: rest => some {
      values := firstOccurrences (s :: rest)
      nonempty := by simp [firstOccurrences]
      distinct := nodup_firstOccurrences _ }

def Choices.same (a b : Choices) : Bool :=
  a.values.length == b.values.length && a.values.all b.values.contains

inductive FieldType where
  | oneOf (choices : Choices)
  /-- The field has no value, as an element without modifiers. -/
  | undefined
  /-- No value is allowed, as for the modifiers of a block without any. -/
  | never
  | record (fields : List (String × FieldType))
  deriving Repr

instance : Inhabited FieldType := ⟨.undefined⟩

abbrev Fields := List (String × FieldType)

/-- One of the texts, or the type `empty` if there are none. -/
def FieldType.oneOfOr (values : List String) (empty : FieldType) : FieldType :=
  match Choices.ofList? values with
  | some choices => .oneOf choices
  | none => empty

def FieldType.literals? : FieldType → Option (List String)
  | oneOf choices => some choices.values
  | _ => none

mutual

def FieldType.same : FieldType → FieldType → Bool
  | .oneOf a, .oneOf b => a.same b
  | .undefined, .undefined => true
  | .never, .never => true
  | .record fields, .record others =>
    fields.length == others.length && fieldsWithin fields others
  | _, _ => false

/-- Whether each field is among the others with the same type. -/
def fieldsWithin : List (String × FieldType) → List (String × FieldType) → Bool
  | [], _ => true
  | (name, type) :: rest, others =>
    (match others.lookup name with
      | some other => type.same other
      | none => false) && fieldsWithin rest others

end

namespace Fields

/-- Sets a field. A new name goes to the end, a known one keeps its place. -/
def set (name : String) (type : FieldType) : Fields → Fields
  | [] => [(name, type)]
  | (key, old) :: rest =>
    if key = name then (key, type) :: rest else (key, old) :: set name type rest

def ofList (fields : List (String × FieldType)) : Fields :=
  fields.foldl (fun record (name, type) => record.set name type) []

def get? (fields : Fields) (name : String) : Option FieldType :=
  fields.lookup name

def same (fields others : Fields) : Bool :=
  (FieldType.record fields).same (.record others)

end Fields

end BemNotation
