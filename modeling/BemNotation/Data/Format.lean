import BemNotation.Data.Value

/-!
Formats of documents. A format writes data as text and reads texts back as data, and it
says in its own words why it cannot. It may also settle the convention about records, so
a type is read from data in whatever convention the format has.
-/

namespace BemNotation.Data

/-- How a type is read from data. -/
abbrev Shape (α : Type) := Convention → Value → Option α

structure DocumentFormat where
  /-- What the data of a text is read as, or what is wrong with it. -/
  read {α : Type} (shape : Shape α) (text : String) : Except String α
  /-- The text of a document with the data, or why there is none. -/
  write (v : Value) : Except String String

end BemNotation.Data
