/-!
Line separators of generated text, with the names they go by in configuration
files.
-/

namespace BemNotation

inductive LineBreak where
  /-- The separator of the platform, here a line feed. -/
  | native
  | lf
  | crlf
  deriving DecidableEq, Repr, Inhabited

namespace LineBreak

def separator : LineBreak → String
  | native => "\n"
  | lf => "\n"
  | crlf => "\r\n"

def name : LineBreak → String
  | native => "native"
  | lf => "lf"
  | crlf => "crlf"

def all : List LineBreak :=
  [native, lf, crlf]

/-- The separator of that name. Names are in small letters only. -/
def ofName? (s : String) : Option LineBreak :=
  all.find? (·.name == s)

/-- What is said of any other name. -/
def unsupported : String :=
  "Unsupported line break"

theorem ofName?_name (b : LineBreak) : ofName? b.name = some b := by
  cases b <;> decide

end LineBreak

end BemNotation
