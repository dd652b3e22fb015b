/-!
Journal records, the notes that a run leaves for whoever looks into it. Each has a
level; a verbosity admits the levels up to one of them, or none.
-/

namespace BemNotation

/-- How important a record is, the most important level first. -/
inductive Level where
  | error
  | warn
  | info
  | debug
  | trace
  deriving DecidableEq, Repr

namespace Level

def all : List Level :=
  [error, warn, info, debug, trace]

def name : Level → String
  | error => "ERROR"
  | warn => "WARN"
  | info => "INFO"
  | debug => "DEBUG"
  | trace => "TRACE"

def rank : Level → Nat
  | error => 1
  | warn => 2
  | info => 3
  | debug => 4
  | trace => 5

end Level

inductive Verbosity where
  | off
  | upTo (level : Level)
  deriving DecidableEq, Repr

namespace Verbosity

def admits : Verbosity → Level → Bool
  | off, _ => false
  | upTo most, level => level.rank ≤ most.rank

/-- The verbosity that goes by a word, in small letters or capitals. -/
def ofText? (s : String) : Option Verbosity :=
  let word := s.map Char.toUpper
  if word = "OFF" then some off
  else (Level.all.find? (·.name == word)).map upTo

def name : Verbosity → String
  | off => "Off"
  | upTo .error => "Error"
  | upTo .warn => "Warn"
  | upTo .info => "Info"
  | upTo .debug => "Debug"
  | upTo .trace => "Trace"

end Verbosity

/-- A note with the part of the program that it comes from and its details. -/
structure Record where
  level : Level
  source : String
  message : String
  details : List (String × String) := []
  deriving DecidableEq, Repr

def Record.text (r : Record) : String :=
  let details := r.details.map fun (key, value) => " " ++ key ++ "=" ++ value
  "[" ++ r.level.name ++ " " ++ r.source ++ "] " ++ r.message ++ String.join details

end BemNotation
