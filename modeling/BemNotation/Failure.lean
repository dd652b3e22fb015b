import BemNotation.Source.Reading

/-!
Ways in which a run can fail, and the reports shown for them. A rejected source
gives a report for each diagnostic, with labels into the source; the other
failures give a single report.
-/

namespace BemNotation

open Source (Diagnostic Label readBlock)

inductive FileFault where
  | notFound
  | notADirectory
  | isADirectory
  | nameTooLong
  | notText
  | badPath
  | other (reason : String)
  deriving DecidableEq, Repr

def FileFault.message : FileFault → String
  | notFound => "No such file or directory (os error 2)"
  | notADirectory => "Not a directory (os error 20)"
  | isADirectory => "Is a directory (os error 21)"
  | nameTooLong => "File name too long (os error 36)"
  | notText => "stream did not contain valid UTF-8"
  | badPath => "file name contained an unexpected NUL byte"
  | other reason => reason

inductive Failure where
  | file (fault : FileFault)
  /-- The source is kept, so that its lines can be shown. -/
  | source (diagnostics : List Diagnostic) (source : String)
  | configuration (reason : String)
  deriving DecidableEq, Repr

def Failure.message : Failure → String
  | file fault => "I/O error: " ++ fault.message
  | source diagnostics _ => Source.summary diagnostics
  | configuration reason => "Configuration error: " ++ reason

/-- The block that a source describes, or the failure that shows its faults. -/
def Block.parse (source : String) : Except Failure Block :=
  (readBlock source).mapError fun faults => .source (faults.map (·.diagnostic)) source

/-- What is shown to the user for one finding. -/
structure Report where
  message : String
  code : Option String := none
  help : Option String := none
  labels : List Label := []
  /-- The source to quote lines from. -/
  source : Option String := none
  cause : Option String := none
  deriving DecidableEq, Repr

def Failure.reports : Failure → List Report
  | file fault => [{
      message := (file fault).message
      code := some "bemtype::io"
      cause := some fault.message }]
  | source diagnostics text => diagnostics.map fun d => {
      message := d.message
      code := d.code.map (·.text)
      help := d.help
      labels := d.labels
      source := some text }
  | configuration reason => [{
      message := (configuration reason).message
      code := some "bemtype::config"
      help := some "check the [output] table of the configuration file" }]

end BemNotation
