import BemNotation.Command.Help
import BemNotation.Command.Run

/-!
The program from its arguments to its exit code. It ends with 0 after a run that
succeeds or an answer to a question about the program, with 1 after a run that
fails, and with 2 when the arguments are refused.
-/

namespace BemNotation.Command

def reportRecord (r : Report) : Record where
  level := .error
  source := Session.program
  message :=
    (match r.code with
      | some code => code ++ ": "
      | none => "") ++ r.message ++
    (match r.help with
      | some help => "\n  help: " ++ help
      | none => "")

def argumentsText (a : Arguments) : String :=
  "Args \x7b input: " ++ Text.quoted a.input ++ ", output: " ++ pathText a.output ++
    ", format: " ++ a.form.title ++ ", config: " ++ pathText a.config ++
    ", log_level: " ++ Text.quoted a.logLevel ++ " \x7d"

section

variable {m : Type → Type} [Monad m] (format : Data.DocumentFormat)

/-- The verbosity that the arguments ask for. An unknown word is complained about. -/
def chooseVerbosity (h : Host m) (word : String) : m Verbosity :=
  match Verbosity.ofText? word with
  | some verbosity => return verbosity
  | none => do
    h.complain ("Invalid log level: " ++ word ++ ". Using 'warn' instead.")
    return .upTo .warn

def perform (h : Host m) (systemConfig : Option String) (a : Arguments) : m UInt32 := do
  let verbosity ← chooseVerbosity h a.logLevel
  let h := h.quieted verbosity
  h.note { level := .info, source := Session.program, message := "Starting bemtype",
           details := [("log_level", verbosity.name)] }
  h.note { level := .debug, source := Session.program, message := "Parsed arguments",
           details := [("args", argumentsText a)] }
  match ← (run format h systemConfig a).run with
  | .ok () =>
    h.note { level := .info, source := Session.program, message := "Completed successfully" }
    return 0
  | .error failure =>
    failure.reports.forM fun r => h.note (reportRecord r)
    return 1

def program (h : Host m) (systemConfig : Option String) (arguments : List String) :
    m UInt32 := do
  match Arguments.parse arguments with
  | .ok a => perform format h systemConfig a
  | .error refusal =>
    match refusal with
    | .help _ => h.print refusal.message; return 0
    | .version => h.print refusal.message; return 0
    | _ => h.complain refusal.message; return 2

end

end BemNotation.Command
