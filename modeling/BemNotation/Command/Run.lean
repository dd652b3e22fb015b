import BemNotation.Command.Arguments
import BemNotation.Command.Host
import BemNotation.Data.Record
import BemNotation.Declaration.Printer
import BemNotation.Session

/-!
A run of the program: the layout is looked up, the input is read and its block is
written in the form asked for. The first step that fails ends the run, and only
the last step writes anything. Configuration files and snapshots are documents of
one format, which the program is given.
-/

namespace BemNotation.Command

open Data (DocumentFormat)

/-- The part of the program that runs. -/
def runner : String := "bemtype_cli"

/-- The part that looks up the configuration. -/
def configurer : String := "bemtype_cli::config"

/-- The configuration file of a project, from its directory. -/
def projectConfig : String := "bemtype/config.toml"

inductive ConfigFault where
  | missing (path : String)
  | illFormed (path reason : String)
  deriving DecidableEq, Repr

def ConfigFault.message : ConfigFault → String
  | missing path => "Missing configuration file: " ++ path
  | illFormed path reason => "Failed to parse TOML configuration " ++ path ++ ": " ++ reason

def configuredLayout (format : DocumentFormat) (path text : String) : Except Failure Layout :=
  (format.read Layout.ofDocument? text).mapError fun reason =>
    .configuration (ConfigFault.illFormed path reason).message

def Form.render (format : DocumentFormat) (form : Form) (layout : Layout) (b : Block) :
    Except Failure String :=
  match form with
  | types => .ok (layout.renderTypes b)
  | bem => .ok (layout.renderBem b)
  | snapshot => (format.write b.toValue).mapError fun reason => .file (.other reason)

def Form.records (form : Form) (b : Block) : List Record :=
  match form with
  | types => Session.declarationRecords b
  | bem => Session.renderingRecords b
  | snapshot => []

def Form.title : Form → String
  | types => "Types"
  | bem => "Bem"
  | snapshot => "Snapshot"

def pathText : Option String → String
  | none => "None"
  | some path => "Some(" ++ Text.quoted path ++ ")"

section

variable {m : Type → Type} [Monad m] (format : DocumentFormat)

abbrev Step (m : Type → Type) := ExceptT Failure m

def orFile {α : Type} (action : m (Except FileFault α)) : Step m α :=
  ExceptT.mk do
    match ← action with
    | .ok a => return .ok a
    | .error fault => return .error (.file fault)

def ofResult {α : Type} (result : Except Failure α) : Step m α :=
  ExceptT.mk (pure result)

def readText (h : Host m) (path : String) : Step m String := do
  let bytes ← orFile (h.read path)
  orFile (pure (FileTree.decode bytes))

def loadFile (h : Host m) (path : String) : Step m Layout := do
  if ← h.exists? path then
    let text ← readText h path
    ofResult (configuredLayout format path text)
  else throw (.configuration (ConfigFault.missing path).message)

private def loading (place path : String) : Record where
  level := .info
  source := configurer
  message := "Loading configuration from " ++ place ++ " path"
  details := [("path", path)]

private def lookup (message : String) (details : List (String × String)) : Record where
  level := .debug
  source := configurer
  message := message
  details := details

/-- The layout of the file that the user named, else of the file of the project,
else of the file of the system, else the default. A file that exists decides. -/
def loadLayout (h : Host m) (systemConfig explicit : Option String) : Step m Layout := do
  match explicit with
  | some path =>
    h.note (loading "explicit" path)
    loadFile format h path
  | none =>
    if ← h.exists? projectConfig then
      h.note (loading "local" projectConfig)
      return ← loadFile format h projectConfig
    match systemConfig with
    | some path =>
      if ← h.exists? path then
        h.note (loading "system" path)
        return ← loadFile format h path
      h.note (lookup "System configuration file not found" [("path", path)])
    | none => h.note (lookup "Could not determine platform-specific config directory" [])
    h.note (lookup "No configuration file found, using default configuration" [])
    return {}

private def opening (a : Arguments) : Record where
  level := .info
  source := runner
  message := "Processing block"
  details := [("input_path", a.input), ("output_path", pathText a.output),
    ("format", a.form.title)]

private def written (path : String) : Record where
  level := .info
  source := runner
  message := "Output written"
  details := [("output_file", path)]

def run (h : Host m) (systemConfig : Option String) (a : Arguments) : Step m Unit := do
  h.note (opening a)
  let layout ← loadLayout format h systemConfig a.config
  let text ← readText h a.input
  (Session.readingRecords text).forM (h.note ·)
  let b ← ofResult (Block.parse text)
  (a.form.records b).forM (h.note ·)
  let out ← ofResult (a.form.render format layout b)
  match a.output with
  | none => h.print out
  | some path =>
    orFile (h.write path out.toUTF8)
    h.note (written path)

end

end BemNotation.Command
