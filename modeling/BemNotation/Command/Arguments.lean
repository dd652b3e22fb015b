/-!
Command line arguments. Options take a value, attached to them or in the next
argument; all other arguments are the one input path. A value that stands alone
is settled only when the next option or path comes, so an unknown argument is
reported in preference to a bad value just before it.
-/

namespace BemNotation.Command

/-- What is written for a block. -/
inductive Form where
  /-- The type declaration. -/
  | types
  /-- The canonical notation. -/
  | bem
  /-- The block itself, as a document. -/
  | snapshot
  deriving DecidableEq, Repr

namespace Form

def name : Form → String
  | types => "types"
  | bem => "bem"
  | snapshot => "snapshot"

def all : List Form :=
  [types, bem, snapshot]

def ofName? (s : String) : Option Form :=
  all.find? (·.name == s)

end Form

structure Arguments where
  input : String
  output : Option String := none
  form : Form := .types
  config : Option String := none
  logLevel : String := "warn"
  deriving DecidableEq, Repr

/-- Why no run follows from the arguments. -/
inductive Refusal where
  | unknownArgument (argument : String)
  /-- A value that an option does not take, or no value at all. -/
  | invalidValue (option : String)
  | repeatedOption (option : String)
  /-- A value for an option that takes none. -/
  | unneededValue (option : String)
  | missingInput
  /-- The user asked for help, in full or in short. -/
  | help (full : Bool)
  /-- The user asked for the version. -/
  | version
  deriving DecidableEq, Repr

/-- What an argument can set. -/
inductive Slot where
  | input
  | output
  | form
  | config
  | logLevel
  deriving DecidableEq, Repr

namespace Slot

def label : Slot → String
  | input => "<INPUT>"
  | output => "--output <OUTPUT>"
  | form => "--format <FORMAT>"
  | config => "--config <CONFIG>"
  | logLevel => "--log-level <LOG_LEVEL>"

def ofLong? (name : List Char) : Option Slot :=
  if name = "output".toList then some output
  else if name = "format".toList then some form
  else if name = "config".toList then some config
  else if name = "log-level".toList then some logLevel
  else none

def ofShort? (c : Char) : Option Slot :=
  if c = 'o' then some output
  else if c = 'f' then some form
  else if c = 'c' then some config
  else none

end Slot

structure Settings where
  input : Option String := none
  output : Option String := none
  form : Option Form := none
  config : Option String := none
  logLevel : Option String := none
  deriving DecidableEq, Repr

/-- Sets a slot that is still free. -/
def Settings.set (s : Settings) (slot : Slot) (value : String) : Except Refusal Settings :=
  let once {α : Type} (old : Option α) (next : Except Refusal Settings) :=
    if old.isSome then .error (.repeatedOption slot.label) else next
  match slot with
  | .input => once s.input (.ok { s with input := some value })
  | .output => once s.output (.ok { s with output := some value })
  | .config => once s.config (.ok { s with config := some value })
  | .logLevel => once s.logLevel (.ok { s with logLevel := some value })
  | .form => once s.form (
      match Form.ofName? value with
      | some form => .ok { s with form := some form }
      | none => .error (.invalidValue slot.label))

/-- Arguments read in part. -/
structure Progress where
  settings : Settings := {}
  /-- A slot that is not settled yet, and its value if that has come. -/
  pending : Option (Slot × Option String) := none
  inputSeen : Bool := false
  /-- Whether every argument to come is a path. -/
  pathsOnly : Bool := false
  deriving DecidableEq, Repr

def Progress.settle (p : Progress) : Except Refusal Progress :=
  match p.pending with
  | none => .ok p
  | some (slot, none) => .error (.invalidValue slot.label)
  | some (slot, some value) => do
    return { p with settings := ← p.settings.set slot value, pending := none }

/-- An option with the value attached to it, or waiting for one. -/
def Progress.takeOption (p : Progress) (slot : Slot) (attached : Option String) :
    Except Refusal Progress := do
  let p ← p.settle
  match attached with
  | some value => return { p with settings := ← p.settings.set slot value }
  | none => return { p with pending := some (slot, none) }

/-- An argument that is asked for instead of a run. -/
def Progress.interrupt (p : Progress) (refusal : Refusal) : Except Refusal Progress := do
  let _ ← p.settle
  .error refusal

def Progress.takeLong (p : Progress) (cs : List Char) : Except Refusal Progress :=
  let name := cs.takeWhile (· != '=')
  let attached := (cs.drop name.length).tail?.map String.ofList
  match Slot.ofLong? name with
  | some slot => p.takeOption slot attached
  | none =>
    let label := String.ofList ('-' :: '-' :: name)
    if name = "help".toList || name = "version".toList then
      if attached.isSome then .error (.unneededValue label)
      else p.interrupt (if name = "help".toList then .help true else .version)
    else .error (.unknownArgument label)

def Progress.takeShort (p : Progress) (c : Char) (cs : List Char) : Except Refusal Progress :=
  let attached :=
    match cs with
    | [] => none
    | '=' :: value => some (String.ofList value)
    | value => some (String.ofList value)
  match Slot.ofShort? c with
  | some slot => p.takeOption slot attached
  | none =>
    if c = 'h' then p.interrupt (.help false)
    else if c = 'V' then p.interrupt .version
    else .error (.unknownArgument (String.ofList ['-', c]))

/-- An argument that is no option: the input path, if there is none yet. -/
def Progress.takePath (p : Progress) (argument : String) : Except Refusal Progress :=
  if p.inputSeen then .error (.unknownArgument argument)
  else do
    let p ← p.settle
    return { p with pending := some (.input, some argument), inputSeen := true }

def Progress.take (p : Progress) (argument : String) : Except Refusal Progress :=
  if p.pathsOnly then p.takePath argument
  else
    match argument.toList with
    | ['-', '-'] => .ok { p with pathsOnly := true }
    | '-' :: '-' :: cs => p.takeLong cs
    | '-' :: c :: cs => p.takeShort c cs
    | _ =>
      match p.pending with
      | some (slot, none) => .ok { p with pending := some (slot, some argument) }
      | _ => p.takePath argument

def Arguments.parse (arguments : List String) : Except Refusal Arguments := do
  let p ← arguments.foldlM Progress.take {}
  let s := (← p.settle).settings
  match s.input with
  | none => .error .missingInput
  | some input =>
    let default : Arguments := { input := input }
    return {
      input := input
      output := s.output
      form := s.form.getD default.form
      config := s.config
      logLevel := s.logLevel.getD default.logLevel }

end BemNotation.Command
