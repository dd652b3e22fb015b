import BemNotation.Failure

/-!
The files and directories of a system, and the directory that work is done in.
A path is walked name by name, from the root when it starts with a slash and from
the working directory otherwise. Writing replaces a whole file or makes a new one,
in a directory that is there already.
-/

namespace BemNotation.Command

open Naming (extendFirst)

/-- The names that lead from the root to a file or directory. -/
abbrev Location := List String

inductive Node where
  | file (bytes : ByteArray)
  | directory

instance : DecidableEq Node
  | .file a, .file b =>
    match ByteArray.decEq a b with
    | isTrue h => isTrue (congrArg Node.file h)
    | isFalse h => isFalse fun heq => h (Node.file.inj heq)
  | .directory, .directory => isTrue rfl
  | .file _, .directory => isFalse nofun
  | .directory, .file _ => isFalse nofun

/-- Files and directories by location. The directories around them are implied. -/
structure FileTree where
  entries : List (Location × Node) := []
  /-- The working directory. -/
  here : Location := []

def longestPath : Nat := 4095

def longestName : Nat := 255

namespace FileTree

def node? (t : FileTree) (location : Location) : Option Node :=
  match t.entries.lookup location with
  | some node => some node
  | none =>
    if location.isPrefixOf t.here || t.entries.any (fun e => location.isPrefixOf e.1) then
      some .directory
    else none

def set (t : FileTree) (location : Location) (bytes : ByteArray) : FileTree :=
  { t with entries := (location, .file bytes) :: t.entries.filter (·.1 != location) }

/-- Follows names from a location. Each of them is looked up in a directory, and a
name of dots stands for that directory or the one above it. Nothing is above the root. -/
def walk (t : FileTree) (base : Location) : List String → Except FileFault Location
  | [] => .ok base
  | name :: names =>
    match t.node? base with
    | none => .error .notFound
    | some (.file _) => .error .notADirectory
    | some .directory =>
      if name = "." then t.walk base names
      else if name = ".." then t.walk base.dropLast names
      else if longestName < name.utf8ByteSize then .error .nameTooLong
      else t.walk (base ++ [name]) names

def start (t : FileTree) (path : String) : Location :=
  if path.toList.head? = some '/' then [] else t.here

/-- A path with a slash at its end can only be that of a directory. -/
def endsInSlash (path : String) : Bool := path.toList.getLast? = some '/'

def betweenSlashes : List Char → List (List Char)
  | [] => [[]]
  | c :: cs => if c = '/' then [] :: betweenSlashes cs else extendFirst c (betweenSlashes cs)

/-- The names of a path, in order. Any number of slashes stand between two names. -/
def pathNames (path : String) : Except FileFault (List String) :=
  if path.toList.contains '\x00' then .error .badPath
  else if path.isEmpty then .error .notFound
  else if longestPath < path.utf8ByteSize then .error .nameTooLong
  else .ok (((betweenSlashes path.toList).filter (!·.isEmpty)).map String.ofList)

/-- The location that a path leads to. Unless a slash follows the last name, there
may be nothing at the location. -/
def locate (t : FileTree) (path : String) : Except FileFault Location := do
  let names ← pathNames path
  t.walk (t.start path) (if endsInSlash path then names ++ ["."] else names)

def exists? (t : FileTree) (path : String) : Bool :=
  match t.locate path with
  | .ok location => (t.node? location).isSome
  | .error _ => false

def read (t : FileTree) (path : String) : Except FileFault ByteArray := do
  match t.node? (← t.locate path) with
  | some (.file bytes) => return bytes
  | some .directory => .error .isADirectory
  | none => .error .notFound

def decode (bytes : ByteArray) : Except FileFault String :=
  match String.fromUTF8? bytes with
  | some s => .ok s
  | none => .error .notText

def target (t : FileTree) (path : String) : Except FileFault Location := do
  let names ← pathNames path
  match names.getLast? with
  | none => .error .isADirectory
  | some name =>
    let directory ← t.walk (t.start path) (names.dropLast ++ ["."])
    if name = "." || name = ".." || endsInSlash path then .error .isADirectory
    else if longestName < name.utf8ByteSize then .error .nameTooLong
    else
      match t.node? (directory ++ [name]) with
      | some .directory => .error .isADirectory
      | _ => return directory ++ [name]

def write (t : FileTree) (path : String) (bytes : ByteArray) : Except FileFault FileTree := do
  return t.set (← t.target path) bytes

end FileTree

end BemNotation.Command
