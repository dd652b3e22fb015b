import BemNotation.Command.Program
import BemNotation.Toml

/-!
The program on a real system: files of the file system, the standard streams, and
the configuration directory of the user.
-/

namespace BemNotation.Command

/-- The number of a system error without its sign, which only some calls set. -/
private def errorNumber (code : UInt32) : UInt32 :=
  if code < 0x80000000 then code else 0 - code

private def faultOf (e : IO.Error) : FileFault :=
  match e with
  | .noFileOrDirectory .. => .notFound
  | .inappropriateType _ code _ =>
    if errorNumber code = 20 then .notADirectory else .isADirectory
  | .invalidArgument _ code _ =>
    if errorNumber code = 36 then .nameTooLong else .badPath
  | .permissionDenied .. => .other "Permission denied (os error 13)"
  | e => .other (toString e)

private def attempt {α : Type} (action : IO α) : IO (Except FileFault α) := do
  try
    return .ok (← action)
  catch e =>
    return .error (faultOf e)

private def systemHost : Host IO where
  exists? path := do
    match ← attempt (IO.FS.Handle.mk path .read) with
    | .ok _ => return true
    | .error (.other _) => return true
    | .error fault => return fault = .isADirectory
  read path := attempt (IO.FS.readBinFile path)
  write path bytes := attempt (IO.FS.writeBinFile path bytes)
  print s := do
    let out ← IO.getStdout
    out.putStr s
    out.flush
  complain s := IO.eprintln s
  note r := IO.eprintln r.text

/-- The configuration file of the user, in the directory set for such files or in
its usual place. -/
private def userConfig : IO (Option String) := do
  let place (directory : String) : String := directory ++ "/bemtype/config.toml"
  match ← IO.getEnv "XDG_CONFIG_HOME" with
  | some directory =>
    if directory.toList.head? = some '/' then return some (place directory)
  | none => pure ()
  return (← IO.getEnv "HOME").map fun home => place (home ++ "/.config")

end BemNotation.Command

open BemNotation BemNotation.Command in
def main (arguments : List String) : IO UInt32 := do
  program Toml.format systemHost (← userConfig) arguments
