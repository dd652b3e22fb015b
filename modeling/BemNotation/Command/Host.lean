import BemNotation.Command.FileTree
import BemNotation.Journal

/-!
What a run asks of its surroundings: files, the two output streams and the
journal. A workspace is such surroundings as a plain value, a directory together
with all that was written to the streams so far.
-/

namespace BemNotation.Command

structure Host (m : Type → Type) where
  exists? : String → m Bool
  read : String → m (Except FileFault ByteArray)
  write : String → ByteArray → m (Except FileFault Unit)
  /-- Writes to the standard output. -/
  print : String → m Unit
  /-- Writes a line to the error output. -/
  complain : String → m Unit
  note : Record → m Unit

/-- The same surroundings, with a journal that takes only admitted records. -/
def Host.quieted {m : Type → Type} [Monad m] (h : Host m) (verbosity : Verbosity) : Host m :=
  { h with note := fun r => if verbosity.admits r.level then h.note r else pure () }

structure Workspace where
  files : FileTree
  printed : String := ""
  complaints : List String := []
  journal : List Record := []

namespace Workspace

def writeFile (w : Workspace) (path : String) (bytes : ByteArray) :
    Except FileFault Unit × Workspace :=
  match w.files.write path bytes with
  | .ok files => (.ok (), { w with files := files })
  | .error fault => (.error fault, w)

def host : Host (StateM Workspace) where
  exists? path := fun w => (w.files.exists? path, w)
  read path := fun w => (w.files.read path, w)
  write path bytes := fun w => w.writeFile path bytes
  print s := fun w => ((), { w with printed := w.printed ++ s })
  complain s := fun w => ((), { w with complaints := w.complaints ++ [s] })
  note r := fun w => ((), { w with journal := w.journal ++ [r] })

end Workspace

end BemNotation.Command
