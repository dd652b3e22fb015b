import BemNotation.Toml.Reader
import BemNotation.Toml.Writer

/-!
Configuration documents as a format.
-/

namespace BemNotation.Toml

def format : Data.DocumentFormat where
  read := read
  write := write

end BemNotation.Toml
