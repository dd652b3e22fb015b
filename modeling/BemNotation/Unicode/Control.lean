/-!
Control characters: the first 32 code points, the delete character and the 32
code points after it.
-/

namespace BemNotation.Unicode

def isControl (c : Char) : Bool :=
  c.toNat < 0x20 || (0x7F ≤ c.toNat && c.toNat < 0xA0)

end BemNotation.Unicode
