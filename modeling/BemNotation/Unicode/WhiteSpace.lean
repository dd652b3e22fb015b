import BemNotation.Unicode.Run

/-!
Blank characters: spaces of every width, tabs and line separators.
-/

namespace BemNotation.Unicode

def whiteSpace : Table where
  runs := [
    ⟨0x09, 0x0D, 1⟩, ⟨0x20, 0x20, 1⟩, ⟨0x85, 0x85, 1⟩, ⟨0xA0, 0xA0, 1⟩, ⟨0x1680, 0x1680, 1⟩,
    ⟨0x2000, 0x200A, 1⟩, ⟨0x2028, 0x2029, 1⟩, ⟨0x202F, 0x202F, 1⟩, ⟨0x205F, 0x205F, 1⟩,
    ⟨0x3000, 0x3000, 1⟩]
  ordered := by decide +kernel

def isWhiteSpace (c : Char) : Bool :=
  whiteSpace.covers c.toNat

end BemNotation.Unicode
