import BemNotation.Unicode.Run

/-!
Characters that are meant to be left out of what is drawn when nothing is known of
them: joiners, variation selectors and the letters that fill an empty place in a
Hangul syllable.
-/

namespace BemNotation.Unicode

def defaultIgnorable : Table where
  runs := [
    ⟨0xAD, 0xAD, 1⟩, ⟨0x34F, 0x34F, 1⟩, ⟨0x61C, 0x61C, 1⟩, ⟨0x115F, 0x1160, 1⟩,
    ⟨0x17B4, 0x17B5, 1⟩, ⟨0x180B, 0x180F, 1⟩, ⟨0x200B, 0x200F, 1⟩, ⟨0x202A, 0x202E, 1⟩,
    ⟨0x2060, 0x206F, 1⟩, ⟨0x3164, 0x3164, 1⟩, ⟨0xFE00, 0xFE0F, 1⟩, ⟨0xFEFF, 0xFEFF, 1⟩,
    ⟨0xFFA0, 0xFFA0, 1⟩, ⟨0xFFF0, 0xFFF8, 1⟩, ⟨0x1BCA0, 0x1BCA3, 1⟩, ⟨0x1D173, 0x1D17A, 1⟩,
    ⟨0xE0000, 0xE0FFF, 1⟩]
  ordered := by decide +kernel

def isDefaultIgnorable (c : Char) : Bool :=
  defaultIgnorable.covers c.toNat

end BemNotation.Unicode
