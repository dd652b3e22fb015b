import BemNotation.Unicode.Run

/-!
Digraphs and letters with iota that are written as a capital followed by a
small letter. Together with the capital and the small letters they make up the
letters that have case.
-/

namespace BemNotation.Unicode

def titlecase : Table where
  runs := [
    ⟨0x1C5, 0x1C5, 1⟩, ⟨0x1C8, 0x1C8, 1⟩, ⟨0x1CB, 0x1CB, 1⟩, ⟨0x1F2, 0x1F2, 1⟩, ⟨0x1F88, 0x1F8F, 1⟩,
    ⟨0x1F98, 0x1F9F, 1⟩, ⟨0x1FA8, 0x1FAF, 1⟩, ⟨0x1FBC, 0x1FBC, 1⟩, ⟨0x1FCC, 0x1FCC, 1⟩,
    ⟨0x1FFC, 0x1FFC, 1⟩]
  ordered := by decide +kernel

def isTitlecase (c : Char) : Bool :=
  titlecase.covers c.toNat

end BemNotation.Unicode
