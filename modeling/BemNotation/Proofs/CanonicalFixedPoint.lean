import BemNotation.Declaration.Printer
import BemNotation.Failure
import BemNotation.Proofs.CanonicalText
import BemNotation.Proofs.SmallForms

/-!
Canonical text as a fixed point. It can be read whenever the text that it comes from
can, and the block read from it differs in the spelling of its own name only, which is
in param case already. So nothing that is written of a block changes when it is written
of its canonical text instead.
-/

namespace BemNotation

open Source

theorem Block.paramName_canonical (b : Block) : b.canonical.paramName = b.paramName :=
  Naming.paramCase_paramCase b.name

theorem Block.render_canonical (b : Block) (separator : String) :
    b.canonical.render separator = b.render separator := by
  have hlines : b.canonical.lines = b.lines := by
    rw [lines, paramName_canonical]
    rfl
  rw [render, hlines]
  rfl

theorem Block.declaration_canonical (b : Block) : b.canonical.declaration = b.declaration := by
  rw [declaration, paramName_canonical]
  rfl

/-- What is read from a text can be written again. -/
theorem Block.wellFormed_of_readBlock (source : String) (b : Block)
    (h : readBlock source = .ok b) : b.WellFormed := by
  obtain ⟨hreads, hnamed⟩ := (readBlock_eq_ok source b).mp h
  have hnames := hreads.isName
  exact ⟨hnamed, fun e he => (hnames e (List.mem_cons_of_mem _ he)).1.2,
    fun e he m hm => ((hnames e he).2 m hm).2⟩

theorem Block.WellFormed.readBlock_render (b : Block) (h : b.WellFormed) (separator : String)
    (hseparator : IsLayout separator.toList) (hbreak : '\n' ∈ separator.toList) :
    readBlock (b.render separator) = .ok b.canonical := by
  rw [readBlock_eq_ok]
  exact ⟨reads_render b separator hseparator hbreak h.isName,
    b.wellNamed_canonical_iff.mpr h.toWellNamed⟩

theorem LineBreak.isLayout_separator (l : LineBreak) :
    IsLayout l.separator.toList ∧ '\n' ∈ l.separator.toList := by
  cases l with
  | native => exact ⟨.lineFeed .nil, by decide⟩
  | lf => exact ⟨.lineFeed .nil, by decide⟩
  | crlf => exact ⟨.carriageReturn .nil, by decide⟩

theorem Block.parse_eq_ok_iff (source : String) (b : Block) :
    Block.parse source = .ok b ↔ readBlock source = .ok b := by
  unfold Block.parse
  cases readBlock source <;> simp [Except.mapError]

/-- The canonical text of a block that was read can be read as well, whatever the layout
it is written in, and both the text and the declaration written from there on are those
of the block itself, in every layout. -/
theorem parse_render_of_parse (source : String) (b : Block) (h : Block.parse source = .ok b)
    (l : Layout) :
    ∃ c, Block.parse (l.renderBem b) = .ok c ∧
      ∀ l' : Layout, l'.renderBem c = l'.renderBem b ∧ l'.renderTypes c = l'.renderTypes b := by
  have hformed := b.wellFormed_of_readBlock source ((b.parse_eq_ok_iff source).mp h)
  obtain ⟨hseparator, hbreak⟩ := l.lineBreak.isLayout_separator
  have hread := hformed.readBlock_render b l.lineBreak.separator hseparator hbreak
  refine ⟨b.canonical, (Block.parse_eq_ok_iff _ _).mpr hread, fun l' => ⟨?_, ?_⟩⟩
  · exact b.render_canonical l'.lineBreak.separator
  · exact congrArg l'.print b.declaration_canonical

/-- A name with a final sigma and a dotted capital, and others that keep their capitals. -/
theorem parse_render_of_parse_odos :
    let source := "\tΟΔΟΣİ2Go[XL]\r\nSubmit_Ǆ"
    let b : Block := ⟨"ΟΔΟΣİ2Go", [⟨"Submit_Ǆ", []⟩], ["XL"]⟩
    let l : Layout := { lineBreak := .crlf }
    Block.parse source = .ok b ∧
      ∃ c, Block.parse (l.renderBem b) = .ok c ∧
        ∀ l' : Layout, l'.renderBem c = l'.renderBem b ∧ l'.renderTypes c = l'.renderTypes b := by
  intro source b l
  have hparse : Block.parse source = .ok b := by decide +kernel
  exact ⟨hparse, parse_render_of_parse source b hparse l⟩

end BemNotation
