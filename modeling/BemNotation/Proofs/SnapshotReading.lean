import BemNotation.Command.Run
import BemNotation.Proofs.BlockRecord
import BemNotation.Proofs.DocumentLines
import BemNotation.Proofs.DocumentWriting

/-!
Reading back the document of a block. A format that keeps to the grammar writes the plain
values of the block before the first header, so they stay with the block, and what follows a
header goes to the table that it opens. The document therefore holds the block with all its
elements in order, and the block is read from it again.
-/

namespace BemNotation

namespace Toml

open Data

/-- The entries of a table that an element opens. -/
def elementEntries (e : Element) : Entries :=
  [("name", .leaf (.text e.name)), ("modifiers", .leaf (.texts e.modifiers))]

section Rows

variable (b : Block) (rows : List Entries)

/-- The entries of a block, with tables for some of its elements. -/
def rowsEntries : Entries :=
  [("name", .leaf (.text b.name)), ("modifiers", .leaf (.texts b.modifiers)),
    ("elements", .rows rows)]

theorem add_rowHeader (here : List String) :
    Document.add ⟨rowsEntries b rows, here⟩ (.rowHeader ⟨[], "elements"⟩) =
      some ⟨rowsEntries b (rows ++ [[]]), ["elements"]⟩ := rfl

/-- After a header, an entry goes to the last table and to no other. -/
theorem add_assignment (row row' : Entries) (name : String) (v : Value)
    (h : assign ⟨[], name⟩ v row = some row') :
    Document.add ⟨rowsEntries b (rows ++ [row]), ["elements"]⟩ (.assignment ⟨[], name⟩ v) =
      some ⟨rowsEntries b (rows ++ [row']), ["elements"]⟩ := by
  have hlookup : (rowsEntries b (rows ++ [row])).lookup "elements" = some (.rows (rows ++ [row])) :=
    rfl
  simp only [Document.add, changeAt, hlookup, List.getLast?_concat, List.dropLast_concat, h]
  rfl

theorem foldlM_elementStatements (e : Element) (here : List String) :
    (elementStatements e).foldlM Document.add ⟨rowsEntries b rows, here⟩ =
      some ⟨rowsEntries b (rows ++ [elementEntries e]), ["elements"]⟩ := by
  have hname := add_assignment b rows [] [("name", .leaf (.text e.name))] "name" (.text e.name) rfl
  have hmodifiers := add_assignment b rows [("name", .leaf (.text e.name))] (elementEntries e)
    "modifiers" (.texts e.modifiers) rfl
  unfold elementStatements
  rw [List.foldlM_cons, add_rowHeader]
  change List.foldlM _ _ _ = _
  rw [List.foldlM_cons, hname]
  change List.foldlM _ _ _ = _
  rw [List.foldlM_cons, hmodifiers]
  rfl

theorem foldlM_flatMap_elementStatements (es : List Element) (here : List String) :
    ∃ last, (es.flatMap elementStatements).foldlM Document.add ⟨rowsEntries b rows, here⟩ =
      some ⟨rowsEntries b (rows ++ es.map elementEntries), last⟩ := by
  induction es generalizing rows here with
  | nil => exact ⟨here, by simp⟩
  | cons e es ih =>
    obtain ⟨last, hlast⟩ := ih (rows ++ [elementEntries e]) ["elements"]
    refine ⟨last, ?_⟩
    rw [List.flatMap_cons, List.foldlM_append, foldlM_elementStatements]
    simpa using hlast

end Rows

/-- The table that the document of a block defines. -/
def documentOf (b : Block) : List (String × Value) :=
  ("name", .text b.name) ::
    if b.elements.isEmpty then [("elements", .list []), ("modifiers", .texts b.modifiers)]
    else
      [("modifiers", .texts b.modifiers), ("elements", .list (b.elements.map Element.toValue))]

theorem rowValues_map (es : List Element) :
    rowValues (es.map elementEntries) = es.map Element.toValue := by
  induction es with
  | nil => rfl
  | cons e es ih =>
    rw [List.map_cons, rowValues, ih]
    rfl

theorem documentTable?_blockStatements (b : Block) :
    documentTable? (blockStatements b) = some (documentOf b) := by
  cases helements : b.elements with
  | nil =>
    simp only [blockStatements, documentOf, helements]
    rfl
  | cons e es =>
    -- The first element opens the rows, and the others go on from there.
    obtain ⟨last, hlast⟩ := foldlM_flatMap_elementStatements b [elementEntries e] es ["elements"]
    have hfold : (blockStatements b).foldlM Document.add {} =
        some ⟨rowsEntries b (b.elements.map elementEntries), last⟩ := by
      unfold blockStatements
      rw [helements, List.flatMap_cons]
      exact hlast
    unfold documentTable? documentOf
    rw [hfold, ← rowValues_map, helements]
    rfl

theorem lookup_documentOf (b : Block) (name : String) :
    (documentOf b).lookup name = b.record.lookup name := by
  unfold documentOf Block.record
  cases b.elements with
  | nil => rfl
  | cons e es =>
    simp only [List.isEmpty_cons, Bool.false_eq_true, if_false, List.lookup_cons]
    by_cases hmodifiers : name = "modifiers"
    · subst hmodifiers
      rfl
    · rw [beq_false_of_ne hmodifiers]

end Toml

open Command Data Toml

/-- The document that is written for a block is read as that block, by every format that keeps
to the grammar, spells texts between double quotes and writes plain values first. In the
document the modifiers of the block are an entry of its own table, and each element is a table
in the list of them, in order, with its own modifiers. -/
theorem read_snapshot (format : DocumentFormat) (Spells : String → List Char → Prop)
    (hreads : ReadsDocuments format) (hwrites : WritesRecords format)
    (hplain : WritesPlainFirst format Spells) (hbasic : SpellsBasic Spells) (l : Layout)
    (b : Block) :
    ∃ text ss table, Form.snapshot.render format l b = .ok text ∧
      DocumentText BasicText ss text.toList ∧ documentTable? ss = some table ∧
      format.read Block.ofValue? text = .ok b ∧
      table.lookup "name" = some (.text b.name) ∧
      table.lookup "modifiers" = some (.list (b.modifiers.map .text)) ∧
      table.lookup "elements" = some (.list (b.elements.map fun e =>
        .table [("name", .text e.name), ("modifiers", .list (e.modifiers.map .text))])) := by
  obtain ⟨text, hwrite⟩ := hwrites b.record (isRecord_record b)
  have hrender : Form.snapshot.render format l b = .ok text := by
    change (format.write (.table b.record)).mapError _ = _
    rw [hwrite]
    rfl
  have hdocument := hplain b.record text (isRecord_record b) hwrite
  rw [recordStatements_record] at hdocument
  have hbasicDocument := hdocument.mono hbasic
  have htable := documentTable?_blockStatements b
  have hread := hreads _ _ text hbasicDocument htable Block.ofValue? b fun convention v hv =>
    ofValue?_of_reordered b convention v (hv.of_lookup_eq _ _ _ (lookup_documentOf b))
  refine ⟨text, _, _, hrender, hbasicDocument, htable, hread, rfl, ?_, ?_⟩
  · unfold documentOf
    cases b.elements <;> rfl
  · unfold documentOf
    cases b.elements <;> rfl

/-- A name that needs an escape, and modifiers that take several lines before the first header. -/
theorem read_snapshot_tab :
    let b : Block := ⟨"tab\t", [⟨"icon", []⟩, ⟨"Ǆ", ["on"]⟩], ["a", "\""]⟩
    ReadsDocuments format ∧ WritesRecords format ∧ WritesPlainFirst format SpellsAsWritten ∧
      SpellsBasic SpellsAsWritten ∧
      ∃ text ss table, Form.snapshot.render format {} b = .ok text ∧
        DocumentText BasicText ss text.toList ∧ documentTable? ss = some table ∧
        format.read Block.ofValue? text = .ok b ∧
        table.lookup "modifiers" = some (.list [.text "a", .text "\""]) ∧
        text = "name = \"tab\\t\"\nmodifiers = [\n    \"a\",\n    \"\\\"\",\n]\n\n" ++
          "[[elements]]\nname = \"icon\"\nmodifiers = []\n\n" ++
          "[[elements]]\nname = \"Ǆ\"\nmodifiers = [\"on\"]\n" := by
  intro b
  obtain ⟨text, ss, table, hrender, hdocument, htable, hread, -, hmodifiers, -⟩ :=
    read_snapshot format SpellsAsWritten readsDocuments_format writesRecords_format
      writesPlainFirst_format spellsBasic_asWritten {} b
  refine ⟨readsDocuments_format, writesRecords_format, writesPlainFirst_format,
    spellsBasic_asWritten, text, ss, table, hrender, hdocument, htable, hread, hmodifiers, ?_⟩
  refine Except.ok.inj (hrender.symm.trans ?_)
  decide +kernel

end BemNotation
