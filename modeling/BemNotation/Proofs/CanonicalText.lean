import BemNotation.Proofs.NotationReading
import BemNotation.Proofs.ParamCase

/-!
Canonical text and what is read from it. A block is written one entry a line, with
any separator of blanks and line breaks in between, and it is read back unchanged
but for its own name in param case exactly when it is well formed: every name can
be written, and all of them stay apart.
-/

namespace BemNotation

open Naming (paramCase)

/-- A block whose names can be written and told apart again. -/
structure Block.WellFormed (b : Block) : Prop extends b.WellNamed where
  element_chars : ∀ e ∈ b.elements, ∀ c ∈ e.name.toList, Source.isNameChar c = true
  modifier_chars : ∀ e ∈ b.entries, ∀ m ∈ e.modifiers, ∀ c ∈ m.toList, Source.isNameChar c = true

/-- The block with its name in param case. -/
def Block.canonical (b : Block) : Block :=
  { b with name := b.paramName }

theorem Block.entries_canonical (b : Block) :
    b.canonical.entries = ⟨b.paramName, b.modifiers⟩ :: b.elements := by
  simp only [Block.entries, canonical]

theorem Block.elements_canonical (b : Block) : b.canonical.elements = b.elements := by
  simp only [canonical]

theorem Block.lines_eq_map (b : Block) :
    b.lines = b.canonical.entries.map fun e => entryChars e.name e.modifiers := by
  rw [entries_canonical, List.map_cons]
  rfl

namespace Source

/-- Text of blanks and line breaks. A carriage return needs a line feed after it. -/
inductive IsLayout : List Char → Prop
  | nil : IsLayout []
  | space {c : Char} {cs : List Char} (hc : isSpace c = true) (hcs : IsLayout cs) :
      IsLayout (c :: cs)
  | lineFeed {cs : List Char} (hcs : IsLayout cs) : IsLayout ('\n' :: cs)
  | carriageReturn {cs : List Char} (hcs : IsLayout cs) : IsLayout ('\r' :: '\n' :: cs)

theorem ne_lineBreak_of_isSpace (c : Char) (h : isSpace c = true) : c ≠ '\n' ∧ c ≠ '\r' := by
  simp only [isSpace, Bool.and_eq_true, bne_iff_ne] at h
  exact ⟨h.1.2, h.2⟩

theorem pieces_cons (c : Char) (cs : List Char) (hfeed : c ≠ '\n') (hreturn : c ≠ '\r') :
    pieces (c :: cs) = Naming.extendFirst c (pieces cs) := by
  rw [pieces] <;> simp_all

/-- Text without line breaks belongs to the piece that follows it. -/
theorem pieces_append (text cs first : List Char) (rest : List (List Char))
    (htext : ∀ c ∈ text, c ≠ '\n' ∧ c ≠ '\r') (hcs : pieces cs = first :: rest) :
    pieces (text ++ cs) = (text ++ first) :: rest := by
  induction text with
  | nil => exact hcs
  | cons c text ih =>
    obtain ⟨hfeed, hreturn⟩ := htext c (by simp)
    rw [List.cons_append, pieces_cons c _ hfeed hreturn, ih fun d hd => htext d (by simp [hd])]
    rfl

theorem LineText.space_cons (name : List Char) (modifiers : List (List Char)) (text : List Char)
    (c : Char) (hc : isSpace c = true) (h : LineText name modifiers text) :
    LineText name modifiers (c :: text) := by
  cases h with
  | @bare before _ _ hbefore hname hafter =>
    exact LineText.bare ((isGap_cons c before).mpr ⟨hc, hbefore⟩) hname hafter
  | @listed before _ _ _ _ _ _ hbefore hname hbetween hnames hinside hafter =>
    exact LineText.listed ((isGap_cons c before).mpr ⟨hc, hbefore⟩) hname hbetween hnames
      hinside hafter

theorem LineText.append_gap (name : List Char) (modifiers : List (List Char))
    (text gap : List Char) (hgap : IsGap gap) (h : LineText name modifiers text) :
    LineText name modifiers (text ++ gap) := by
  cases h with
  | bare hbefore hname hafter =>
    simpa using LineText.bare hbefore hname (hafter.append _ _ hgap)
  | listed hbefore hname hbetween hnames hinside hafter =>
    simpa using LineText.listed hbefore hname hbetween hnames hinside (hafter.append _ _ hgap)

theorem Reads.space_extend (c : Char) (texts : List (List Char)) (es : List Element)
    (hc : isSpace c = true) (hne : texts ≠ []) (h : Reads texts es) :
    Reads (Naming.extendFirst c texts) es := by
  cases h with
  | nil => exact absurd rfl hne
  | @gap text texts es hgap hrest => exact Reads.gap ((isGap_cons c text).mpr ⟨hc, hgap⟩) hrest
  | line hline hrest => exact Reads.line (hline.space_cons _ _ _ c hc) hrest

/-- Blank lines and indentation in front of a text change nothing. -/
theorem Reads.layout_append (layout cs : List Char) (es : List Element) (hlayout : IsLayout layout)
    (hcs : Reads (pieces cs) es) : Reads (pieces (layout ++ cs)) es := by
  induction hlayout with
  | nil => exact hcs
  | @space c rest hc hrest ih =>
    obtain ⟨hfeed, hreturn⟩ := ne_lineBreak_of_isSpace c hc
    rw [List.cons_append, pieces_cons c _ hfeed hreturn]
    exact ih.space_extend c _ _ hc (pieces_ne_nil _)
  | lineFeed hrest ih => exact Reads.gap isGap_nil ih
  | carriageReturn hrest ih => exact Reads.gap isGap_nil ih

/-- A separator ends the piece before it and begins a piece after it. -/
theorem IsLayout.exists_break (layout : List Char) (h : IsLayout layout) (hbreak : '\n' ∈ layout) :
    ∃ gap rest, IsGap gap ∧ IsLayout rest ∧
      ∀ cs, ∃ after, layout ++ cs = gap ++ after ∧ pieces after = [] :: pieces (rest ++ cs) := by
  induction h with
  | nil => simp at hbreak
  | @space c layout hc hlayout ih =>
    obtain ⟨hfeed, _⟩ := ne_lineBreak_of_isSpace c hc
    have hmem : '\n' ∈ layout := by simpa [Ne.symm hfeed] using hbreak
    obtain ⟨gap, rest, hgap, hrest, hsplit⟩ := ih hmem
    refine ⟨c :: gap, rest, (isGap_cons c gap).mpr ⟨hc, hgap⟩, hrest, fun cs => ?_⟩
    obtain ⟨after, hafter, hpieces⟩ := hsplit cs
    exact ⟨after, by simp [hafter], hpieces⟩
  | @lineFeed layout hlayout ih =>
    exact ⟨[], layout, isGap_nil, hlayout, fun cs => ⟨'\n' :: (layout ++ cs), rfl, rfl⟩⟩
  | @carriageReturn layout hlayout ih =>
    exact ⟨[], layout, isGap_nil, hlayout, fun cs => ⟨'\r' :: '\n' :: (layout ++ cs), rfl, rfl⟩⟩

/-- A line that a separator ends is read before what follows the separator. -/
theorem Reads.line_append (line separator cs : List Char) (e : Element) (es : List Element)
    (hline : LineText e.name.toList (e.modifiers.map String.toList) line)
    (hunbroken : ∀ c ∈ line, c ≠ '\n' ∧ c ≠ '\r') (hseparator : IsLayout separator)
    (hbreak : '\n' ∈ separator) (hcs : Reads (pieces cs) es) :
    Reads (pieces (line ++ separator ++ cs)) (e :: es) := by
  obtain ⟨gap, rest, hgap, hrest, hsplit⟩ := hseparator.exists_break separator hbreak
  obtain ⟨after, hafter, hpieces⟩ := hsplit cs
  have hwhole : ∀ c ∈ line ++ gap, c ≠ '\n' ∧ c ≠ '\r' := by
    intro c hc
    rcases List.mem_append.mp hc with hc | hc
    · exact hunbroken c hc
    · exact ne_lineBreak_of_isSpace c (hgap c hc)
  rw [List.append_assoc, hafter, ← List.append_assoc, pieces_append _ after [] _ hwhole hpieces,
    List.append_nil]
  exact Reads.line (hline.append_gap _ _ line gap hgap) (hcs.layout_append rest cs es hrest)

theorem namesText_intercalate (names : List (List Char)) (hne : names ≠ [])
    (h : ∀ name ∈ names, IsName name) : NamesText names (List.intercalate [','] names) := by
  induction names with
  | nil => exact absurd rfl hne
  | cons name names ih =>
    have hname := h name (by simp)
    cases names with
    | nil => simpa using NamesText.last isGap_nil hname
    | cons next names =>
      have hrest := ih (by simp) fun n hn => h n (by simp [hn])
      simpa [List.intercalate_cons_cons] using NamesText.more isGap_nil hname isGap_nil hrest

/-- What is written for an entry is a line with its names. -/
theorem lineText_entryChars (e : Element) (hname : IsName e.name.toList)
    (hmodifiers : ∀ m ∈ e.modifiers, IsName m.toList) :
    LineText e.name.toList (e.modifiers.map String.toList) (entryChars e.name e.modifiers) := by
  unfold entryChars
  cases hcase : e.modifiers with
  | nil => simpa using LineText.bare isGap_nil hname isGap_nil
  | cons first rest =>
    have hnames := namesText_intercalate (e.modifiers.map String.toList) (by simp [hcase])
      (by simpa using hmodifiers)
    rw [hcase] at hnames
    simpa using LineText.listed isGap_nil hname isGap_nil hnames isGap_nil isGap_nil

theorem ne_lineBreak_of_isNameChar (c : Char) (h : isNameChar c = true) : c ≠ '\n' ∧ c ≠ '\r' := by
  constructor <;> rintro rfl <;> revert h <;> decide +kernel

theorem ne_lineBreak_of_mem_entryChars (e : Element) (hname : IsName e.name.toList)
    (hmodifiers : ∀ m ∈ e.modifiers, IsName m.toList) :
    ∀ c ∈ entryChars e.name e.modifiers, c ≠ '\n' ∧ c ≠ '\r' := by
  have hchars : ∀ c ∈ e.name.toList, c ≠ '\n' ∧ c ≠ '\r' :=
    fun c hc => ne_lineBreak_of_isNameChar c (hname.2 c hc)
  have hlist : ∀ c ∈ List.intercalate [','] (e.modifiers.map String.toList),
      c ≠ '\n' ∧ c ≠ '\r' := by
    intro c hc
    rcases Naming.mem_intercalate c _ _ hc with hc | ⟨text, htext, hc⟩
    · obtain rfl : c = ',' := by simpa using hc
      decide
    · obtain ⟨m, hm, rfl⟩ := List.mem_map.mp htext
      exact ne_lineBreak_of_isNameChar c ((hmodifiers m hm).2 c hc)
  intro c hc
  unfold entryChars at hc
  split at hc
  · exact hchars c hc
  · simp only [List.mem_append, List.mem_cons, List.not_mem_nil, or_false] at hc
    rcases hc with (hc | rfl | hc) | rfl
    · exact hchars c hc
    · decide
    · exact hlist c hc
    · decide

/-- Entries written one a line are read as they were. -/
theorem reads_flatMap_entryChars (es : List Element) (separator : List Char)
    (hseparator : IsLayout separator) (hbreak : '\n' ∈ separator)
    (hnames : ∀ e ∈ es, IsName e.name.toList ∧ ∀ m ∈ e.modifiers, IsName m.toList) :
    Reads (pieces (es.flatMap fun e => entryChars e.name e.modifiers ++ separator)) es := by
  induction es with
  | nil => exact Reads.gap isGap_nil Reads.nil
  | cons e es ih =>
    obtain ⟨hname, hmodifiers⟩ := hnames e (by simp)
    rw [List.flatMap_cons]
    exact Reads.line_append _ separator _ e es (lineText_entryChars e hname hmodifiers)
      (ne_lineBreak_of_mem_entryChars e hname hmodifiers) hseparator hbreak
      (ih fun x hx => hnames x (by simp [hx]))

end Source

open Source

theorem reads_render (b : Block) (separator : String) (hseparator : IsLayout separator.toList)
    (hbreak : '\n' ∈ separator.toList)
    (hnames : ∀ e ∈ b.canonical.entries,
      IsName e.name.toList ∧ ∀ m ∈ e.modifiers, IsName m.toList) :
    Reads (pieces (b.render separator).toList) b.canonical.entries := by
  have hreads := reads_flatMap_entryChars _ separator.toList hseparator hbreak hnames
  rw [Block.render, String.toList_ofList, Block.lines_eq_map, List.flatMap_map]
  exact hreads

theorem toList_ne_nil_of_paramCase_ne (s : String) (h : paramCase s ≠ "") : s.toList ≠ [] := by
  intro hs
  apply h
  rw [paramCase, hs]
  rfl

theorem isName_paramName (b : Block) (h : paramCase b.name ≠ "") : IsName b.paramName.toList := by
  have hchars : b.paramName.toList = Naming.paramChars b.name.toList := by
    simp [Block.paramName, paramCase]
  constructor
  · intro hnil
    apply h
    rw [hchars] at hnil
    simp [paramCase, hnil]
  · intro c hc
    rw [hchars] at hc
    rcases Naming.mem_paramChars _ c hc with rfl | hword
    · decide +kernel
    · simp [isNameChar, hword]

/-- Putting a name into param case again neither loses nor saves it. -/
theorem paramCase_paramName_ne_iff (b : Block) :
    paramCase b.paramName ≠ "" ↔ paramCase b.name ≠ "" := by
  have hchars (s : String) : paramCase s ≠ "" ↔ Naming.paramChars s.toList ≠ [] := by
    simp [paramCase]
  rw [hchars, hchars, Block.paramName, paramCase, String.toList_ofList]
  constructor
  · intro htwice honce
    exact htwice (by rw [honce]; rfl)
  · exact Naming.paramChars_paramChars_ne_nil b.name.toList

theorem Block.wellNamed_canonical_iff (b : Block) : b.canonical.WellNamed ↔ b.WellNamed := by
  have hname := paramCase_paramName_ne_iff b
  constructor
  · rintro ⟨hnames, hmodifiers, helements, hapart⟩
    rw [Block.entries_canonical, List.forall_mem_cons] at hnames hmodifiers hapart
    rw [Block.elements_canonical] at helements
    exact ⟨List.forall_mem_cons.mpr ⟨hname.mp hnames.1, hnames.2⟩,
      List.forall_mem_cons.mpr hmodifiers, helements, List.forall_mem_cons.mpr hapart⟩
  · rintro ⟨hnames, hmodifiers, helements, hapart⟩
    rw [Block.entries, List.forall_mem_cons] at hnames hmodifiers hapart
    constructor
    · rw [Block.entries_canonical, List.forall_mem_cons]
      exact ⟨hname.mpr hnames.1, hnames.2⟩
    · rw [Block.entries_canonical, List.forall_mem_cons]
      exact hmodifiers
    · rwa [Block.elements_canonical]
    · rw [Block.entries_canonical, List.forall_mem_cons]
      exact hapart

theorem Block.WellFormed.isName (b : Block) (h : b.WellFormed) :
    ∀ e ∈ b.canonical.entries, IsName e.name.toList ∧ ∀ m ∈ e.modifiers, IsName m.toList := by
  have hmodifiers : ∀ e ∈ b.entries, ∀ m ∈ e.modifiers, IsName m.toList := fun e he m hm =>
    ⟨toList_ne_nil_of_paramCase_ne m (h.modifier_ne e he m hm), h.modifier_chars e he m hm⟩
  intro e he
  rw [Block.entries_canonical] at he
  rcases List.mem_cons.mp he with rfl | he
  · have hblock := h.name_ne ⟨b.name, b.modifiers⟩ (by simp [Block.entries])
    exact ⟨isName_paramName b hblock, hmodifiers ⟨b.name, b.modifiers⟩ (by simp [Block.entries])⟩
  · have hmem : e ∈ b.entries := List.mem_cons_of_mem _ he
    exact ⟨⟨toList_ne_nil_of_paramCase_ne e.name (h.name_ne e hmem), h.element_chars e he⟩,
      hmodifiers e hmem⟩

/-- Only names that can be written are ever read. -/
theorem Block.wellFormed_of_reads (b : Block) (texts : List (List Char))
    (hreads : Reads texts b.canonical.entries) (hnamed : b.WellNamed) : b.WellFormed := by
  have hnames := hreads.isName
  rw [Block.entries_canonical, List.forall_mem_cons] at hnames
  obtain ⟨⟨_, hblock⟩, helements⟩ := hnames
  refine ⟨hnamed, fun e he => (helements e he).1.2, ?_⟩
  rw [Block.entries, List.forall_mem_cons]
  exact ⟨fun m hm => (hblock m hm).2, fun e he m hm => ((helements e he).2 m hm).2⟩

/-- A block is read back from its canonical text, with its own name in param case,
exactly when it is well formed, whatever separator stands between the lines. -/
theorem readBlock_render_iff (b : Block) (separator : String)
    (hseparator : IsLayout separator.toList) (hbreak : '\n' ∈ separator.toList) :
    readBlock (b.render separator) = .ok { b with name := b.paramName } ↔ b.WellFormed := by
  rw [readBlock_eq_ok]
  constructor
  · rintro ⟨hreads, hnamed⟩
    exact b.wellFormed_of_reads _ hreads (b.wellNamed_canonical_iff.mp hnamed)
  · intro h
    exact ⟨reads_render b separator hseparator hbreak h.isName,
      b.wellNamed_canonical_iff.mpr h.toWellNamed⟩

/-- Names of several scripts and spellings, between lines that end in two ways. -/
theorem readBlock_render_searchForm :
    IsLayout " \r\n\t\n".toList ∧ '\n' ∈ " \r\n\t\n".toList ∧
      (readBlock (Block.render
          ⟨"SearchForm", [⟨"submit_Button", ["Größe", "XL"]⟩, ⟨"-Σ2", []⟩], ["darkMode"]⟩
          " \r\n\t\n") =
        .ok ⟨"search-form", [⟨"submit_Button", ["Größe", "XL"]⟩, ⟨"-Σ2", []⟩], ["darkMode"]⟩) := by
  have hchars : " \r\n\t\n".toList = [' ', '\r', '\n', '\t', '\n'] := by decide +kernel
  have hlayout : IsLayout " \r\n\t\n".toList := by
    rw [hchars]
    exact .space (by decide +kernel) (.carriageReturn (.space (by decide +kernel) (.lineFeed .nil)))
  have hbreak : '\n' ∈ " \r\n\t\n".toList := by simp [hchars]
  have hname : Naming.paramCase "SearchForm" = "search-form" := by decide +kernel
  refine ⟨hlayout, hbreak, ?_⟩
  rw [← hname]
  apply (readBlock_render_iff _ " \r\n\t\n" hlayout hbreak).mpr
  have helements : ["submit_Button", "-Σ2"].all (fun name => name.toList.all isNameChar) = true := by
    decide +kernel
  have hmodifiers : ["darkMode", "Größe", "XL"].all (fun m => m.toList.all isNameChar) = true := by
    decide +kernel
  refine ⟨?_, by simpa using helements, by simpa [Block.entries, and_assoc] using hmodifiers⟩
  constructor <;> decide +kernel

end BemNotation
