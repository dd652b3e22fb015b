import BemNotation.Proofs.NameScopes
import BemNotation.Source.Reading
import Mathlib.Data.List.Basic

/-!
Reading accepts exactly block notation and takes every name as it is spelled. A
source is cut at its line breaks. Each piece is blank or the line of an entry, the
first of which is the block, and the names have to stay apart in param case.
-/

namespace BemNotation.Source

open Naming (extendFirst paramCase)

/-- Pieces of text read one after the other. Blank pieces say nothing, and each of
the others is the line of an entry. -/
inductive Reads : List (List Char) → List Element → Prop
  | nil : Reads [] []
  | gap {text : List Char} {texts : List (List Char)} {es : List Element}
      (hgap : IsGap text) (hrest : Reads texts es) : Reads (text :: texts) es
  | line {text : List Char} {texts : List (List Char)} {e : Element} {es : List Element}
      (hline : LineText e.name.toList (e.modifiers.map String.toList) text)
      (hrest : Reads texts es) : Reads (text :: texts) (e :: es)

theorem reads_iff (texts : List (List Char)) (es : List Element) :
    Reads texts es ↔
      (texts.map marks).filter (!·.isEmpty) = es.map fun e => e.tokens.map .token := by
  constructor
  · intro h
    induction h with
    | nil => rfl
    | gap hgap hrest ih => simpa [marks_gap _ hgap] using ih
    | @line text texts e es hline hrest ih =>
      have hmarks : marks text = e.tokens.map .token := marks_lineText _ _ text hline
      simpa [hmarks, e.tokens_ne_nil] using ih
  · intro h
    induction texts generalizing es with
    | nil =>
      obtain rfl : es = [] := by simpa using h.symm
      exact Reads.nil
    | cons text texts ih =>
      cases hmarks : marks text with
      | nil =>
        simp only [List.map_cons, hmarks, List.isEmpty_nil, Bool.not_true, Bool.false_eq_true,
          not_false_eq_true, List.filter_cons_of_neg] at h
        exact Reads.gap ((marks_eq_nil_iff text).mp hmarks) (ih es h)
      | cons l ls =>
        cases es with
        | nil => simp [hmarks] at h
        | cons e es =>
          rw [List.map_cons, hmarks, List.filter_cons_of_pos (by simp), List.map_cons] at h
          obtain ⟨hhead, htail⟩ := List.cons.inj h
          exact Reads.line (lineText_of_marks _ _ text (hmarks.trans hhead)) (ih es htail)

theorem Reads.isName (texts : List (List Char)) (es : List Element) (h : Reads texts es) :
    ∀ e ∈ es, IsName e.name.toList ∧ ∀ m ∈ e.modifiers, IsName m.toList := by
  induction h with
  | nil => simp
  | gap hgap hrest ih => exact ih
  | line hline hrest ih =>
    obtain ⟨hname, hmodifiers⟩ := hline.isName
    rw [List.forall_mem_cons]
    exact ⟨⟨hname, by simpa using hmodifiers⟩, ih⟩

theorem map_value_place (offset : Nat) (ls : List Lexeme) :
    (place offset ls).map (·.value) = ls := by
  induction ls generalizing offset with
  | nil => rfl
  | cons l ls ih => simp [place, ih]

theorem strays_eq_nil_iff (ls : List (Located Lexeme)) :
    strays ls = [] ↔ ∀ c, Lexeme.stray c ∉ ls.map (·.value) := by
  unfold strays
  rw [List.filterMap_eq_nil_iff]
  constructor
  · intro h c hc
    obtain ⟨l, hl, hvalue⟩ := List.mem_map.mp hc
    simpa [hvalue] using h l hl
  · intro h l hl
    cases hvalue : l.value with
    | token t => simp
    | stray c => exact absurd (List.mem_map.mpr ⟨l, hl, hvalue⟩) (h c)

theorem map_extendFirst {α β : Type} (f : List α → List β) (x : α) (y : β) (hnil : f [] = [])
    (hcons : ∀ items, f (x :: items) = y :: f items) (lists : List (List α)) :
    (extendFirst x lists).map f = extendFirst y (lists.map f) := by
  cases lists with
  | nil => simp [extendFirst, hcons, hnil]
  | cons first rest => simp [extendFirst, hcons]

def lineLexemes (line : List (Located Token)) : List Lexeme :=
  (values line).map .token

/-- Without strays, the lines of tokens are the solid lexemes between line breaks. -/
theorem map_tokenLines (ls : List (Located Lexeme)) (h : strays ls = []) :
    (tokenLines (tokens ls)).map lineLexemes =
      (rows (ls.map (·.value))).map solid := by
  induction ls with
  | nil => rfl
  | cons l ls ih =>
    obtain ⟨value, span⟩ := l
    cases value with
    | stray c => simp [strays] at h
    | token t =>
      have hrest := ih h
      cases t with
      | blank text =>
        obtain ⟨first, rest, hrows⟩ := List.exists_cons_of_ne_nil (rows_ne_nil (ls.map (·.value)))
        rw [hrows] at hrest
        rw [List.map_cons, rows_cons _ _ rfl, hrows]
        exact hrest
      | lineBreak returns => exact congrArg (List.cons []) hrest
      | _ =>
        rw [List.map_cons, rows_cons _ _ rfl, map_extendFirst solid _ _ rfl (fun _ => rfl), ← hrest]
        exact map_extendFirst lineLexemes _ _ rfl (fun _ => rfl) _

theorem map_tokenLines_place (source : List Char) (h : strays (place 0 (lexemes source)) = []) :
    (tokenLines (tokens (place 0 (lexemes source)))).map lineLexemes =
      (pieces source).map marks := by
  rw [map_tokenLines _ h, map_value_place, rows_lexemes, List.map_map]
  rfl

theorem filledLines_eq_iff (lines : List (List (Located Token))) (es : List Element) :
    filledLines lines = es.map Element.tokens ↔
      (lines.map lineLexemes).filter (!·.isEmpty) = es.map fun e => e.tokens.map .token := by
  have hinjective : Function.Injective (List.map (List.map Lexeme.token)) :=
    List.map_injective_iff.mpr (List.map_injective_iff.mpr fun s t h => Lexeme.token.inj h)
  have hfilter : (lines.map lineLexemes).filter (!·.isEmpty) =
      (filledLines lines).map (List.map .token) := by
    simp [filledLines, lineLexemes, List.filter_map, Function.comp_def]
  rw [← hinjective.eq_iff, hfilter, List.map_map]
  rfl

theorem exists_row_of_mem (l : Lexeme) (ls : List Lexeme) (h : l ∈ ls) (hl : l.isBreak = false) :
    ∃ row ∈ rows ls, l ∈ row := by
  induction ls with
  | nil => simp at h
  | cons m ls ih =>
    obtain ⟨first, rest, hrows⟩ := List.exists_cons_of_ne_nil (rows_ne_nil ls)
    cases hm : m.isBreak with
    | true =>
      obtain ⟨returns, rfl⟩ := m.exists_of_isBreak hm
      rcases List.mem_cons.mp h with rfl | h
      · simp [Lexeme.isBreak] at hl
      · obtain ⟨row, hrow, hmem⟩ := ih h
        exact ⟨row, List.mem_cons_of_mem [] hrow, hmem⟩
    | false =>
      rw [rows_cons m ls hm, hrows]
      rw [hrows] at ih
      rcases List.mem_cons.mp h with rfl | h
      · exact ⟨l :: first, by simp [extendFirst], by simp⟩
      · obtain ⟨row, hrow, hmem⟩ := ih h
        rcases List.mem_cons.mp hrow with rfl | hrow
        · exact ⟨m :: row, by simp [extendFirst], by simp [hmem]⟩
        · exact ⟨row, by simp [extendFirst, hrow], hmem⟩

/-- A stray character is never blank, so its piece is neither blank nor a line. -/
theorem stray_not_mem_of_reads (source : List Char) (es : List Element)
    (h : Reads (pieces source) es) (c : Char) : Lexeme.stray c ∉ lexemes source := by
  intro hc
  obtain ⟨row, hrow, hmem⟩ := exists_row_of_mem _ _ hc rfl
  rw [rows_lexemes] at hrow
  obtain ⟨text, htext, rfl⟩ := List.mem_map.mp hrow
  have hsolid : Lexeme.stray c ∈ marks text := List.mem_filter.mpr ⟨hmem, rfl⟩
  have hfilled : marks text ∈ ((pieces source).map marks).filter (!·.isEmpty) := by
    apply List.mem_filter.mpr
    exact ⟨List.mem_map.mpr ⟨text, htext, rfl⟩, by simp [List.ne_nil_of_mem hsolid]⟩
  rw [(reads_iff _ es).mp h] at hfilled
  obtain ⟨e, _, he⟩ := List.mem_map.mp hfilled
  rw [← he] at hsolid
  simp at hsolid

theorem readBlock_eq_ok_iff_outline (source : String) (b : Block) :
    readBlock source = .ok b ↔
      strays (place 0 (lexemes source.toList)) = [] ∧
        ∃ o, readOutline (tokens (place 0 (lexemes source.toList))) = .ok o ∧
          o.nameFaults = [] ∧ o.toBlock = b := by
  unfold readBlock Reading.ofSource Reading.ofTokens
  cases hstrays : strays (place 0 (lexemes source.toList)) with
  | cons c cs => simp [hstrays, Reading.result]
  | nil =>
    cases hread : readOutline (tokens (place 0 (lexemes source.toList))) with
    | error fault => simp [hstrays, hread, Reading.result]
    | ok o =>
      cases hnames : o.nameFaults with
      | nil => simp [hstrays, hread, hnames, Reading.result]
      | cons fault faults => simp [hstrays, hread, hnames, Reading.result]

/-- A source is read exactly when its pieces are, and its names stay apart. -/
theorem readBlock_eq_ok (source : String) (b : Block) :
    readBlock source = .ok b ↔ Reads (pieces source.toList) b.entries ∧ b.WellNamed := by
  rw [readBlock_eq_ok_iff_outline]
  constructor
  · rintro ⟨hstrays, o, hread, hnames, rfl⟩
    refine ⟨?_, (nameFaults_eq_nil_iff o).mp hnames⟩
    have hlines := (readOutline_toBlock_iff _ o.toBlock).mp ⟨o, hread, rfl⟩
    rw [filledLines_eq_iff, map_tokenLines_place _ hstrays] at hlines
    exact (reads_iff _ _).mpr hlines
  · rintro ⟨hreads, hnames⟩
    have hstrays : strays (place 0 (lexemes source.toList)) = [] := by
      rw [strays_eq_nil_iff, map_value_place]
      exact stray_not_mem_of_reads source.toList b.entries hreads
    have hlines := (reads_iff _ _).mp hreads
    rw [← map_tokenLines_place _ hstrays, ← filledLines_eq_iff] at hlines
    obtain ⟨o, hread, rfl⟩ := (readOutline_toBlock_iff _ b).mpr hlines
    exact ⟨hstrays, o, hread, (nameFaults_eq_nil_iff o).mpr hnames, rfl⟩

/-- Exactly block notation is read. Every piece between line breaks is blank or a
line, the first line is the block and the others are its elements, in order and as
they are spelled, and all names stay apart in param case. -/
theorem readBlock_eq_ok_iff_lines (source : String) (b : Block) :
    readBlock source = .ok b ↔
      ∃ first rest, Reads (pieces source.toList) (first :: rest) ∧
        (∀ e ∈ first :: rest, paramCase e.name ≠ "" ∧ ∀ m ∈ e.modifiers, paramCase m ≠ "") ∧
        (rest.map fun e => paramCase e.name).Nodup ∧
        (∀ e ∈ first :: rest, (e.modifiers.map paramCase).Nodup) ∧
        b = ⟨first.name, rest, first.modifiers⟩ := by
  rw [readBlock_eq_ok]
  constructor
  · rintro ⟨hreads, hnames⟩
    exact ⟨⟨b.name, b.modifiers⟩, b.elements, hreads,
      fun e he => ⟨hnames.name_ne e he, hnames.modifier_ne e he⟩,
      hnames.elements_nodup, hnames.modifiers_nodup, rfl⟩
  · rintro ⟨first, rest, hreads, hne, helements, hmodifiers, rfl⟩
    exact ⟨hreads, fun e he => (hne e he).1, fun e he => (hne e he).2, helements, hmodifiers⟩

end BemNotation.Source
