import BemNotation.Proofs.LineFeeds
import BemNotation.Proofs.MovedSpans
import BemNotation.Proofs.Rejections

/-!
Line endings do not matter. A source whose lines end in carriage returns and line feeds is
read like the same source with line feeds alone: the same block comes out, or the same
faults, with each of their offsets moved by the carriage returns before it.
-/

namespace BemNotation.Source

def Located.map {α β : Type} (g : α → β) (x : Located α) : Located β where
  value := g x.value
  span := x.span

section Placed

variable (f : Nat →o Nat)

/-- Where lexemes stand, if `f` finds the places between them. -/
theorem place_map_plain (before ls : List Lexeme)
    (hf : ∀ ms ns, before ++ ls = ms ++ ns →
      f (byteLength (textOf (ms.map Lexeme.plain))) = byteLength (textOf ms)) :
    (place (byteLength (textOf before)) ls).map (·.map Lexeme.plain) =
      (place (byteLength (textOf (before.map Lexeme.plain))) (ls.map Lexeme.plain)).map
        (·.moved f) := by
  induction ls generalizing before with
  | nil => rfl
  | cons l ls ih =>
    have hrest := ih (before ++ [l]) (by simpa using hf)
    have hstart := hf before (l :: ls) rfl
    have hstop := hf (before ++ [l]) ls (by simp)
    have hsnoc (ms : List Lexeme) (m : Lexeme) :
        byteLength (textOf (ms ++ [m])) = byteLength (textOf ms) + byteLength m.text := by
      rw [textOf_append, byteLength_append, textOf_cons, byteLength_append]
      rfl
    rw [List.map_append, List.map_cons, List.map_nil, hsnoc, hsnoc] at hrest hstop
    simp only [place, List.map_cons]
    rw [hrest]
    congr 1
    simp only [Located.map, Located.moved, Span.moved, hstart, hstop]

/-- A change that can be made before or after picking can be made on the whole list. -/
theorem filterMap_map_of_comm {α β : Type} (pick : α → Option β) (change : α → α)
    (change' : β → β) (h : ∀ x, pick (change x) = (pick x).map change') (xs : List α) :
    (xs.map change).filterMap pick = (xs.filterMap pick).map change' := by
  rw [List.filterMap_map, List.map_filterMap]
  congr 1
  funext x
  exact h x

theorem tokens_map_plain (ls : List (Located Lexeme)) :
    tokens (ls.map (·.map Lexeme.plain)) = (tokens ls).map (·.map Token.plain) := by
  apply filterMap_map_of_comm
  rintro ⟨_ | _, span⟩ <;> rfl

theorem strays_map_plain (ls : List (Located Lexeme)) :
    strays (ls.map (·.map Lexeme.plain)) = strays ls := by
  rw [← List.map_id (strays ls)]
  apply filterMap_map_of_comm
  rintro ⟨_ | _, span⟩ <;> rfl

theorem tokens_moved (ls : List (Located Lexeme)) :
    tokens (ls.map (·.moved f)) = (tokens ls).map (·.moved f) := by
  apply filterMap_map_of_comm
  rintro ⟨_ | _, span⟩ <;> rfl

theorem strays_moved (ls : List (Located Lexeme)) :
    strays (ls.map (·.moved f)) = (strays ls).map (·.moved f) := by
  apply filterMap_map_of_comm
  rintro ⟨_ | _, span⟩ <;> rfl

end Placed

/-- The spelling of a line break is not looked at. -/
theorem tokenLines_map_plain (ts : List (Located Token)) :
    tokenLines (ts.map (·.map Token.plain)) = tokenLines ts := by
  induction ts with
  | nil => rfl
  | cons t ts ih =>
    rcases t with ⟨t, span⟩
    cases t with
    | blank text => exact ih
    | lineBreak returns => exact congrArg ([] :: ·) ih
    | _ => exact congrArg (Naming.extendFirst _) ih

theorem readOutline_map_plain (ts : List (Located Token)) :
    readOutline (ts.map (·.map Token.plain)) = readOutline ts := by
  have hspan : spanOf (ts.map (·.map Token.plain)) = spanOf ts := by
    cases ts with
    | nil => rfl
    | cons t ts =>
      change t.span.coverAll ((ts.map (·.map Token.plain)).map (·.span)) = _
      rw [List.map_map]
      rfl
  unfold readOutline
  rw [tokenLines_map_plain, hspan]

theorem place_lexemes_map_plain (cs : List Char) (h : '\r' ∉ withLineFeeds cs) :
    (place 0 (lexemes cs)).map (·.map Lexeme.plain) =
      (place 0 (lexemes (withLineFeeds cs))).map (·.moved (offsetMap cs)) := by
  obtain ⟨hlexemes, htidy⟩ := lexemes_withLineFeeds cs h
  rw [hlexemes]
  apply place_map_plain (offsetMap cs) []
  intro ms ns hls
  rw [List.nil_append] at hls
  have hoffset := sourceOffset_textOf ms ns fun l hl => htidy l (hls ▸ List.mem_append_left ns hl)
  rw [← hls, textOf_lexemes] at hoffset
  exact hoffset

/-- A source is read like the one with line feeds, with all offsets of faults moved. -/
theorem readBlock_eq_mapError (source : String) (h : '\r' ∉ withLineFeeds source.toList) :
    readBlock source = (readBlock (String.ofList (withLineFeeds source.toList))).mapError
      (·.map (·.moved (offsetMap source.toList))) := by
  have hplaces := place_lexemes_map_plain source.toList h
  have hstrays := congrArg strays hplaces
  have houtline := congrArg (fun ls => readOutline (tokens ls)) hplaces
  rw [strays_map_plain, strays_moved] at hstrays
  rw [tokens_map_plain, tokens_moved, readOutline_map_plain,
    readOutline_moved _ (sourceOffset_zero _)] at houtline
  simp only [readBlock, Reading.ofSource, String.toList_ofList]
  rw [hstrays]
  cases strays (place 0 (lexemes (withLineFeeds source.toList))) with
  | nil => exact Reading.result_ofTokens_eq _ _ _ houtline
  | cons c cs =>
    have hfaults (c : Located Char) : Fault.strayCharacter (c.moved (offsetMap source.toList)) =
        (Fault.strayCharacter c).moved (offsetMap source.toList) := rfl
    simp [Reading.result, Except.mapError, hfaults]

/-- Labels that say the same of two sources. Their offsets come from one offset of the
source with line feeds, each moved by the carriage returns of its own source. -/
structure Label.Matches (source other : List Char) (l m : Label) : Prop where
  message : l.message = m.message
  primary : l.primary = m.primary
  start : ∃ offset, IsBoundary (withLineFeeds source) offset ∧
    l.span.start = sourceOffset source offset ∧ m.span.start = sourceOffset other offset
  stop : ∃ offset, IsBoundary (withLineFeeds source) offset ∧
    l.span.stop = sourceOffset source offset ∧ m.span.stop = sourceOffset other offset

structure Diagnostic.Matches (source other : List Char) (d e : Diagnostic) : Prop where
  code : d.code = e.code
  message : d.message = e.message
  help : d.help = e.help
  labels : List.Forall₂ (Label.Matches source other) d.labels e.labels

/-- One fault in two sources with the same text between their line endings. -/
theorem Fault.matches_moved (source other : List Char) (f : Fault)
    (h : f.diagnostic.WellPlaced (withLineFeeds source)) :
    Diagnostic.Matches source other (f.moved (offsetMap source)).diagnostic
      (f.moved (offsetMap other)).diagnostic := by
  rw [f.diagnostic_moved, f.diagnostic_moved]
  refine ⟨rfl, rfl, rfl, ?_⟩
  simp only [List.forall₂_map_left_iff, List.forall₂_map_right_iff, List.forall₂_same]
  intro l hl
  obtain ⟨-, -, hlies⟩ := h.inside l hl
  exact ⟨rfl, rfl, ⟨_, hlies.start_boundary, rfl, rfl⟩, ⟨_, hlies.stop_boundary, rfl, rfl⟩⟩

end BemNotation.Source

namespace BemNotation

open Source

/-- Line endings have no part in what a source is read as, nor in what is said of a
rejected one, and labels move with the text they stand on. -/
theorem parse_lineEndings (source other : String) (hsource : ReturnsInBreaks source.toList)
    (hother : ReturnsInBreaks other.toList)
    (hsame : withLineFeeds source.toList = withLineFeeds other.toList) :
    (∃ b, Block.parse source = .ok b ∧ Block.parse other = .ok b) ∨
      ∃ ds es, Block.parse source = .error (.source ds source) ∧
        Block.parse other = .error (.source es other) ∧
        List.Forall₂ (Diagnostic.Matches source.toList other.toList) ds es := by
  have hread := readBlock_eq_mapError source ((returnsInBreaks_iff _).mp hsource)
  have hread' := readBlock_eq_mapError other ((returnsInBreaks_iff _).mp hother)
  rw [← hsame] at hread'
  unfold Block.parse
  rw [hread, hread']
  rcases readBlock_eq_ok_or_wellReported (String.ofList (withLineFeeds source.toList)) with
    ⟨b, hb⟩ | ⟨faults, hfaults, hreported⟩
  · rw [hb]
    exact Or.inl ⟨b, rfl, rfl⟩
  · rw [hfaults]
    refine Or.inr ⟨_, _, rfl, rfl, ?_⟩
    have hplaced := hreported.wellPlaced
    rw [String.toList_ofList] at hplaced
    simp only [List.forall₂_map_left_iff, List.forall₂_map_right_iff, List.forall₂_same]
    intro f hf
    exact f.matches_moved _ _ (hplaced _ (List.mem_map_of_mem hf))

/-- An element that stands twice, after line endings of different kinds. -/
theorem parse_lineEndings_repeatedElement :
    let source := "x\r\na\nA[b]\r\n"
    let other := "x\na\r\nA[b]\n"
    ReturnsInBreaks source.toList ∧ ReturnsInBreaks other.toList ∧
      withLineFeeds source.toList = withLineFeeds other.toList ∧
      ∃ ds es, Block.parse source = .error (.source ds source) ∧
        Block.parse other = .error (.source es other) ∧
        List.Forall₂ (Diagnostic.Matches source.toList other.toList) ds es := by
  intro source other
  have hsource : ReturnsInBreaks source.toList := (returnsInBreaks_iff _).mpr (by decide +kernel)
  have hother : ReturnsInBreaks other.toList := (returnsInBreaks_iff _).mpr (by decide +kernel)
  have hsame : withLineFeeds source.toList = withLineFeeds other.toList := by decide +kernel
  have hrejected : (Block.parse source).toOption = none := by decide +kernel
  refine ⟨hsource, hother, hsame, ?_⟩
  rcases parse_lineEndings source other hsource hother hsame with ⟨b, hb, -⟩ | hreported
  · simp [hb, Except.toOption] at hrejected
  · exact hreported

end BemNotation
