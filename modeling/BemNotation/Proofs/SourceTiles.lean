import BemNotation.Failure
import BemNotation.Proofs.NotationReading
import BemNotation.Proofs.SourceSpans

/-!
What the lexer makes of a source. If each character belongs to a token, the tokens lie
side by side from the first byte to the last, and no two of them would be one run. If
not, every character that belongs to none is reported on its own, in order.
-/

namespace BemNotation.Source

open Unicode

/-- Whether a character of a text belongs to no token, given the text after it. A carriage
return belongs to the line feed right behind it. -/
def isStray (c : Char) (after : List Char) : Bool :=
  !(isNameChar c || c = '[' || c = ']' || c = ',' || isWhiteSpace c) ||
    (c = '\r' && after.head? != some '\n')

/-- The span of so many bytes. -/
def Span.ofLength (start length : Nat) : Span where
  start := start
  stop := start + length
  start_le_stop := Nat.le_add_right start length

/-- The characters of a text that belong to no token, each with its bytes. The text begins
at `offset`. -/
def strayChars (offset : Nat) : List Char → List (Located Char)
  | [] => []
  | c :: cs =>
    let rest := strayChars (offset + c.utf8Size) cs
    if isStray c cs then ⟨c, .ofLength offset c.utf8Size⟩ :: rest else rest

/-- The bytes of each line break of a text that begins at `offset`. -/
def lineBreakSpans (offset : Nat) : List Char → List Span
  | [] => []
  | '\r' :: '\n' :: cs => .ofLength offset 2 :: lineBreakSpans (offset + 2) cs
  | '\n' :: cs => .ofLength offset 1 :: lineBreakSpans (offset + 1) cs
  | c :: cs => lineBreakSpans (offset + c.utf8Size) cs

/-- Whether the spans lie side by side from one offset to another, none of them empty. -/
def Tiles : Nat → List Span → Nat → Prop
  | start, [], stop => start = stop
  | start, s :: spans, stop => s.start = start ∧ start < s.stop ∧ Tiles s.stop spans stop

/-- Tokens that make up a source. -/
structure Tokenizes (ts : List (Located Token)) (source : List Char) : Prop where
  tiles : Tiles 0 (ts.map (·.span)) (byteLength source)
  holds : ∀ t ∈ ts, t.span.Holds source t.value.text
  wellFormed : ∀ t ∈ ts, (Lexeme.token t.value).WellFormed
  lineBreaks : (ts.filter (·.value.kind = .lineFeed)).map (·.span) = lineBreakSpans 0 source
  parted : ts.IsChain fun t u => t.value.Parted u.value

/-- The first lexeme of a text is a line feed exactly if its first character is. -/
theorem exists_lexemes_eq_lineBreak_iff (cs : List Char) :
    (∃ rest, lexemes cs = .token (.lineBreak false) :: rest) ↔ cs.head? = some '\n' := by
  constructor
  · rintro ⟨rest, hls⟩
    have htext := textOf_lexemes cs
    rw [hls] at htext
    rw [← htext]
    rfl
  · intro h
    obtain ⟨rest, rfl⟩ := List.head?_eq_some_iff.mp h
    exact ⟨lexemes rest, rfl⟩

theorem isStray_iff (c : Char) (after : List Char) :
    isStray c after = true ↔
      charClass c = .other ∨ charClass c = .carriageReturn ∧ after.head? ≠ some '\n' := by
  have hname : isNameChar c = true → c ≠ '\r' := by
    rintro h rfl
    revert h
    decide +kernel
  have hreturn : isWhiteSpace '\r' = true := by decide +kernel
  have hfeed : isWhiteSpace '\n' = true := by decide +kernel
  fun_cases charClass c <;> simp_all [isStray]

theorem isStray_eq_false_of_kind (c : Char) (after : List Char) (t : Token)
    (h : charClass c = t.kind) : ¬ isStray c after = true := by
  simp [isStray_iff, h, t.kind_ne]

theorem place_cons (offset : Nat) (l : Lexeme) (ls : List Lexeme) :
    place offset (l :: ls) = ⟨l, .ofLength offset (byteLength l.text)⟩ ::
      place (offset + byteLength l.text) ls := rfl

theorem strays_token_cons (t : Token) (s : Span) (ls : List (Located Lexeme)) :
    strays (⟨.token t, s⟩ :: ls) = strays ls := rfl

theorem tokens_token_cons (t : Token) (s : Span) (ls : List (Located Lexeme)) :
    tokens (⟨.token t, s⟩ :: ls) = ⟨t, s⟩ :: tokens ls := rfl

/-- The strays among the lexemes are the characters of the text that belong to no token. -/
theorem strays_place_lexemes (offset : Nat) (cs : List Char) :
    strays (place offset (lexemes cs)) = strayChars offset cs := by
  induction cs generalizing offset with
  | nil => rfl
  | cons c cs ih =>
    have hstray := isStray_iff c cs
    have hbreak := exists_lexemes_eq_lineBreak_iff cs
    have hpushed := Lexeme.pushed c (lexemes cs)
    rw [lexemes_cons, strayChars, ← ih]
    generalize lexemes cs = ls, Lexeme.push c (lexemes cs) = ms at hbreak hpushed ⊢
    cases hpushed with
    | stray hclass =>
      rw [if_pos]
      · rfl
      · exact hstray.mpr (hclass.imp id fun h => ⟨h.1, fun hfeed => by
          obtain ⟨rest, hrest⟩ := hbreak.mpr hfeed
          exact h.2 rest hrest⟩)
    | single htext hclass =>
      rw [if_neg (isStray_eq_false_of_kind c cs _ hclass), place_cons, strays_token_cons,
        Lexeme.text, htext]
      rfl
    | run htext hclass =>
      rw [if_neg (isStray_eq_false_of_kind c cs _ hclass), place_cons, strays_token_cons, place_cons,
        strays_token_cons, Lexeme.text, htext, byteLength_cons, ← Nat.add_assoc]
      rfl
    | lineBreak hclass =>
      have hc := eq_of_charClass c
      rw [hclass] at hc
      subst hc
      rw [if_neg (by simp [hstray, hclass, hbreak.mp ⟨_, rfl⟩]), place_cons, strays_token_cons,
        place_cons, strays_token_cons]
      rfl

/-- The spans of the line breaks among the tokens. -/
def breakSpans (ts : List (Located Token)) : List Span :=
  (ts.filter (·.value.kind = .lineFeed)).map (·.span)

theorem breakSpans_cons_of_ne (t : Located Token) (ts : List (Located Token))
    (h : t.value.kind ≠ .lineFeed) : breakSpans (t :: ts) = breakSpans ts := by
  simp [breakSpans, h]

/-- Each line feed gives one token, together with a carriage return right before it. -/
theorem breakSpans_tokens (offset : Nat) (cs : List Char) :
    breakSpans (tokens (place offset (lexemes cs))) = lineBreakSpans offset cs := by
  fun_induction lineBreakSpans offset cs with
  | case1 => rfl
  | case2 offset cs ih =>
    rw [← ih]
    rfl
  | case3 offset cs ih =>
    rw [← ih]
    rfl
  | case4 offset c cs hreturn hfeed ih =>
    have hbreak := exists_lexemes_eq_lineBreak_iff cs
    have hc := eq_of_charClass c
    have hpushed := Lexeme.pushed c (lexemes cs)
    have hclass : charClass c ≠ .lineFeed := by
      intro hclass
      rw [hclass] at hc
      exact hfeed hc
    rw [lexemes_cons, ← ih]
    generalize lexemes cs = ls, Lexeme.push c (lexemes cs) = ms at hbreak hpushed ⊢
    cases hpushed with
    | stray => rfl
    | single htext hkind =>
      rw [hkind] at hclass
      rw [place_cons, tokens_token_cons, breakSpans_cons_of_ne _ _ hclass, Lexeme.text, htext]
      rfl
    | run htext hkind hsame =>
      rw [hkind] at hclass
      rw [place_cons, tokens_token_cons, breakSpans_cons_of_ne _ _ (hsame ▸ hclass), place_cons,
        tokens_token_cons, breakSpans_cons_of_ne _ _ hclass, Lexeme.text, htext, byteLength_cons,
        ← Nat.add_assoc]
      rfl
    | lineBreak hkind =>
      rw [hkind] at hc
      obtain ⟨rest, rfl⟩ := List.head?_eq_some_iff.mp (hbreak.mp ⟨_, rfl⟩)
      exact absurd rfl (hreturn rest hc)

theorem tiles_place (offset : Nat) (ls : List Lexeme) (h : ∀ l ∈ ls, l.text ≠ []) :
    Tiles offset ((place offset ls).map (·.span)) (offset + byteLength (textOf ls)) := by
  induction ls generalizing offset with
  | nil => rfl
  | cons l ls ih =>
    have hpos := byteLength_pos l.text (h l (by simp))
    have hrest := ih (offset + byteLength l.text) fun m hm => h m (by simp [hm])
    rw [Nat.add_assoc, ← byteLength_append, ← textOf_cons] at hrest
    exact ⟨rfl, Nat.lt_add_of_pos_right hpos, hrest⟩

theorem map_token_tokens (offset : Nat) (ls : List Lexeme) (h : strays (place offset ls) = []) :
    (tokens (place offset ls)).map (fun t => Lexeme.token t.value) = ls := by
  induction ls generalizing offset with
  | nil => rfl
  | cons l ls ih =>
    cases l with
    | stray c => simp [place, strays] at h
    | token t => exact congrArg _ (ih _ h)

/-- A source without strays is made up of its tokens. -/
theorem tokenizes_tokens (source : List Char) (h : strays (place 0 (lexemes source)) = []) :
    Tokenizes (tokens (place 0 (lexemes source))) source where
  tiles := by
    have htiles := tiles_place 0 (lexemes source) (text_ne_nil_of_mem_lexemes source)
    rwa [Nat.zero_add, textOf_lexemes, ← map_span_tokens _ h] at htiles
  holds := holds_of_mem_tokens source
  wellFormed t ht := by
    have hmem := value_mem_of_mem_place _ _ _ (exists_lexeme_of_mem_tokens _ t ht)
    exact wellFormed_of_mem_lexemes source _ hmem
  lineBreaks := breakSpans_tokens 0 source
  parted := by
    have hchain := isChain_parted_lexemes source
    rw [← map_token_tokens 0 (lexemes source) h, List.isChain_map] at hchain
    exact hchain.imp fun t u hparted => hparted t.value u.value rfl rfl

/-- The tokens of a source, or the faults of its characters. -/
def Reading.scanned : Reading → Except (List Fault) (List (Located Token))
  | unscanned faults => .error faults
  | misordered ts _ => .ok ts
  | misnamed ts _ _ => .ok ts
  | complete ts _ => .ok ts

theorem Reading.scanned_ofTokens (ts : List (Located Token)) : (ofTokens ts).scanned = .ok ts := by
  unfold ofTokens
  split
  · rfl
  · split <;> rfl

/-- Whether the diagnostic is that of a character which belongs to no token. -/
structure Diagnostic.ShowsStray (d : Diagnostic) (c : Located Char) : Prop where
  code : d.code.map Code.text = some "E001"
  labels : d.labels.map (fun l => (l.span, l.primary)) = [(c.span, true)]
  message : d.message = "unexpected character `" ++ Text.showChar c.value ++ "`"

end BemNotation.Source

namespace BemNotation

open Source

/-- Every source is made up of tokens, or it is rejected with one diagnostic for each of
its characters that belong to none. -/
theorem tokenizes_or_shows_strays (source : String) :
    (strayChars 0 source.toList = [] ∧ ∃ ts,
        (Reading.ofSource source).scanned = .ok ts ∧ Tokenizes ts source.toList) ∨
      strayChars 0 source.toList ≠ [] ∧
        (Reading.ofSource source).scanned =
          .error ((strayChars 0 source.toList).map .strayCharacter) ∧
        ∃ ds, Block.parse source = .error (.source ds source) ∧
          List.Forall₂ Diagnostic.ShowsStray ds (strayChars 0 source.toList) := by
  rw [← strays_place_lexemes]
  cases hstrays : strays (place 0 (lexemes source.toList)) with
  | nil =>
    refine Or.inl ⟨rfl, _, ?_, tokenizes_tokens _ hstrays⟩
    rw [Reading.ofSource, hstrays]
    exact Reading.scanned_ofTokens _
  | cons c cs =>
    refine Or.inr ⟨by simp, by rw [Reading.ofSource, hstrays]; rfl,
      ((c :: cs).map Fault.strayCharacter).map Fault.diagnostic, ?_, ?_⟩
    · simp [Block.parse, readBlock, Reading.ofSource, hstrays, Reading.result, Except.mapError]
    · rw [List.map_map, List.forall₂_map_left_iff, List.forall₂_same]
      exact fun d _ => ⟨rfl, rfl, rfl⟩

end BemNotation
