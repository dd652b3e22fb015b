import BemNotation.Proofs.Lexemes
import BemNotation.Source.Grammar

/-!
Where tokens stand. The spans of the lexemes of a source follow one another without
gaps, from its first byte to its last, and each holds the text of its lexeme. When
every character belongs to a token, the span of all tokens is the whole source.
-/

namespace BemNotation.Source

/-- Whether the span of the source holds the text. -/
def Span.Holds (span : Span) (source text : List Char) : Prop :=
  ∃ before after, source = before ++ text ++ after ∧
    span.start = byteLength before ∧ span.stop = byteLength (before ++ text)

theorem holds_of_mem_place (before : List Char) (ls : List Lexeme) (l : Located Lexeme)
    (h : l ∈ place (byteLength before) ls) :
    l.span.Holds (before ++ textOf ls) l.value.text := by
  induction ls generalizing before with
  | nil => simp [place] at h
  | cons m ls ih =>
    rcases List.mem_cons.mp h with rfl | h
    · exact ⟨before, textOf ls, by simp [textOf_cons], rfl, (byteLength_append _ _).symm⟩
    · rw [← byteLength_append] at h
      have hrest := ih (before ++ m.text) h
      simpa [textOf_cons] using hrest

theorem le_start_of_mem_place (offset : Nat) (ls : List Lexeme) (l : Located Lexeme)
    (h : l ∈ place offset ls) : offset ≤ l.span.start := by
  induction ls generalizing offset with
  | nil => simp [place] at h
  | cons m ls ih =>
    rcases List.mem_cons.mp h with rfl | h
    · exact Nat.le_refl offset
    · have hrest := ih _ h
      omega

/-- Whether every span ends before the next one starts. -/
def InOrder {α : Type} (items : List (Located α)) : Prop :=
  items.Pairwise fun x y => x.span.stop ≤ y.span.start

theorem inOrder_place (offset : Nat) (ls : List Lexeme) : InOrder (place offset ls) := by
  induction ls generalizing offset with
  | nil => exact List.Pairwise.nil
  | cons l ls ih =>
    exact List.Pairwise.cons (fun m hm => le_start_of_mem_place _ ls m hm) (ih _)

theorem exists_lexeme_of_mem_tokens (ls : List (Located Lexeme)) (t : Located Token)
    (h : t ∈ tokens ls) : ⟨.token t.value, t.span⟩ ∈ ls := by
  obtain ⟨⟨value, span⟩, hl, htoken⟩ := List.mem_filterMap.mp h
  cases value with
  | stray c => simp at htoken
  | token u =>
    obtain rfl : ⟨u, span⟩ = t := by simpa using htoken
    exact hl

theorem holds_of_mem_tokens (source : List Char) (t : Located Token)
    (h : t ∈ tokens (place 0 (lexemes source))) : t.span.Holds source t.value.text := by
  have hholds := holds_of_mem_place [] (lexemes source) _ (exists_lexeme_of_mem_tokens _ t h)
  rwa [List.nil_append, textOf_lexemes] at hholds

/-- What holds of any two lexemes in order holds of any two tokens. -/
theorem pairwise_tokens (p : Located Lexeme → Located Lexeme → Prop) (ls : List (Located Lexeme))
    (h : ls.Pairwise p) :
    (tokens ls).Pairwise fun t u => p ⟨.token t.value, t.span⟩ ⟨.token u.value, u.span⟩ := by
  apply h.filterMap
  rintro ⟨_ | _, span⟩ ⟨_ | _, span'⟩ hp t ht u hu <;> simp_all
  obtain rfl := ht
  obtain rfl := hu
  exact hp

theorem inOrder_tokens (source : List Char) : InOrder (tokens (place 0 (lexemes source))) :=
  pairwise_tokens _ _ (inOrder_place 0 (lexemes source))

theorem InOrder.start_le_stop_of_append {α : Type} (items rest : List (Located α)) (y : Located α)
    (h : InOrder (items ++ y :: rest)) : ∀ x ∈ items, x.span.stop ≤ y.span.start := by
  intro x hx
  exact (List.pairwise_append.mp h).2.2 x hx y (by simp)

/-- The spans that follow a span widen it to the end of the last one. -/
theorem coverAll_place (s : Span) (ls : List Lexeme) :
    (s.coverAll ((place s.stop ls).map (·.span))).start = s.start ∧
      (s.coverAll ((place s.stop ls).map (·.span))).stop = s.stop + byteLength (textOf ls) := by
  induction ls generalizing s with
  | nil => exact ⟨rfl, rfl⟩
  | cons l ls ih =>
    have hle := s.start_le_stop
    have hcover : s.cover { start := s.stop, stop := s.stop + byteLength l.text } =
        { start := s.start, stop := s.stop + byteLength l.text } := by
      simp only [Span.cover, Span.mk.injEq]
      omega
    have hrest := ih { start := s.start, stop := s.stop + byteLength l.text }
    simp only [place, List.map_cons, Span.coverAll, List.foldl_cons, hcover] at hrest ⊢
    rw [textOf_cons, byteLength_append, hrest.1, hrest.2]
    exact ⟨rfl, by omega⟩

theorem map_span_tokens (ls : List (Located Lexeme)) (h : strays ls = []) :
    (tokens ls).map (·.span) = ls.map (·.span) := by
  induction ls with
  | nil => rfl
  | cons l ls ih =>
    obtain ⟨value, span⟩ := l
    cases value with
    | stray c => simp [strays] at h
    | token t => exact congrArg (List.cons span) (ih h)

theorem spanOf_eq (ts : List (Located Token)) (s : Span) (spans : List Span)
    (h : ts.map (·.span) = s :: spans) : spanOf ts = s.coverAll spans := by
  cases ts with
  | nil => simp at h
  | cons t ts =>
    obtain ⟨rfl, rfl⟩ : t.span = s ∧ ts.map (·.span) = spans := by simpa using h
    rfl

/-- The tokens of a source without strays span all of it. -/
theorem spanOf_tokens (source : List Char) (h : strays (place 0 (lexemes source)) = []) :
    (spanOf (tokens (place 0 (lexemes source)))).start = 0 ∧
      (spanOf (tokens (place 0 (lexemes source)))).stop = byteLength source := by
  have hspans := map_span_tokens _ h
  have htext := textOf_lexemes source
  cases hls : lexemes source with
  | nil =>
    rw [hls] at htext
    rw [← htext]
    exact ⟨rfl, rfl⟩
  | cons l ls =>
    rw [hls] at hspans htext
    obtain ⟨hstart, hstop⟩ := coverAll_place { start := 0, stop := 0 + byteLength l.text } ls
    rw [spanOf_eq _ _ _ hspans, hstart, hstop, ← htext, textOf_cons, byteLength_append]
    exact ⟨rfl, congrArg (· + byteLength (textOf ls)) (Nat.zero_add _)⟩

end BemNotation.Source
