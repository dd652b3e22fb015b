import BemNotation.Proofs.TokenPlaces
import Mathlib.Data.List.Chain

/-!
Spans of whole characters. The pieces of a source stand on whole characters of it and
hold at least one each, and so does any span that covers two that do. No piece reaches
into the next one, and between two names there is always another piece.
-/

namespace BemNotation.Source

/-- Whether a character of the text starts at the offset, or the text ends there. -/
def IsBoundary (text : List Char) (offset : Nat) : Prop :=
  ∃ before after, text = before ++ after ∧ offset = byteLength before

/-- Whether the span is one of whole characters, and of no less than one in a text that
has any. -/
structure Span.LiesIn (span : Span) (text : List Char) : Prop where
  start_boundary : IsBoundary text span.start
  stop_boundary : IsBoundary text span.stop
  start_lt_stop : text ≠ [] → span.start < span.stop

theorem IsBoundary.le_byteLength (text : List Char) (offset : Nat) (h : IsBoundary text offset) :
    offset ≤ byteLength text := by
  obtain ⟨before, after, rfl, rfl⟩ := h
  rw [byteLength_append]
  exact Nat.le_add_right _ _

theorem isBoundary_zero (text : List Char) : IsBoundary text 0 :=
  ⟨[], text, rfl, rfl⟩

theorem isBoundary_byteLength (text : List Char) : IsBoundary text (byteLength text) :=
  ⟨text, [], (List.append_nil text).symm, rfl⟩

theorem byteLength_pos (text : List Char) (h : text ≠ []) : 0 < byteLength text := by
  obtain ⟨c, cs, rfl⟩ := List.exists_cons_of_ne_nil h
  have hc := c.utf8Size_pos
  rw [byteLength_cons]
  omega

theorem Span.liesIn_whole (span : Span) (text : List Char) (hstart : span.start = 0)
    (hstop : span.stop = byteLength text) : span.LiesIn text where
  start_boundary := by
    rw [hstart]
    exact isBoundary_zero text
  stop_boundary := by
    rw [hstop]
    exact isBoundary_byteLength text
  start_lt_stop hne := by
    rw [hstart, hstop]
    exact byteLength_pos text hne

theorem Span.LiesIn.cover (s t : Span) (text : List Char) (hs : s.LiesIn text)
    (ht : t.LiesIn text) : (s.cover t).LiesIn text where
  start_boundary := by
    rw [Span.start_cover]
    rcases Nat.le_total s.start t.start with hle | hle
    · rw [Nat.min_eq_left hle]
      exact hs.start_boundary
    · rw [Nat.min_eq_right hle]
      exact ht.start_boundary
  stop_boundary := by
    rw [Span.stop_cover]
    rcases Nat.le_total s.stop t.stop with hle | hle
    · rw [Nat.max_eq_right hle]
      exact ht.stop_boundary
    · rw [Nat.max_eq_left hle]
      exact hs.stop_boundary
  start_lt_stop hne := by
    have hlt := hs.start_lt_stop hne
    rw [Span.start_cover, Span.stop_cover]
    omega

theorem Span.Holds.liesIn (span : Span) (source text : List Char) (h : span.Holds source text)
    (hne : text ≠ []) : span.LiesIn source := by
  obtain ⟨before, after, rfl, hstart, hstop⟩ := h
  refine ⟨⟨before, text ++ after, by simp, hstart⟩, ⟨before ++ text, after, rfl, hstop⟩, fun _ => ?_⟩
  have hpos := byteLength_pos text hne
  rw [hstart, hstop, byteLength_append]
  omega

theorem Lexeme.text_ne_nil_push (c : Char) (ls : List Lexeme) (h : ∀ l ∈ ls, l.text ≠ []) :
    ∀ l ∈ push c ls, l.text ≠ [] := by
  unfold push
  split <;> simp_all [Lexeme.text, Token.text]

/-- No lexeme is empty. -/
theorem text_ne_nil_of_mem_lexemes (cs : List Char) : ∀ l ∈ lexemes cs, l.text ≠ [] := by
  induction cs with
  | nil => simp [lexemes]
  | cons c cs ih => exact Lexeme.text_ne_nil_push c (lexemes cs) ih

theorem value_mem_of_mem_place (offset : Nat) (ls : List Lexeme) (l : Located Lexeme)
    (h : l ∈ place offset ls) : l.value ∈ ls := by
  induction ls generalizing offset with
  | nil => simp [place] at h
  | cons m ls ih =>
    rcases List.mem_cons.mp h with rfl | h
    · simp
    · simp [ih _ h]

theorem liesIn_of_mem_place (source : List Char) (l : Located Lexeme)
    (h : l ∈ place 0 (lexemes source)) : l.span.LiesIn source := by
  have hholds := holds_of_mem_place [] (lexemes source) l h
  rw [List.nil_append, textOf_lexemes] at hholds
  exact hholds.liesIn _ _ _ (text_ne_nil_of_mem_lexemes source _ (value_mem_of_mem_place _ _ l h))

theorem liesIn_of_mem_tokens (source : List Char) (t : Located Token)
    (h : t ∈ tokens (place 0 (lexemes source))) : t.span.LiesIn source :=
  liesIn_of_mem_place source _ (exists_lexeme_of_mem_tokens _ t h)

theorem exists_lexeme_of_mem_strays (ls : List (Located Lexeme)) (c : Located Char)
    (h : c ∈ strays ls) : ⟨.stray c.value, c.span⟩ ∈ ls := by
  obtain ⟨⟨value, span⟩, hl, hstray⟩ := List.mem_filterMap.mp h
  cases value with
  | token t => simp at hstray
  | stray d =>
    obtain rfl : ⟨d, span⟩ = c := by simpa using hstray
    exact hl

theorem liesIn_of_mem_strays (source : List Char) (c : Located Char)
    (h : c ∈ strays (place 0 (lexemes source))) : c.span.LiesIn source :=
  liesIn_of_mem_place source _ (exists_lexeme_of_mem_strays _ c h)

theorem inOrder_strays (source : List Char) : InOrder (strays (place 0 (lexemes source))) := by
  apply (inOrder_place 0 (lexemes source)).filterMap
  rintro ⟨_ | _, span⟩ ⟨_ | _, span'⟩ hle t ht u hu <;> simp_all
  obtain rfl := ht
  obtain rfl := hu
  exact hle

/-- What a token is, apart from its text. -/
def Token.kind : Token → CharClass
  | name _ => .name
  | openBracket => .openBracket
  | closeBracket => .closeBracket
  | comma => .comma
  | blank _ => .blank
  | lineBreak _ => .lineFeed

theorem Token.kind_ne (t : Token) : t.kind ≠ .other ∧ t.kind ≠ .carriageReturn := by
  cases t <;> simp [kind]

/-- Whether two tokens can stand side by side without being one run. -/
def Token.Parted (t u : Token) : Prop :=
  t.kind = u.kind → t.kind ≠ .name ∧ t.kind ≠ .blank

namespace Lexeme

/-- What a character makes of the lexemes after it. -/
inductive Pushed (c : Char) : List Lexeme → List Lexeme → Prop
  | stray {ls : List Lexeme}
      (hclass : charClass c = .other ∨
        charClass c = .carriageReturn ∧ ∀ rest, ls ≠ token (.lineBreak false) :: rest) :
      Pushed c ls (stray c :: ls)
  /-- A token of one character. -/
  | single {t : Token} {ls : List Lexeme} (htext : t.text = [c]) (hclass : charClass c = t.kind)
      (hparted : ∀ u rest, ls = token u :: rest → t.Parted u) : Pushed c ls (token t :: ls)
  /-- A run that begins one character earlier. -/
  | run {t u : Token} {rest : List Lexeme} (htext : u.text = c :: t.text)
      (hclass : charClass c = t.kind) (hkind : u.kind = t.kind) :
      Pushed c (token t :: rest) (token u :: rest)
  | lineBreak {rest : List Lexeme} (hclass : charClass c = .carriageReturn) :
      Pushed c (token (.lineBreak false) :: rest) (token (.lineBreak true) :: rest)

theorem pushed (c : Char) (ls : List Lexeme) : Pushed c ls (push c ls) := by
  have hc := eq_of_charClass c
  unfold push
  split
  case h_1 h => exact .run rfl h rfl
  case h_2 h hnext =>
    refine .single rfl h ?_
    rintro u rest rfl hkind
    cases u <;> simp_all [Token.kind]
  case h_3 h => exact .run rfl h rfl
  case h_4 h hnext =>
    refine .single rfl h ?_
    rintro u rest rfl hkind
    cases u <;> simp_all [Token.kind]
  case h_5 h => exact .lineBreak h
  case h_6 h hnext => exact .stray (Or.inr ⟨h, fun rest => hnext rest⟩)
  case h_11 h => exact .stray (Or.inl h)
  all_goals
    rename_i h
    rw [h] at hc
    subst hc
    exact .single rfl h fun _ _ _ _ => by simp [Token.kind]

/-- Tokens that stand side by side are parted. -/
def Parted (l m : Lexeme) : Prop :=
  ∀ t u, l = token t → m = token u → t.Parted u

theorem isChain_parted_push (c : Char) (ls : List Lexeme) (h : ls.IsChain Parted) :
    (push c ls).IsChain Parted := by
  have hpushed := pushed c ls
  generalize push c ls = ms at hpushed
  cases hpushed with
  | stray => exact List.isChain_cons.mpr ⟨fun _ _ => nofun, h⟩
  | @single t ls _ _ hparted =>
    refine List.isChain_cons.mpr ⟨?_, h⟩
    rintro m hm _ u ⟨⟩ rfl
    obtain ⟨rest, rfl⟩ := List.head?_eq_some_iff.mp hm
    exact hparted u rest rfl
  | @run t u rest _ _ hkind =>
    obtain ⟨hnext, hrest⟩ := List.isChain_cons.mp h
    refine List.isChain_cons.mpr ⟨?_, hrest⟩
    rintro m hm _ v ⟨⟩ rfl
    have hold := hnext _ hm t v rfl rfl
    rwa [Token.Parted, hkind]
  | lineBreak =>
    obtain ⟨-, hrest⟩ := List.isChain_cons.mp h
    refine List.isChain_cons.mpr ⟨?_, hrest⟩
    rintro m _ _ v ⟨⟩ _ _
    simp [Token.kind]

end Lexeme

/-- The lexer makes every run as long as it can be. -/
theorem isChain_parted_lexemes (cs : List Char) : (lexemes cs).IsChain Lexeme.Parted := by
  induction cs with
  | nil => exact .nil
  | cons c cs ih => exact Lexeme.isChain_parted_push c (lexemes cs) ih

/-- Whether the lexeme is a name. -/
def Lexeme.isName : Lexeme → Bool
  | token (.name _) => true
  | _ => false

/-- A lexeme and the one after it. -/
def Lexeme.Follows (l m : Lexeme) : Prop :=
  l.isName = true → m.isName = false

/-- After a name comes something else, for a name is as long as it can be. -/
theorem isChain_lexemes (cs : List Char) : (lexemes cs).IsChain Lexeme.Follows := by
  refine (isChain_parted_lexemes cs).imp fun l m hparted hl => ?_
  fun_cases Lexeme.isName m with
  | case2 => rfl
  | case1 text =>
    unfold Lexeme.isName at hl
    split at hl
    case h_1 other => exact absurd rfl (hparted _ _ rfl rfl rfl).1
    case h_2 => simp at hl

theorem stop_lt_start_of_place (offset : Nat) (ls : List Lexeme) (h : ls.IsChain Lexeme.Follows)
    (hne : ∀ l ∈ ls, l.text ≠ []) :
    (place offset ls).Pairwise fun x y =>
      x.value.isName = true → y.value.isName = true → x.span.stop < y.span.start := by
  induction ls generalizing offset with
  | nil => exact .nil
  | cons l ls ih =>
    rw [List.isChain_cons] at h
    refine .cons (fun y hy hl hname => ?_) (ih _ h.2 fun m hm => hne m (by simp [hm]))
    cases ls with
    | nil => simp [place] at hy
    | cons m ls =>
      rcases List.mem_cons.mp hy with rfl | hy
      · have hm := h.1 m rfl hl
        simp [hm] at hname
      · have hle := le_start_of_mem_place _ ls y hy
        have hpos := byteLength_pos m.text (hne m (by simp))
        change offset + byteLength l.text < y.span.start
        omega

end BemNotation.Source
