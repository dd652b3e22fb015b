import BemNotation.Proofs.Lexemes
import Mathlib.Order.Hom.Basic

/-!
Line breaks of two characters replaced by line feeds. A text then loses the carriage
returns of these line breaks, and an offset of the shorter text belongs to one of the text
itself, which is larger by the number of those that came before. The lexer cuts both texts
alike, and never within a line break.
-/

namespace BemNotation.Source

/-- The text with a line feed for each carriage return and line feed. -/
def withLineFeeds : List Char → List Char
  | [] => []
  | '\r' :: '\n' :: cs => '\n' :: withLineFeeds cs
  | c :: cs => c :: withLineFeeds cs

/-- Whether there are carriage returns only directly before line feeds. -/
def ReturnsInBreaks (cs : List Char) : Prop :=
  ∀ before after, cs = before ++ '\r' :: after → after.head? = some '\n'

/-- Where the line breaks of two characters end in the text that has line feeds for them.
That text begins at `offset`. -/
def returnEnds (offset : Nat) : List Char → List Nat
  | [] => []
  | '\r' :: '\n' :: cs => (offset + 1) :: returnEnds (offset + 1) cs
  | c :: cs => returnEnds (offset + c.utf8Size) cs

/-- The offset of the text that belongs to one of the text with line feeds. It is larger by
the number of line breaks of two characters that end at or before it. -/
def sourceOffset (cs : List Char) (offset : Nat) : Nat :=
  offset + (returnEnds 0 cs).countP (· ≤ offset)

theorem returnsInBreaks_cons (c : Char) (cs : List Char) :
    ReturnsInBreaks (c :: cs) ↔ (c = '\r' → cs.head? = some '\n') ∧ ReturnsInBreaks cs := by
  constructor
  · intro h
    refine ⟨?_, fun before after hcs => h (c :: before) after (congrArg (c :: ·) hcs)⟩
    rintro rfl
    exact h [] cs rfl
  · rintro ⟨hfirst, hrest⟩ before after hcs
    rcases before with _ | ⟨d, before⟩
    · obtain ⟨rfl, rfl⟩ : c = '\r' ∧ cs = after := by simpa using hcs
      exact hfirst rfl
    · obtain ⟨rfl, rfl⟩ : c = d ∧ cs = before ++ '\r' :: after := by simpa using hcs
      exact hrest before after rfl

theorem returnsInBreaks_iff (cs : List Char) : ReturnsInBreaks cs ↔ '\r' ∉ withLineFeeds cs := by
  fun_induction withLineFeeds cs with
  | case1 => simp [ReturnsInBreaks]
  | case2 cs ih => simp [returnsInBreaks_cons, ih]
  | case3 c cs hbreak ih =>
    rw [returnsInBreaks_cons, ih, List.mem_cons, not_or]
    refine and_congr_left fun _ => ⟨?_, fun hc heq => absurd heq.symm hc⟩
    rintro hnext rfl
    obtain ⟨rest, rfl⟩ := List.head?_eq_some_iff.mp (hnext rfl)
    exact hbreak rest rfl rfl

theorem lt_of_mem_returnEnds (offset : Nat) (cs : List Char) :
    ∀ stop ∈ returnEnds offset cs, offset < stop := by
  fun_induction returnEnds offset cs with
  | case1 => simp
  | case2 offset cs ih =>
    intro stop hstop
    rcases List.mem_cons.mp hstop with rfl | hstop
    · omega
    · have hrest := ih stop hstop
      omega
  | case3 offset c cs _ ih =>
    intro stop hstop
    have hrest := ih stop hstop
    omega

theorem returnEnds_append (offset : Nat) (cs ds : List Char) (h : '\r' ∉ cs) :
    returnEnds offset (cs ++ ds) = returnEnds (offset + byteLength cs) ds := by
  induction cs generalizing offset with
  | nil => rfl
  | cons c cs ih =>
    obtain ⟨hc, hcs⟩ : '\r' ≠ c ∧ '\r' ∉ cs := by simpa using h
    rw [List.cons_append, returnEnds, ih _ hcs, byteLength_cons, Nat.add_assoc]
    rintro _ rfl
    exact absurd rfl hc

/-- The token with a line feed for its line break. -/
def Token.plain : Token → Token
  | lineBreak _ => lineBreak false
  | t => t

namespace Lexeme

def plain : Lexeme → Lexeme
  | token t => token t.plain
  | stray c => stray c

/-- Whether a carriage return in the lexeme is that of a line break. -/
def Tidy (l : Lexeme) : Prop :=
  l = token (.lineBreak true) ∨ '\r' ∉ l.text ∧ l.plain = l

theorem tidy_push (c : Char) (ls : List Lexeme) (hc : '\r' ≠ c) (h : ∀ l ∈ ls, l.Tidy) :
    ∀ l ∈ push c ls, l.Tidy := by
  have hclass := eq_of_charClass c
  unfold push
  split <;> simp_all [Tidy, plain, Token.plain, text, Token.text]

theorem push_map_plain (c : Char) (ls : List Lexeme) (hc : '\r' ≠ c) :
    push c (ls.map plain) = (push c ls).map plain := by
  have hclass := eq_of_charClass c
  unfold push
  cases hkind : charClass c <;> rcases ls with _ | ⟨⟨_ | _ | _ | _ | _ | _⟩ | _, ls⟩ <;>
    simp_all [plain, Token.plain]

end Lexeme

/-- The lexer makes the same of both texts, but for the spelling of line breaks. -/
theorem lexemes_withLineFeeds (cs : List Char) (h : '\r' ∉ withLineFeeds cs) :
    lexemes (withLineFeeds cs) = (lexemes cs).map Lexeme.plain ∧ ∀ l ∈ lexemes cs, l.Tidy := by
  fun_induction withLineFeeds cs with
  | case1 => exact ⟨rfl, by simp [lexemes]⟩
  | case2 cs ih =>
    obtain ⟨hplain, htidy⟩ := ih (by simpa using h)
    have hcut : lexemes ('\r' :: '\n' :: cs) = .token (.lineBreak true) :: lexemes cs := rfl
    refine ⟨?_, ?_⟩
    · rw [hcut, List.map_cons, ← hplain]
      rfl
    · rw [hcut]
      exact List.forall_mem_cons.mpr ⟨Or.inl rfl, htidy⟩
  | case3 c cs hbreak ih =>
    obtain ⟨hc, hcs⟩ : '\r' ≠ c ∧ '\r' ∉ withLineFeeds cs := by simpa using h
    obtain ⟨hplain, htidy⟩ := ih hcs
    rw [lexemes_cons, lexemes_cons, hplain]
    exact ⟨Lexeme.push_map_plain c _ hc, Lexeme.tidy_push c _ hc htidy⟩

/-- Between two lexemes, the line breaks before make up for the difference. -/
theorem add_countP_returnEnds (offset : Nat) (ls ms : List Lexeme) (h : ∀ l ∈ ls, l.Tidy) :
    byteLength (textOf (ls.map Lexeme.plain)) +
        (returnEnds offset (textOf (ls ++ ms))).countP
          (· ≤ offset + byteLength (textOf (ls.map Lexeme.plain))) =
      byteLength (textOf ls) := by
  -- The offset carries what was read so far. Line breaks in `ms` end after it.
  induction ls generalizing offset with
  | nil =>
    have hlate := lt_of_mem_returnEnds offset (textOf ms)
    have hnone : (returnEnds offset (textOf ms)).countP (· ≤ offset) = 0 := by
      simpa [List.countP_eq_zero] using hlate
    simpa [textOf] using hnone
  | cons l ls ih =>
    obtain ⟨hl, hls⟩ := List.forall_mem_cons.mp h
    rcases hl with rfl | ⟨hreturn, hplain⟩
    · have hrest := ih (offset + 1) hls
      change 1 + byteLength (textOf (ls.map Lexeme.plain)) +
        List.countP (· ≤ offset + (1 + byteLength (textOf (ls.map Lexeme.plain))))
          ((offset + 1) :: returnEnds (offset + 1) (textOf (ls ++ ms))) =
        1 + (1 + byteLength (textOf ls))
      rw [List.countP_cons_of_pos (by simp), ← Nat.add_assoc offset, ← hrest]
      omega
    · have hrest := ih (offset + byteLength l.text) hls
      rw [List.map_cons, hplain, List.cons_append, textOf_cons, textOf_cons, textOf_cons,
        returnEnds_append _ _ _ hreturn, byteLength_append, byteLength_append, ← hrest]
      simp only [Nat.add_assoc]

theorem sourceOffset_textOf (ls ms : List Lexeme) (h : ∀ l ∈ ls, l.Tidy) :
    sourceOffset (textOf (ls ++ ms)) (byteLength (textOf (ls.map Lexeme.plain))) =
      byteLength (textOf ls) := by
  have hcount := add_countP_returnEnds 0 ls ms h
  rwa [Nat.zero_add] at hcount

theorem sourceOffset_zero (cs : List Char) : sourceOffset cs 0 = 0 := by
  have hlate := lt_of_mem_returnEnds 0 cs
  simpa [sourceOffset, List.countP_eq_zero, Nat.pos_iff_ne_zero] using hlate

/-- The offsets of a text from those of the text with line feeds, in the same order. -/
def offsetMap (cs : List Char) : Nat →o Nat where
  toFun := sourceOffset cs
  monotone' := by
    intro a b hab
    apply Nat.add_le_add hab
    apply List.countP_mono_left
    intro stop _ hstop
    simp only [decide_eq_true_eq] at hstop ⊢
    omega

end BemNotation.Source
