import BemNotation.Proofs.Characters

/-!
How the lexer cuts a text. Runs of name characters come out whole, blanks change
nothing but the blanks, and every lexeme has the shape its kind promises. A text
is cut piece by piece: the lexemes between two line breaks are those of the text
between them.
-/

namespace BemNotation.Source

open Naming (extendFirst)
open Unicode (Stops stops_cons)

/-- Blanks of one line, possibly none. -/
def IsGap (cs : List Char) : Prop := ∀ c ∈ cs, isSpace c = true

def IsName (cs : List Char) : Prop := cs ≠ [] ∧ ∀ c ∈ cs, isNameChar c = true

theorem isGap_nil : IsGap [] := by simp [IsGap]

theorem isGap_cons (c : Char) (cs : List Char) :
    IsGap (c :: cs) ↔ isSpace c = true ∧ IsGap cs := by
  simp [IsGap]

theorem IsGap.append (cs ds : List Char) (hc : IsGap cs) (hd : IsGap ds) : IsGap (cs ++ ds) := by
  intro c h
  rcases List.mem_append.mp h with h | h
  · exact hc c h
  · exact hd c h

namespace Lexeme

def isBlank : Lexeme → Bool
  | token (.blank _) => true
  | _ => false

/-- What the text of a lexeme of each kind consists of. -/
def WellFormed : Lexeme → Prop
  | token (.name text) => IsName text
  | token (.blank text) => IsGap text
  | _ => True

theorem wellFormed_push (c : Char) (ls : List Lexeme) (h : ∀ l ∈ ls, l.WellFormed) :
    ∀ l ∈ push c ls, l.WellFormed := by
  intro l hl
  unfold push at hl
  split at hl
  case h_1 text rest hc =>
    have hname := (charClass_eq_name_iff c).mp hc
    have htext : IsName text := h (.token (.name text)) (by simp)
    rcases List.mem_cons.mp hl with rfl | hl
    · exact ⟨by simp, by simpa [hname] using htext.2⟩
    · exact h l (by simp [hl])
  case h_2 hc _ =>
    rcases List.mem_cons.mp hl with rfl | hl
    · exact ⟨by simp, by simpa using (charClass_eq_name_iff c).mp hc⟩
    · exact h l hl
  case h_3 text rest hc =>
    have htext : IsGap text := h (.token (.blank text)) (by simp)
    rcases List.mem_cons.mp hl with rfl | hl
    · exact (isGap_cons c text).mpr ⟨(charClass_eq_blank_iff c).mp hc, htext⟩
    · exact h l (by simp [hl])
  case h_4 hc _ =>
    rcases List.mem_cons.mp hl with rfl | hl
    · exact (isGap_cons c []).mpr ⟨(charClass_eq_blank_iff c).mp hc, isGap_nil⟩
    · exact h l hl
  all_goals
    rcases List.mem_cons.mp hl with rfl | hl
    · trivial
    · exact h l (by simp [hl])

end Lexeme

theorem lexemes_cons (c : Char) (cs : List Char) :
    lexemes (c :: cs) = Lexeme.push c (lexemes cs) := rfl

theorem wellFormed_of_mem_lexemes (cs : List Char) :
    ∀ l ∈ lexemes cs, l.WellFormed := by
  induction cs with
  | nil => simp [lexemes]
  | cons c cs ih => exact Lexeme.wellFormed_push c (lexemes cs) ih

/-- The lexemes that are no blanks. -/
def solid (ls : List Lexeme) : List Lexeme :=
  ls.filter (!·.isBlank)

/-- The solid lexemes of a text. -/
def marks (cs : List Char) : List Lexeme :=
  solid (lexemes cs)

theorem isNameChar_of_isSpace (c : Char) (h : isSpace c = true) : isNameChar c = false := by
  simp only [isSpace, Bool.and_eq_true] at h
  exact isNameChar_of_isWhiteSpace c h.1.1

theorem stops_gap_append (gap cs : List Char) (hgap : IsGap gap) (hcs : Stops isNameChar cs) :
    Stops isNameChar (gap ++ cs) := by
  cases gap with
  | nil => exact hcs
  | cons c gap =>
    exact stops_cons _ c _ (isNameChar_of_isSpace c ((isGap_cons c gap).mp hgap).1)

theorem lexemes_ne_name_cons (cs : List Char) (h : Stops isNameChar cs) (text : List Char)
    (ls : List Lexeme) : lexemes cs ≠ .token (.name text) :: ls := by
  cases cs with
  | nil => simp [lexemes]
  | cons c cs =>
    have hc : charClass c ≠ .name := by
      rw [Ne, charClass_eq_name_iff, h c cs rfl]
      simp
    rw [lexemes_cons]
    unfold Lexeme.push
    split <;> simp_all

/-- A name that nothing makes longer is one lexeme. -/
theorem lexemes_name_append (name cs : List Char) (hname : IsName name) (hcs : Stops isNameChar cs) :
    lexemes (name ++ cs) = .token (.name name) :: lexemes cs := by
  obtain ⟨hne, hall⟩ := hname
  induction name with
  | nil => exact absurd rfl hne
  | cons c name ih =>
    have hc : charClass c = .name := (charClass_eq_name_iff c).mpr (hall c (by simp))
    rw [List.cons_append, lexemes_cons]
    cases name with
    | nil =>
      have hfirst := lexemes_ne_name_cons cs hcs
      unfold Lexeme.push
      split <;> simp_all
    | cons d name =>
      rw [ih (by simp) (fun x hx => hall x (by simp [hx]))]
      simp [Lexeme.push, hc]

theorem solid_push_space (c : Char) (ls : List Lexeme) (h : isSpace c = true) :
    solid (Lexeme.push c ls) = solid ls := by
  have hc : charClass c = .blank := (charClass_eq_blank_iff c).mpr h
  unfold Lexeme.push
  split <;> simp_all [solid, Lexeme.isBlank]

theorem marks_gap_append (gap cs : List Char) (h : IsGap gap) : marks (gap ++ cs) = marks cs := by
  induction gap with
  | nil => rfl
  | cons c gap ih =>
    obtain ⟨hc, hgap⟩ := (isGap_cons c gap).mp h
    calc marks (c :: (gap ++ cs)) = marks (gap ++ cs) := solid_push_space c _ hc
      _ = marks cs := ih hgap

theorem marks_gap (gap : List Char) (h : IsGap gap) : marks gap = [] := by
  have happend := marks_gap_append gap [] h
  rwa [List.append_nil] at happend

theorem marks_name_append (name cs : List Char) (hname : IsName name) (hcs : Stops isNameChar cs) :
    marks (name ++ cs) = .token (.name name) :: marks cs := by
  unfold marks
  rw [lexemes_name_append name cs hname hcs]
  rfl

theorem marks_openBracket_cons (cs : List Char) :
    marks ('[' :: cs) = .token .openBracket :: marks cs := rfl

theorem marks_closeBracket_cons (cs : List Char) :
    marks (']' :: cs) = .token .closeBracket :: marks cs := rfl

theorem marks_comma_cons (cs : List Char) : marks (',' :: cs) = .token .comma :: marks cs := rfl

/-- The text of several lexemes. -/
def textOf (ls : List Lexeme) : List Char :=
  ls.flatMap Lexeme.text

theorem textOf_append (ls ms : List Lexeme) : textOf (ls ++ ms) = textOf ls ++ textOf ms := by
  simp [textOf]

theorem textOf_cons (l : Lexeme) (ls : List Lexeme) : textOf (l :: ls) = l.text ++ textOf ls := rfl

theorem textOf_lexemes (cs : List Char) : textOf (lexemes cs) = cs :=
  flatMap_text_lexemes cs

theorem isGap_textOf (ls : List Lexeme) (hls : ∀ l ∈ ls, l.WellFormed)
    (hblank : ∀ l ∈ ls, l.isBlank = true) : IsGap (textOf ls) := by
  intro c hc
  obtain ⟨l, hl, hcl⟩ := List.mem_flatMap.mp hc
  have hshape := hls l hl
  have hkind := hblank l hl
  unfold Lexeme.isBlank at hkind
  split at hkind
  · exact hshape c hcl
  · simp at hkind

theorem isGap_of_solid_eq_nil (ls : List Lexeme) (hls : ∀ l ∈ ls, l.WellFormed)
    (h : solid ls = []) : IsGap (textOf ls) := by
  apply isGap_textOf ls hls
  intro l hl
  simpa using List.filter_eq_nil_iff.mp h l hl

/-- Before the first solid lexeme there are only blanks. -/
theorem exists_gap_of_solid_eq_cons (ls : List Lexeme) (hls : ∀ l ∈ ls, l.WellFormed)
    (x : Lexeme) (xs : List Lexeme) (h : solid ls = x :: xs) :
    ∃ gap rest, IsGap gap ∧ x.WellFormed ∧ (∀ l ∈ rest, l.WellFormed) ∧ solid rest = xs ∧
      textOf ls = gap ++ (x.text ++ textOf rest) := by
  obtain ⟨before, rest, rfl, hbefore, _, hrest⟩ := List.filter_eq_cons_iff.mp h
  refine ⟨textOf before, rest, ?_, hls x (by simp), fun l hl => hls l (by simp [hl]), hrest, ?_⟩
  · apply isGap_textOf before (fun l hl => hls l (by simp [hl]))
    intro l hl
    simpa using hbefore l hl
  · rw [textOf_append, textOf_cons]

/-- A text cut at its line breaks. A carriage return in front of a line feed
belongs to the break. -/
def pieces : List Char → List (List Char)
  | [] => [[]]
  | '\r' :: '\n' :: cs => [] :: pieces cs
  | '\n' :: cs => [] :: pieces cs
  | c :: cs => extendFirst c (pieces cs)

theorem extendFirst_ne_nil {α : Type} (x : α) (items : List (List α)) :
    extendFirst x items ≠ [] := by
  unfold extendFirst
  split <;> simp

theorem pieces_ne_nil (cs : List Char) : pieces cs ≠ [] := by
  fun_cases pieces cs
  · simp
  · simp
  · simp
  · exact extendFirst_ne_nil _ _

/-- Lexemes cut at the line breaks. -/
def rows : List Lexeme → List (List Lexeme)
  | [] => [[]]
  | .token (.lineBreak _) :: ls => [] :: rows ls
  | l :: ls => extendFirst l (rows ls)

theorem rows_ne_nil (ls : List Lexeme) : rows ls ≠ [] := by
  fun_cases rows ls
  · simp
  · simp
  · exact extendFirst_ne_nil _ _

/-- Whether a lexeme ends its row. -/
def Lexeme.isBreak : Lexeme → Bool
  | token (.lineBreak _) => true
  | _ => false

theorem Lexeme.exists_of_isBreak (l : Lexeme) (h : l.isBreak = true) :
    ∃ returns, l = token (.lineBreak returns) := by
  rcases l with ⟨_ | _ | _ | _ | _ | returns⟩ | _ <;> simp_all [isBreak]

theorem rows_cons (l : Lexeme) (ls : List Lexeme) (h : l.isBreak = false) :
    rows (l :: ls) = extendFirst l (rows ls) := by
  cases l with
  | stray c => rfl
  | token t =>
    cases t with
    | lineBreak returns => simp [Lexeme.isBreak] at h
    | _ => rfl

theorem rows_append (first ls row : List Lexeme) (rest : List (List Lexeme))
    (hfirst : ∀ l ∈ first, l.isBreak = false) (hrows : rows ls = row :: rest) :
    rows (first ++ ls) = (first ++ row) :: rest := by
  induction first with
  | nil => exact hrows
  | cons l first ih =>
    rw [List.cons_append, rows_cons l _ (hfirst l (by simp)), ih fun x hx => hfirst x (by simp [hx])]
    rfl

/-- A character in front of other lexemes changes the first of them at most. -/
theorem push_cons (c : Char) (l : Lexeme) (ls : List Lexeme) :
    Lexeme.push c (l :: ls) = Lexeme.push c [l] ++ ls := by
  unfold Lexeme.push
  cases charClass c <;> rcases l with ⟨_ | _ | _ | _ | _ | _ | _⟩ | _ <;> rfl

/-- Only a carriage return joins the line break after it. -/
theorem push_lineBreak_cons (c : Char) (returns : Bool) (ls : List Lexeme)
    (h : c = '\r' → returns = true) :
    Lexeme.push c (.token (.lineBreak returns) :: ls) =
      Lexeme.push c [] ++ .token (.lineBreak returns) :: ls := by
  have hc := eq_of_charClass c
  unfold Lexeme.push
  split <;> simp_all

theorem isBreak_of_mem_push (c : Char) (ls : List Lexeme) (hfeed : c ≠ '\n')
    (hls : ∀ l ∈ ls, l.isBreak = false) : ∀ l ∈ Lexeme.push c ls, l.isBreak = false := by
  have hc := eq_of_charClass c
  unfold Lexeme.push
  split <;> simp_all [Lexeme.isBreak]

/-- A character other than a line break joins the first row. -/
theorem rows_push (c : Char) (ls row : List Lexeme) (rest : List (List Lexeme))
    (hrows : rows ls = row :: rest) (hfeed : c ≠ '\n')
    (hreturn : c = '\r' → ∀ ms, ls ≠ .token (.lineBreak false) :: ms) :
    rows (Lexeme.push c ls) = Lexeme.push c row :: rest := by
  have hunbroken := isBreak_of_mem_push c [] hfeed (by simp)
  cases ls with
  | nil =>
    obtain ⟨rfl, rfl⟩ : [] = row ∧ [] = rest := by simpa [rows] using hrows
    have happend := rows_append (Lexeme.push c []) [] [] [] hunbroken rfl
    simpa only [List.append_nil] using happend
  | cons l ms =>
    cases hl : l.isBreak with
    | true =>
      obtain ⟨returns, rfl⟩ := l.exists_of_isBreak hl
      have hjoin := push_lineBreak_cons c returns ms fun hc => by
        cases returns with
        | true => rfl
        | false => exact absurd rfl (hreturn hc ms)
      obtain ⟨rfl, rfl⟩ : [] = row ∧ rows ms = rest := by simpa [rows] using hrows
      rw [hjoin]
      simpa only [List.append_nil] using rows_append _ _ [] (rows ms) hunbroken rfl
    | false =>
      rw [rows_cons l ms hl] at hrows
      obtain ⟨first, others, hms⟩ := List.exists_cons_of_ne_nil (rows_ne_nil ms)
      rw [hms] at hrows
      obtain ⟨rfl, rfl⟩ : l :: first = row ∧ others = rest := by simpa [extendFirst] using hrows
      rw [push_cons c l ms, push_cons c l first]
      exact rows_append _ ms first others (isBreak_of_mem_push c [l] hfeed (by simpa using hl)) hms

/-- Cutting at the line breaks and into lexemes can be done in either order. -/
theorem rows_lexemes (cs : List Char) : rows (lexemes cs) = (pieces cs).map lexemes := by
  fun_induction pieces cs with
  | case1 => rfl
  | case2 cs ih =>
    change [] :: rows (lexemes cs) = [] :: (pieces cs).map lexemes
    rw [ih]
  | case3 cs ih =>
    change [] :: rows (lexemes cs) = [] :: (pieces cs).map lexemes
    rw [ih]
  | case4 c cs hreturn hfeed ih =>
    obtain ⟨first, rest, hpieces⟩ := List.exists_cons_of_ne_nil (pieces_ne_nil cs)
    rw [hpieces] at ih ⊢
    apply rows_push c (lexemes cs) (lexemes first) (rest.map lexemes) ih hfeed
    intro hc ms hms
    have htext := textOf_lexemes cs
    rw [hms] at htext
    exact hreturn (textOf ms) hc htext.symm

end BemNotation.Source
