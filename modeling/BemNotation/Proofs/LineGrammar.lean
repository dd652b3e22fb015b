import BemNotation.Block
import BemNotation.Proofs.Lexemes

/-!
Block notation as a grammar of lines, without tokens. A line is a name with an
optional list of modifiers, and blanks stand wherever they do not split a name.
The solid lexemes of a piece of text spell an entry exactly when the piece is a
line with the names of that entry, and there are none exactly when it is blank.
-/

namespace BemNotation.Source

open Unicode

/-- Names between commas, each with blanks around it, up to the last name. -/
inductive NamesText : List (List Char) → List Char → Prop
  | last {gap name : List Char} (hgap : IsGap gap) (hname : IsName name) :
      NamesText [name] (gap ++ name)
  | more {gap name after text : List Char} {names : List (List Char)}
      (hgap : IsGap gap) (hname : IsName name) (hafter : IsGap after)
      (hnames : NamesText names text) :
      NamesText (name :: names) (gap ++ name ++ after ++ ',' :: text)

/-- A line with its name and its modifiers. A list in brackets is never empty. -/
inductive LineText : List Char → List (List Char) → List Char → Prop
  | bare {before name after : List Char} (hbefore : IsGap before) (hname : IsName name)
      (hafter : IsGap after) : LineText name [] (before ++ name ++ after)
  | listed {before name between text inside after : List Char} {modifiers : List (List Char)}
      (hbefore : IsGap before) (hname : IsName name) (hbetween : IsGap between)
      (hnames : NamesText modifiers text) (hinside : IsGap inside) (hafter : IsGap after) :
      LineText name modifiers
        (before ++ name ++ between ++ '[' :: text ++ inside ++ ']' :: after)

/-- Modifiers and the bracket that closes them, as tokens. -/
def listTokens : List (List Char) → List Token
  | [] => [.closeBracket]
  | [name] => [.name name, .closeBracket]
  | name :: names => .name name :: .comma :: listTokens names

/-- An entry as tokens. -/
def entryTokens (name : List Char) : List (List Char) → List Token
  | [] => [.name name]
  | modifiers => .name name :: .openBracket :: listTokens modifiers

theorem NamesText.ne_nil (names : List (List Char)) (text : List Char)
    (h : NamesText names text) : names ≠ [] := by
  cases h <;> simp

theorem NamesText.isName (names : List (List Char)) (text : List Char)
    (h : NamesText names text) : ∀ name ∈ names, IsName name := by
  induction h with
  | last hgap hname => simpa using hname
  | more hgap hname hafter hnames ih => simpa using ⟨hname, ih⟩

theorem LineText.isName (name : List Char) (modifiers : List (List Char)) (text : List Char)
    (h : LineText name modifiers text) : IsName name ∧ ∀ m ∈ modifiers, IsName m := by
  cases h with
  | bare hbefore hname hafter => exact ⟨hname, by simp⟩
  | listed hbefore hname hbetween hnames hinside hafter => exact ⟨hname, hnames.isName⟩

theorem marks_names_append (names : List (List Char)) (text : List Char)
    (h : NamesText names text) (inside cs : List Char) (hinside : IsGap inside) :
    marks (text ++ (inside ++ ']' :: cs)) = (listTokens names).map .token ++ marks cs := by
  have hend : Stops isNameChar (inside ++ ']' :: cs) :=
    stops_gap_append inside _ hinside (stops_cons _ ']' cs (by decide +kernel))
  induction h with
  | @last gap name hgap hname =>
    rw [List.append_assoc, marks_gap_append gap _ hgap, marks_name_append name _ hname hend,
      marks_gap_append inside _ hinside, marks_closeBracket_cons]
    rfl
  | @more gap name after text names hgap hname hafter hnames ih =>
    have hstop : Stops isNameChar (after ++ ',' :: (text ++ (inside ++ ']' :: cs))) :=
      stops_gap_append after _ hafter (stops_cons _ ',' _ (by decide +kernel))
    have htokens : listTokens (name :: names) = .name name :: .comma :: listTokens names := by
      obtain ⟨first, rest, rfl⟩ := List.exists_cons_of_ne_nil hnames.ne_nil
      rfl
    simp only [List.append_assoc, List.cons_append]
    rw [marks_gap_append gap _ hgap, marks_name_append name _ hname hstop,
      marks_gap_append after _ hafter, marks_comma_cons, ih, htokens]
    rfl

/-- A line is spelled by the tokens of its entry, whatever its blanks. -/
theorem marks_lineText (name : List Char) (modifiers : List (List Char)) (text : List Char)
    (h : LineText name modifiers text) :
    marks text = (entryTokens name modifiers).map .token := by
  cases h with
  | @bare before _ after hbefore hname hafter =>
    have hstop : Stops isNameChar after := by
      simpa using stops_gap_append after [] hafter (stops_nil _)
    rw [List.append_assoc, marks_gap_append before _ hbefore, marks_name_append name _ hname hstop,
      marks_gap after hafter]
    rfl
  | @listed before _ between text inside after _ hbefore hname hbetween hnames hinside hafter =>
    have hstop : Stops isNameChar (between ++ '[' :: (text ++ (inside ++ ']' :: after))) :=
      stops_gap_append between _ hbetween (stops_cons _ '[' _ (by decide +kernel))
    obtain ⟨first, rest, rfl⟩ := List.exists_cons_of_ne_nil hnames.ne_nil
    simp only [List.append_assoc, List.cons_append]
    rw [marks_gap_append before _ hbefore, marks_name_append name _ hname hstop,
      marks_gap_append between _ hbetween, marks_openBracket_cons,
      marks_names_append (first :: rest) text hnames inside after hinside, marks_gap after hafter]
    simp [entryTokens]

/-- Lexemes that spell a list are the text of its names, up to its bracket. -/
theorem exists_namesText (names : List (List Char)) (hne : names ≠ []) (tail ls : List Lexeme)
    (hls : ∀ l ∈ ls, l.WellFormed)
    (h : solid ls = (listTokens names).map .token ++ tail) :
    ∃ text inside rest, NamesText names text ∧ IsGap inside ∧ (∀ l ∈ rest, l.WellFormed) ∧
      solid rest = tail ∧ textOf ls = text ++ inside ++ ']' :: textOf rest := by
  induction names generalizing ls with
  | nil => exact absurd rfl hne
  | cons name names ih =>
    cases names with
    | nil =>
      obtain ⟨gap, ls', hgap, hname, hls', hsolid, htext⟩ :=
        exists_gap_of_solid_eq_cons ls hls (.token (.name name)) _ h
      obtain ⟨inside, rest, hinside, _, hrest, hsolid', htext'⟩ :=
        exists_gap_of_solid_eq_cons ls' hls' (.token .closeBracket) tail hsolid
      refine ⟨gap ++ name, inside, rest, NamesText.last hgap hname, hinside, hrest, hsolid', ?_⟩
      rw [htext, htext']
      simp [Lexeme.text, Token.text]
    | cons next names =>
      obtain ⟨gap, ls', hgap, hname, hls', hsolid, htext⟩ :=
        exists_gap_of_solid_eq_cons ls hls (.token (.name name)) _ h
      obtain ⟨after, ls'', hafter, _, hls'', hsolid', htext'⟩ :=
        exists_gap_of_solid_eq_cons ls' hls' (.token .comma) _ hsolid
      obtain ⟨text, inside, rest, hnames, hinside, hrest, hsolid'', htext''⟩ :=
        ih (by simp) ls'' hls'' hsolid'
      refine ⟨gap ++ name ++ after ++ ',' :: text, inside, rest,
        NamesText.more hgap hname hafter hnames, hinside, hrest, hsolid'', ?_⟩
      rw [htext, htext', htext'']
      simp [Lexeme.text, Token.text]

theorem lineText_of_marks (name : List Char) (modifiers : List (List Char)) (text : List Char)
    (h : marks text = (entryTokens name modifiers).map .token) : LineText name modifiers text := by
  have hls := wellFormed_of_mem_lexemes text
  have htext := textOf_lexemes text
  cases modifiers with
  | nil =>
    obtain ⟨before, ls, hbefore, hname, hls', hsolid, hsplit⟩ :=
      exists_gap_of_solid_eq_cons (lexemes text) hls (.token (.name name)) [] h
    have hline := LineText.bare hbefore hname (isGap_of_solid_eq_nil ls hls' hsolid)
    rw [← htext, hsplit, ← List.append_assoc]
    exact hline
  | cons first rest =>
    obtain ⟨before, ls, hbefore, hname, hls', hsolid, hsplit⟩ :=
      exists_gap_of_solid_eq_cons (lexemes text) hls (.token (.name name)) _ h
    obtain ⟨between, ls', hbetween, _, hls'', hsolid', hsplit'⟩ :=
      exists_gap_of_solid_eq_cons ls hls' (.token .openBracket) _ hsolid
    obtain ⟨names, inside, ls'', hnames, hinside, hls''', hsolid'', hsplit''⟩ :=
      exists_namesText (first :: rest) (by simp) [] ls' hls'' (by simpa using hsolid')
    have hline := LineText.listed hbefore hname hbetween hnames hinside
      (isGap_of_solid_eq_nil ls'' hls''' hsolid'')
    rw [← htext, hsplit, hsplit', hsplit'']
    simpa [Lexeme.text, Token.text] using hline

theorem marks_eq_nil_iff (text : List Char) : marks text = [] ↔ IsGap text := by
  constructor
  · intro h
    have hgap := isGap_of_solid_eq_nil (lexemes text) (wellFormed_of_mem_lexemes text) h
    rwa [textOf_lexemes] at hgap
  · exact marks_gap text

end BemNotation.Source
