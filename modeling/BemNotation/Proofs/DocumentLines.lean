import BemNotation.Proofs.DocumentText
import BemNotation.Toml

/-!
The reader on the lines of a document. The statement of a line is read in front of whatever
follows the line, and lines that say nothing are passed over. So a document is read as its
statements, and the reader keeps to the grammar.
-/

namespace BemNotation.Toml

open Data
open Unicode (Stops stops_cons takeWhile_append_of_stops)

theorem isGap_of_isBlanks (cs : List Char) (h : IsBlanks cs) : IsGap cs :=
  fun c hc => Or.inl (h c hc)

theorem skipBlanks_append (blanks cs : List Char) (h : IsBlanks blanks) :
    skipBlanks (blanks ++ cs) = skipBlanks cs :=
  List.dropWhile_append_of_pos h

theorem stops_blanks_append (p : Char → Bool) (blanks cs : List Char) (h : IsBlanks blanks)
    (hp : ∀ c, isBlank c = true → p c = false) (hcs : Stops p cs) : Stops p (blanks ++ cs) := by
  cases blanks with
  | nil => exact hcs
  | cons c blanks => exact stops_cons _ _ _ (hp c (h c (by simp)))

theorem all_isBare_of_isBareName (name : String) (h : isBareName name = true) :
    name.toList ≠ [] ∧ ∀ c ∈ name.toList, isBare c = true := by
  simp only [isBareName, Bool.and_eq_true, Bool.not_eq_true', List.isEmpty_eq_false_iff,
    List.all_eq_true] at h
  exact h

theorem first_of_isBareName (name : String) (h : isBareName name = true) :
    ∃ c cs, name.toList = c :: cs ∧ isBare c = true := by
  obtain ⟨hne, hbare⟩ := all_isBare_of_isBareName name h
  obtain ⟨c, cs, hname⟩ := List.exists_cons_of_ne_nil hne
  exact ⟨c, cs, hname, hbare c (by simp [hname])⟩

theorem isBare_of_isBlank (c : Char) (h : isBlank c = true) : isBare c = false := by
  simp only [isBlank, Bool.or_eq_true, decide_eq_true_eq] at h
  rcases h with rfl | rfl <;> decide +kernel

theorem isBlank_of_isBare (c : Char) (h : isBare c = true) : isBlank c = false := by
  cases hblank : isBlank c with
  | false => rfl
  | true => simp [isBare_of_isBlank c hblank] at h

theorem gap_cons_of_isBare (c : Char) (cs : List Char) (h : isBare c = true) :
    gap (c :: cs) = c :: cs := by
  have hblank := isBlank_of_isBare c h
  have hchars : c ≠ '\n' ∧ c ≠ '\r' ∧ c ≠ '#' := by
    refine ⟨?_, ?_, ?_⟩ <;> rintro rfl <;> revert h <;> decide +kernel
  simp [gap, skipGap, endsLine, hblank, hchars]

/-- A name is read with the blanks around it. -/
theorem readKey_append (name : String) (before rest : List Char) (h : isBareName name = true)
    (hbefore : IsBlanks before) (hrest : Stops isBare rest)
    (hdot : (skipBlanks rest).head? ≠ some '.') :
    readKey (before ++ (name.toList ++ rest)) = some (⟨[], name⟩, skipBlanks rest) := by
  obtain ⟨c, cs, hname, hc⟩ := first_of_isBareName name h
  have hskip : skipBlanks (before ++ (name.toList ++ rest)) = name.toList ++ rest := by
    rw [skipBlanks_append _ _ hbefore, hname]
    exact List.dropWhile_cons_of_neg (by simp [isBlank_of_isBare c hc])
  have hrun := (takeWhile_append_of_stops isBare name.toList rest hrest
    (all_isBare_of_isBareName name h).2).1
  have hread : readName (name.toList ++ rest) = some (name, rest) := by
    unfold readName
    rw [hrun]
    split
    case h_1 hnil => exact absurd hnil (all_isBare_of_isBareName name h).1
    case h_2 => simp
  have hnames (count : Nat) :
      readNames (count + 1) (before ++ (name.toList ++ rest)) = some ([name], skipBlanks rest) := by
    simp only [readNames, hskip, hread, Option.bind_eq_bind, Option.bind_some]
    split
    case h_1 hnext => simp [hnext] at hdot
    case h_2 => rfl
  unfold readKey
  rw [show maxNames = 79 + 1 from rfl, hnames 79]
  rfl

/-- A name, blanks and a sign that ends it. -/
theorem readKey_sign (name : String) (before after rest : List Char) (sign : Char)
    (h : isBareName name = true) (hbefore : IsBlanks before) (hafter : IsBlanks after)
    (hsign : isBare sign = false ∧ isBlank sign = false ∧ sign ≠ '.') :
    readKey (before ++ (name.toList ++ (after ++ sign :: rest))) =
      some (⟨[], name⟩, sign :: rest) := by
  have hskip : skipBlanks (after ++ sign :: rest) = sign :: rest := by
    rw [skipBlanks_append _ _ hafter]
    exact List.dropWhile_cons_of_neg (by simp [hsign.2.1])
  have hkey := readKey_append name before (after ++ sign :: rest) h hbefore
    (stops_blanks_append isBare after _ hafter isBare_of_isBlank (stops_cons _ _ _ hsign.1))
    (by simpa [hskip] using hsign.2.2)
  rwa [hskip] at hkey

theorem readStatement_assignment (name : String) (v : Value) (before after cs rest : List Char)
    (hname : isBareName name = true) (hbefore : IsBlanks before) (hafter : IsBlanks after)
    (hv : ValueText BasicText v cs) (hrest : rest.head? ≠ some '"') :
    readStatement (name.toList ++ (before ++ '=' :: (after ++ cs)) ++ rest) =
      some (.assignment ⟨[], name⟩ v, rest) := by
  obtain ⟨c, chars, hchars, hc⟩ := first_of_isBareName name hname
  have hkey := readKey_sign name [] before (after ++ (cs ++ rest)) '=' hname (by simp [IsBlanks])
    hbefore (by decide +kernel)
  have hskip : skipBlanks (after ++ (cs ++ rest)) = cs ++ rest := by
    rw [skipBlanks_append _ _ hafter, skipBlanks_valueText v cs rest hv]
  have hread := readValue_valueText maxNesting ((cs ++ rest).length + 1) v cs rest hv (by decide)
    (by rw [List.length_append]; omega) hrest
  -- A name does not begin with a bracket, so the line is no header.
  have hbracket : ∀ tail, name.toList ++ (before ++ '=' :: (after ++ (cs ++ rest))) ≠
      '[' :: tail := by
    rw [hchars]
    rintro tail heq
    obtain ⟨rfl, -⟩ := List.cons.inj heq
    revert hc
    decide +kernel
  simp only [List.append_assoc, List.cons_append]
  unfold readStatement
  split
  case h_1 heq => exact absurd heq (hbracket _)
  case h_2 heq => exact absurd heq (hbracket _)
  case h_3 =>
    rw [List.nil_append] at hkey
    rw [hkey]
    change (readValue maxNesting ((skipBlanks (after ++ (cs ++ rest))).length + 1)
      (skipBlanks (after ++ (cs ++ rest)))).bind _ = _
    rw [hskip, hread]
    rfl

theorem readStatement_rowHeader (name : String) (before after rest : List Char)
    (hname : isBareName name = true) (hbefore : IsBlanks before) (hafter : IsBlanks after) :
    readStatement ('[' :: '[' :: (before ++ (name.toList ++ (after ++ [']', ']']))) ++ rest) =
      some (.rowHeader ⟨[], name⟩, rest) := by
  have hkey := readKey_sign name before after (']' :: rest) ']' hname hbefore hafter
    (by decide +kernel)
  simp only [List.append_assoc, List.cons_append, List.nil_append]
  rw [readStatement, hkey]
  rfl

/-- The statement of a line is read in front of anything but a quote. -/
theorem readStatement_statementText (s : Statement) (text rest : List Char)
    (h : StatementText BasicText s text) (hrest : rest.head? ≠ some '"') :
    readStatement (text ++ rest) = some (s, rest) := by
  cases h with
  | assignment hname hbefore hafter hv =>
    exact readStatement_assignment _ _ _ _ _ _ hname hbefore hafter hv hrest
  | rowHeader hname hbefore hafter =>
    exact readStatement_rowHeader _ _ _ _ hname hbefore hafter

/-- A statement begins with a name or a bracket. -/
theorem first_of_statementText (s : Statement) (text : List Char)
    (h : StatementText BasicText s text) :
    ∃ c cs, text = c :: cs ∧ (isBare c = true ∨ c = '[') := by
  cases h with
  | @assignment name v before after cs hname =>
    obtain ⟨c, chars, hchars, hc⟩ := first_of_isBareName name hname
    exact ⟨c, _, by rw [hchars]; rfl, Or.inl hc⟩
  | rowHeader => exact ⟨'[', _, rfl, Or.inr rfl⟩

theorem gap_statementText (s : Statement) (text rest : List Char)
    (h : StatementText BasicText s text) : gap (text ++ rest) = text ++ rest := by
  obtain ⟨c, cs, rfl, hc | rfl⟩ := first_of_statementText s text h
  · exact gap_cons_of_isBare c _ hc
  · rfl

theorem readLineEnd_blanks (trail rest : List Char) (h : IsBlanks trail) :
    readLineEnd (trail ++ '\n' :: rest) = some rest := by
  have hskip : skipBlanks (trail ++ '\n' :: rest) = '\n' :: rest :=
    skipBlanks_append trail _ h
  unfold readLineEnd
  rw [hskip]
  rfl

theorem readStatements_congr (fuel : Nat) (cs cs' : List Char) (h : gap cs = gap cs') :
    readStatements fuel cs = readStatements fuel cs' := by
  cases fuel with
  | zero => rfl
  | succ fuel => rw [readStatements, readStatements, h]

/-- A document is read as its statements. -/
theorem readStatements_documentText (ss : List Statement) (cs : List Char)
    (h : DocumentText BasicText ss cs) (fuel : Nat) (hfuel : cs.length < fuel) :
    readStatements fuel cs = some ss := by
  induction h generalizing fuel with
  | nil =>
    obtain ⟨fuel, rfl⟩ := Nat.exists_eq_add_of_le' hfuel
    rfl
  | @empty ss indent cs hindent _ ih =>
    have hgap : gap (indent ++ '\n' :: cs) = gap cs :=
      gap_append indent _ (isGap_of_isBlanks indent hindent)
    rw [readStatements_congr fuel _ _ hgap]
    apply ih
    simp only [List.length_append, List.length_cons] at hfuel
    omega
  | @line s ss indent text trail cs hindent htext htrail _ ih =>
    obtain ⟨fuel, rfl⟩ := Nat.exists_eq_add_of_le' (Nat.one_le_of_lt hfuel)
    have hlater := ih fuel (by
      simp only [List.length_append, List.length_cons] at hfuel
      omega)
    have hgap : gap (indent ++ (text ++ (trail ++ '\n' :: cs))) =
        text ++ (trail ++ '\n' :: cs) := by
      rw [gap_append _ _ (isGap_of_isBlanks indent hindent), gap_statementText s _ _ htext]
    have hread := readStatement_statementText s text (trail ++ '\n' :: cs) htext
      (head?_gap_append _ _ _ (isGap_of_isBlanks trail htrail) (by decide))
    rw [readStatements, hgap]
    split
    case h_1 hnil =>
      obtain ⟨c, chars, rfl, -⟩ := first_of_statementText s text htext
      simp at hnil
    case h_2 =>
      rw [hread]
      change (readLineEnd _).bind _ = _
      rw [readLineEnd_blanks _ _ htrail]
      change (readStatements fuel cs).bind _ = _
      rw [hlater]
      rfl

/-- A document does not begin with a byte order mark. -/
theorem head?_documentText (ss : List Statement) (cs : List Char)
    (h : DocumentText BasicText ss cs) : cs.head? ≠ some '\uFEFF' := by
  have hblanks (blanks rest : List Char) (hblanks : IsBlanks blanks)
      (hrest : rest.head? ≠ some '\uFEFF') : (blanks ++ rest).head? ≠ some '\uFEFF' := by
    cases blanks with
    | nil => exact hrest
    | cons c blanks =>
      intro hmark
      obtain rfl : c = '\uFEFF' := by simpa using hmark
      exact absurd (hblanks '\uFEFF' (by simp)) (by decide +kernel)
  cases h with
  | nil => simp
  | empty hindent _ => exact hblanks _ _ hindent (by simp)
  | @line s ss indent text trail cs hindent htext htrail _ =>
    apply hblanks _ _ hindent
    obtain ⟨c, chars, rfl, hc⟩ := first_of_statementText s text htext
    intro hmark
    obtain rfl : c = '\uFEFF' := by simpa using hmark
    revert hc
    decide +kernel

theorem read?_documentText (ss : List Statement) (text : String)
    (h : DocumentText BasicText ss text.toList) : read? text = documentTable? ss := by
  have hread := readStatements_documentText ss text.toList h _ (Nat.lt_succ_self _)
  unfold read?
  split
  case h_1 cs hmark => exact absurd (congrArg List.head? hmark) (head?_documentText _ _ h)
  case h_2 =>
    change (readStatements (text.toList.length + 1) text.toList).bind _ = _
    rw [hread]
    rfl

/-- The reader keeps to the grammar. -/
theorem readsDocuments_format : ReadsDocuments format := by
  intro ss table text htext htable α shape a hshape
  have hread := read?_documentText ss text htext
  change read shape text = .ok a
  rw [read, hread, htable, Option.bind_some, hshape handwritten _ (.same _)]

end BemNotation.Toml
