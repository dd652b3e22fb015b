import BemNotation.Proofs.ParamCase
import BemNotation.Proofs.ReadableDeclaration

/-!
Declarations as rows. A declaration has rows of its own, each with a depth, and a layout
has no part in them: it indents each row by its depth, ends each with a line break, and
sets a semicolon after the last one or not. The rows of a record stand one level deeper
than the two rows with its brackets.
-/

namespace BemNotation

open Alias Unicode

/-- A line of a declaration, without its indentation and its line break. -/
structure Row where
  depth : Nat
  content : List Char

def Unbroken (cs : List Char) : Prop :=
  ∀ c ∈ cs, c ≠ '\r' ∧ c ≠ '\n'

instance (cs : List Char) : Decidable (Unbroken cs) :=
  decidable_of_iff (cs.all fun c => c != '\r' && c != '\n') (by simp [Unbroken])

/-- A row without line breaks that begins where its indentation ends. -/
structure Row.IsClean (row : Row) : Prop where
  unbroken : Unbroken row.content
  flush : row.content.head? ≠ some ' '

/-- Rows of one depth. A row that ends with an opening bracket is followed by rows that
are one level deeper, and these by a row that begins with the closing bracket. -/
inductive Nested : Nat → List Row → Prop
  | nil {depth : Nat} : Nested depth []
  | plain {depth : Nat} {content : List Char} {rest : List Row}
      (hopen : content.getLast? ≠ some '\x7b') (hclose : content.head? ≠ some '\x7d')
      (hrest : Nested depth rest) : Nested depth (⟨depth, content⟩ :: rest)
  | record {depth : Nat} {opening closing : List Char} {inner rest : List Row}
      (hopen : opening.getLast? = some '\x7b') (hbegin : opening.head? ≠ some '\x7d')
      (hclose : closing.head? = some '\x7d') (hend : closing.getLast? ≠ some '\x7b')
      (hne : inner ≠ []) (hinner : Nested (depth + 1) inner) (hrest : Nested depth rest) :
      Nested depth (⟨depth, opening⟩ :: inner ++ ⟨depth, closing⟩ :: rest)

/-- The text with a carriage return before each line feed. -/
def withReturns (cs : List Char) : List Char :=
  cs.flatMap fun c => if c = '\n' then ['\r', '\n'] else [c]

mutual

/-- A type between the texts before and after it. -/
def typeRows (depth : Nat) (before after : List Char) : FieldType → List Row
  | .oneOf choices =>
    [⟨depth, before ++
      List.intercalate [' ', '|', ' '] (choices.values.map fun s => literal s.toList) ++ after⟩]
  | .undefined => [⟨depth, before ++ undefinedWord ++ after⟩]
  | .never => [⟨depth, before ++ neverWord ++ after⟩]
  | .record [] => [⟨depth, before ++ ['\x7b', '\x7d'] ++ after⟩]
  | .record (field :: rest) =>
    ⟨depth, before ++ ['\x7b']⟩ :: fieldRows (depth + 1) (field :: rest) ++
      [⟨depth, '\x7d' :: after⟩]

def fieldRows (depth : Nat) : List (String × FieldType) → List Row
  | [] => []
  | (name, type) :: rest =>
    typeRows depth (propertyKey name.toList ++ [':', ' ']) [';'] type ++ fieldRows depth rest

end

/-- What comes before the record of a declaration. -/
def Declaration.opening (d : Declaration) : List Char :=
  (if d.exported then "export ".toList else []) ++ "type ".toList ++
    typeIdentifier d.identifier.toList ++ " = ".toList

def Declaration.rows (d : Declaration) : List Row :=
  typeRows 0 d.opening [] (.record d.fields)

theorem unbroken_append (cs ds : List Char) : Unbroken (cs ++ ds) ↔ Unbroken cs ∧ Unbroken ds :=
  List.forall_mem_append

theorem unbroken_of_isIdentifier (cs : List Char) (h : isIdentifier cs = true) : Unbroken cs := by
  have hbreaks : isWhiteSpace '\r' = true ∧ isWhiteSpace '\n' = true := by decide +kernel
  intro c hc
  have hpart : isIdentifierPart c = true := by
    cases cs with
    | nil => simp at hc
    | cons first rest =>
      simp only [isIdentifier, Bool.and_eq_true, List.all_eq_true] at h
      rcases List.mem_cons.mp hc with rfl | hc
      · exact isIdentifierPart_of_isIdentifierStart c h.1
      · exact h.2 c hc
  constructor
  · rintro rfl
    simp [isIdentifierPart_of_isWhiteSpace _ hbreaks.1] at hpart
  · rintro rfl
    simp [isIdentifierPart_of_isWhiteSpace _ hbreaks.2] at hpart

theorem unbroken_hexDigits4 : ∀ n < 160, Unbroken (Text.hexDigits4 (Char.ofNat n)) := by
  decide +kernel

theorem unbroken_literalChar (c : Char) : Unbroken (literalChar c) := by
  fun_cases literalChar c with
  | case1 => decide
  | case2 => decide
  | case3 => decide
  | case4 => decide
  | case5 => decide
  | case6 _ _ _ _ _ hcontrol =>
    have hdigits := unbroken_hexDigits4 c.toNat (toNat_lt_of_isControl c hcontrol)
    rw [Char.ofNat_toNat] at hdigits
    exact (unbroken_append ['\\', 'u'] _).mpr ⟨by decide, hdigits⟩
  | case7 _ _ hfeed hreturn => simp [Unbroken, hfeed, hreturn]

theorem unbroken_literal (cs : List Char) : Unbroken (literal cs) := by
  intro c hc
  rw [literal, List.cons_append, List.mem_cons, List.mem_append, List.mem_flatMap,
    List.mem_singleton] at hc
  rcases hc with rfl | ⟨d, _, hc⟩ | rfl
  · decide
  · exact unbroken_literalChar d c hc
  · decide

theorem unbroken_choices (texts : List String) :
    Unbroken (List.intercalate [' ', '|', ' '] (texts.map fun s => literal s.toList)) := by
  intro c hc
  rcases Naming.mem_intercalate c _ _ hc with hc | ⟨text, htext, hc⟩
  · exact (by decide : Unbroken [' ', '|', ' ']) c hc
  · obtain ⟨s, _, rfl⟩ := List.mem_map.mp htext
    exact unbroken_literal _ c hc

/-- A text that a row can begin with, if it does not close a record. -/
structure BeginsRow (cs : List Char) : Prop where
  unbroken : Unbroken cs
  flush : ∃ c rest, cs = c :: rest ∧ c ≠ ' ' ∧ c ≠ '\x7d'

namespace BeginsRow

variable {cs : List Char}

theorem append (h : BeginsRow cs) (ds : List Char) (hds : Unbroken ds) : BeginsRow (cs ++ ds) := by
  obtain ⟨hcs, c, rest, rfl, hblank, hclose⟩ := h
  exact ⟨(unbroken_append _ _).mpr ⟨hcs, hds⟩, c, rest ++ ds, rfl, hblank, hclose⟩

theorem isClean (h : BeginsRow cs) (depth : Nat) : Row.IsClean ⟨depth, cs⟩ := by
  obtain ⟨hcs, c, rest, rfl, hblank, hclose⟩ := h
  exact ⟨hcs, by simpa using hblank⟩

theorem head?_ne (h : BeginsRow cs) : cs.head? ≠ some '\x7d' := by
  obtain ⟨hcs, c, rest, rfl, hblank, hclose⟩ := h
  simpa using hclose

end BeginsRow

theorem beginsRow_of_isIdentifier (cs : List Char) (h : isIdentifier cs = true) : BeginsRow cs := by
  have hsigns : isIdentifierStart ' ' = false ∧ isIdentifierStart '\x7d' = false := by
    decide +kernel
  cases cs with
  | nil => simp [isIdentifier] at h
  | cons c rest =>
    have hstart : isIdentifierStart c = true := by simp_all [isIdentifier]
    refine ⟨unbroken_of_isIdentifier _ h, c, rest, rfl, ?_, ?_⟩
    · rintro rfl
      simp [hsigns] at hstart
    · rintro rfl
      simp [hsigns] at hstart

theorem beginsRow_propertyKey (name : List Char) : BeginsRow (propertyKey name) := by
  unfold propertyKey
  split
  case isTrue h => exact beginsRow_of_isIdentifier name h
  case isFalse => exact ⟨unbroken_literal name, _, _, rfl, by decide, by decide⟩

theorem beginsRow_opening (d : Declaration) : BeginsRow d.opening := by
  have hexport : BeginsRow "export ".toList :=
    ⟨by decide +kernel, 'e', _, rfl, by decide, by decide⟩
  have htype : BeginsRow "type ".toList := ⟨by decide +kernel, 't', _, rfl, by decide, by decide⟩
  have hname := unbroken_of_isIdentifier _ (isIdentifier_typeIdentifier d.identifier.toList)
  have hequals : Unbroken " = ".toList := by decide +kernel
  unfold Declaration.opening
  cases d.exported with
  | false => exact (htype.append _ hname).append _ hequals
  | true => exact ((hexport.append _ htype.unbroken).append _ hname).append _ hequals

theorem Nested.append (depth : Nat) (rows more : List Row) (h : Nested depth rows)
    (hmore : Nested depth more) : Nested depth (rows ++ more) := by
  induction h with
  | nil => exact hmore
  | plain hopen hclose _ ih => exact .plain hopen hclose (ih hmore)
  | record hopen hbegin hclose hend hne hinner _ _ ih =>
    rw [List.append_assoc, List.cons_append]
    exact .record hopen hbegin hclose hend hne hinner (ih hmore)

/-- Clean rows of one depth, with what is nested in them. -/
structure RowsAt (depth : Nat) (rows : List Row) : Prop where
  clean : ∀ row ∈ rows, row.IsClean
  nested : Nested depth rows

theorem rowsAt_plain (depth : Nat) (before text after : List Char) (hbefore : BeginsRow before)
    (htext : Unbroken text) (hafter : Unbroken after)
    (hlast : (before ++ text ++ after).getLast? ≠ some '\x7b') :
    RowsAt depth [⟨depth, before ++ text ++ after⟩] := by
  have hrow := (hbefore.append text htext).append after hafter
  exact ⟨by simpa using hrow.isClean depth, .plain hlast hrow.head?_ne .nil⟩

theorem rowsAt_record (depth : Nat) (before after : List Char) (inner : List Row)
    (hbefore : BeginsRow before) (hafter : Unbroken after) (hlast : after.getLast? ≠ some '\x7b')
    (hne : inner ≠ []) (hinner : RowsAt (depth + 1) inner) :
    RowsAt depth (⟨depth, before ++ ['\x7b']⟩ :: inner ++ [⟨depth, '\x7d' :: after⟩]) := by
  have hopening := hbefore.append ['\x7b'] (by decide)
  have hclosing : Row.IsClean ⟨depth, '\x7d' :: after⟩ :=
    ⟨(unbroken_append ['\x7d'] after).mpr ⟨by decide, hafter⟩, by simp⟩
  constructor
  case clean =>
    intro row hrow
    rcases List.mem_append.mp hrow with hrow | hrow
    · rcases List.mem_cons.mp hrow with rfl | hrow
      · exact hopening.isClean depth
      · exact hinner.clean row hrow
    · rwa [List.mem_singleton.mp hrow]
  case nested =>
    refine .record (by simp) hopening.head?_ne rfl ?_ hne hinner.nested .nil
    cases after with
    | nil => simp
    | cons c rest => simpa using hlast

theorem fieldRows_cons_ne_nil (depth : Nat) (field : String × FieldType)
    (rest : List (String × FieldType)) : fieldRows depth (field :: rest) ≠ [] := by
  have htype (before after : List Char) (type : FieldType) :
      typeRows depth before after type ≠ [] := by
    fun_cases typeRows depth before after type <;> simp
  exact List.append_ne_nil_of_left_ne_nil (htype _ _ _) _

mutual

theorem rowsAt_typeRows (depth : Nat) (before : List Char) (type : FieldType)
    (hbefore : BeginsRow before) : RowsAt depth (typeRows depth before [';'] type) := by
  match type with
  | .oneOf choices =>
    exact rowsAt_plain depth before _ [';'] hbefore (unbroken_choices _) (by decide) (by simp)
  | .undefined => exact rowsAt_plain depth before _ [';'] hbefore (by decide) (by decide) (by simp)
  | .never => exact rowsAt_plain depth before _ [';'] hbefore (by decide) (by decide) (by simp)
  | .record [] => exact rowsAt_plain depth before _ [';'] hbefore (by decide) (by decide) (by simp)
  | .record (field :: rest) =>
    exact rowsAt_record depth before [';'] _ hbefore (by decide) (by simp)
      (fieldRows_cons_ne_nil _ _ _) (rowsAt_fieldRows (depth + 1) (field :: rest))

theorem rowsAt_fieldRows (depth : Nat) (fields : List (String × FieldType)) :
    RowsAt depth (fieldRows depth fields) := by
  match fields with
  | [] => exact ⟨by simp [fieldRows], .nil⟩
  | (name, type) :: rest =>
    have hbegin := (beginsRow_propertyKey name.toList).append [':', ' '] (by decide)
    have htype := rowsAt_typeRows depth _ type hbegin
    have hrest := rowsAt_fieldRows depth rest
    exact ⟨List.forall_mem_append.mpr ⟨htype.clean, hrest.clean⟩,
      htype.nested.append _ _ _ hrest.nested⟩

end

/-- The rows of a declaration, the last of which closes the record or is the only one. -/
theorem rowsAt_rows (d : Declaration) : RowsAt 0 d.rows ∧
    ∃ rows closing, d.rows = rows ++ [⟨0, closing⟩] ∧ closing.getLast? = some '\x7d' := by
  have hopening := beginsRow_opening d
  unfold Declaration.rows
  cases d.fields with
  | nil =>
    refine ⟨rowsAt_plain 0 _ _ [] hopening (by decide) (by decide) (by simp), [], _, rfl, ?_⟩
    simp
  | cons field rest =>
    refine ⟨?_, _ :: fieldRows 1 (field :: rest), _, rfl, rfl⟩
    exact rowsAt_record 0 _ [] _ hopening (by decide) (by simp) (fieldRows_cons_ne_nil _ _ _)
      (rowsAt_fieldRows 1 (field :: rest))

theorem withReturns_append (cs ds : List Char) :
    withReturns (cs ++ ds) = withReturns cs ++ withReturns ds :=
  List.flatMap_append

theorem withReturns_of_unbroken (cs : List Char) (h : Unbroken cs) : withReturns cs = cs := by
  induction cs with
  | nil => rfl
  | cons c cs ih =>
    obtain ⟨hc, hcs⟩ := List.forall_mem_cons.mp h
    rw [← List.singleton_append, withReturns_append, ih hcs, withReturns]
    simp [hc.2]

namespace Layout

/-- The rows one below the other. -/
def rowsChars (l : Layout) : List Row → List Char
  | [] => []
  | row :: rest =>
    List.replicate (l.indent * row.depth) ' ' ++ row.content ++
      (if rest = [] ∧ l.semicolons then [';'] else []) ++ l.lineBreak.separator.toList ++
      l.rowsChars rest

mutual

/-- Each row of a type comes after a line break and its indentation. -/
theorem newLine_typeChars (l : Layout) (depth : Nat) (before after : List Char) (type : FieldType) :
    l.newLine depth ++ before ++ l.typeChars depth type ++ after =
      (typeRows depth before after type).flatMap fun row => l.newLine row.depth ++ row.content := by
  match type with
  | .oneOf choices => simp [typeChars, typeRows]
  | .undefined => simp [typeChars, typeRows]
  | .never => simp [typeChars, typeRows]
  | .record [] => simp [typeChars, typeRows]
  | .record (field :: rest) =>
    have hfields := fieldChars_eq_flatMap l (depth + 1) (field :: rest)
    simp [typeChars, typeRows, hfields]

theorem fieldChars_eq_flatMap (l : Layout) (depth : Nat) (fields : List (String × FieldType)) :
    l.fieldChars depth fields =
      (fieldRows depth fields).flatMap fun row => l.newLine row.depth ++ row.content := by
  match fields with
  | [] => rfl
  | (name, type) :: rest =>
    have htype := newLine_typeChars l depth (propertyKey name.toList ++ [':', ' ']) [';'] type
    rw [fieldChars, fieldRows, List.flatMap_append, ← htype, fieldChars_eq_flatMap l depth rest]
    simp

end

/-- The line break after the last row is the one that the first row does not have. -/
theorem rowsChars_concat (l : Layout) (rows : List Row) (last : Row) :
    l.rowsChars (rows ++ [last]) = (rows.flatMap fun row =>
      List.replicate (l.indent * row.depth) ' ' ++ row.content ++ l.lineBreak.separator.toList) ++
      (List.replicate (l.indent * last.depth) ' ' ++ last.content ++
        (if l.semicolons then [';'] else [])) ++ l.lineBreak.separator.toList := by
  induction rows with
  | nil => simp [rowsChars]
  | cons row rows ih =>
    rw [List.cons_append, rowsChars, ih]
    simp

theorem separator_rowsChars (l : Layout) (rows : List Row) (last : Row) :
    l.lineBreak.separator.toList ++ l.rowsChars (rows ++ [last]) =
      ((rows ++ [last]).flatMap fun row => l.newLine row.depth ++ row.content) ++
        (if l.semicolons then [';'] else []) ++ l.lineBreak.separator.toList := by
  induction rows with
  | nil => simp [rowsChars, newLine]
  | cons row rows ih =>
    have hrow : l.lineBreak.separator.toList ++ l.rowsChars (row :: (rows ++ [last])) =
        l.newLine row.depth ++ row.content ++
          (l.lineBreak.separator.toList ++ l.rowsChars (rows ++ [last])) := by
      simp [rowsChars, newLine]
    rw [List.cons_append, hrow, ih]
    simp

theorem declarationChars_eq_rowsChars (l : Layout) (d : Declaration) (rows : List Row) (last : Row)
    (h : d.rows = rows ++ [last]) : l.declarationChars d = l.rowsChars d.rows := by
  -- Every row follows a line break if one is put in front of the text.
  refine (List.append_right_inj l.lineBreak.separator.toList).mp ?_
  have hrows := l.newLine_typeChars 0 d.opening [] (.record d.fields)
  rw [← Declaration.rows, h, List.append_nil] at hrows
  rw [h, separator_rowsChars, ← hrows]
  simp only [declarationChars, Declaration.opening, newLine, Nat.mul_zero, List.replicate_zero,
    List.append_nil, List.append_assoc]

/-- Nothing but the line breaks after the rows makes room for carriage returns. -/
theorem rowsChars_crlf (l : Layout) (rows : List Row) (h : ∀ row ∈ rows, Unbroken row.content) :
    rowsChars { l with lineBreak := .crlf } rows =
      withReturns (rowsChars { l with lineBreak := .lf } rows) := by
  induction rows with
  | nil => rfl
  | cons row rest ih =>
    obtain ⟨hrow, hrest⟩ := List.forall_mem_cons.mp h
    have hindent (n : Nat) : Unbroken (List.replicate n ' ') := by
      intro c hc
      rw [List.eq_of_mem_replicate hc]
      decide
    have hsemicolon (p : Prop) [Decidable p] : Unbroken (if p then [';'] else []) := by
      split <;> decide
    have hbreak : withReturns LineBreak.lf.separator.toList = LineBreak.crlf.separator.toList := by
      decide +kernel
    simp only [rowsChars, withReturns_append, withReturns_of_unbroken _ (hindent _),
      withReturns_of_unbroken _ hrow, withReturns_of_unbroken _ (hsemicolon _), hbreak, ih hrest]

/-- A declaration is printed as its rows, whatever the layout. So carriage returns make no
other difference, and the text ends with one line break. -/
theorem print_eq_rows (d : Declaration) :
    ∃ rows : List Row, rows ≠ [] ∧ (∀ row ∈ rows, row.IsClean) ∧ Nested 0 rows ∧
      ∀ l : Layout, (l.print d).toList = l.rowsChars rows ∧
        (print { l with lineBreak := .crlf } d).toList =
          withReturns (print { l with lineBreak := .lf } d).toList ∧
        ∃ body, (l.print d).toList = body ++ l.lineBreak.separator.toList ∧
          body.getLast? = some (if l.semicolons then ';' else '\x7d') := by
  obtain ⟨hrows, others, closing, hlast, hclosing⟩ := rowsAt_rows d
  have hprint (l : Layout) : (l.print d).toList = l.rowsChars d.rows := by
    rw [print, String.toList_ofList, l.declarationChars_eq_rowsChars d others _ hlast]
  refine ⟨d.rows, by simp [hlast], hrows.clean, hrows.nested, fun l => ⟨hprint l, ?_, ?_⟩⟩
  · rw [hprint, hprint, l.rowsChars_crlf d.rows fun row hrow => (hrows.clean row hrow).unbroken]
  · refine ⟨_, by rw [hprint, hlast, rowsChars_concat], ?_⟩
    cases l.semicolons <;> simp [hclosing]

end Layout

end BemNotation
