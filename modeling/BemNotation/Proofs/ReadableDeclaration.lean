import BemNotation.Proofs.AliasGrammar
import Mathlib.Data.List.Basic

/-!
Declarations as they are read back. Whatever the layout, the text of a declaration is
read as one alias only, with its own fields, keys and texts, and with the identifier
that was made to fit. Two declarations that are printed alike differ in nothing else.
-/

namespace BemNotation

open Alias Unicode

mutual

def FieldType.tree : FieldType → TypeTree
  | .oneOf choices => .oneOf (choices.values.map String.toList)
  | .undefined => .undefined
  | .never => .never
  | .record fields => .record (fieldTrees fields)

def fieldTrees : List (String × FieldType) → List (List Char × TypeTree)
  | [] => []
  | (name, type) :: rest => (name.toList, type.tree) :: fieldTrees rest

end

/-- The alias that a declaration is printed as. -/
def Declaration.alias (d : Declaration) : TypeAlias where
  exported := d.exported
  identifier := typeIdentifier d.identifier.toList
  type := .record (fieldTrees d.fields)

theorem Choices.eq_of_toList_eq (a b : Choices)
    (h : a.values.map String.toList = b.values.map String.toList) : a = b := by
  have hvalues : a.values = b.values :=
    List.map_injective_iff.mpr (fun s t hst => String.toList_inj.mp hst) h
  cases a
  cases b
  simp_all

mutual

theorem FieldType.eq_of_tree_eq (a b : FieldType) (h : a.tree = b.tree) : a = b := by
  match a, b with
  | .oneOf a, .oneOf b =>
    simp only [FieldType.tree, TypeTree.oneOf.injEq] at h
    rw [a.eq_of_toList_eq b h]
  | .undefined, .undefined => rfl
  | .never, .never => rfl
  | .record a, .record b =>
    simp only [FieldType.tree, TypeTree.record.injEq] at h
    rw [eq_of_fieldTrees_eq a b h]
  | .oneOf _, .undefined | .oneOf _, .never | .oneOf _, .record _ => simp [FieldType.tree] at h
  | .undefined, .oneOf _ | .undefined, .never | .undefined, .record _ => simp [FieldType.tree] at h
  | .never, .oneOf _ | .never, .undefined | .never, .record _ => simp [FieldType.tree] at h
  | .record _, .oneOf _ | .record _, .undefined | .record _, .never => simp [FieldType.tree] at h

theorem eq_of_fieldTrees_eq (fields others : List (String × FieldType))
    (h : fieldTrees fields = fieldTrees others) : fields = others := by
  match fields, others with
  | [], [] => rfl
  | [], _ :: _ => simp [fieldTrees] at h
  | _ :: _, [] => simp [fieldTrees] at h
  | (name, type) :: rest, (name', type') :: rest' =>
    simp only [fieldTrees, List.cons.injEq, Prod.mk.injEq] at h
    obtain ⟨⟨hname, htype⟩, hrest⟩ := h
    rw [String.toList_inj.mp hname, FieldType.eq_of_tree_eq type type' htype,
      eq_of_fieldTrees_eq rest rest' hrest]

end

theorem isIdentifier_typeIdentifier (cs : List Char) : isIdentifier (typeIdentifier cs) = true := by
  have hparts : ∀ c ∈ cs.map fun c => if isIdentifierPart c then c else '_',
      isIdentifierPart c = true := by
    intro c hc
    obtain ⟨d, _, rfl⟩ := List.mem_map.mp hc
    split
    case isTrue hpart => exact hpart
    case isFalse => rfl
  unfold typeIdentifier
  cases hfitted : cs.map fun c => if isIdentifierPart c then c else '_' with
  | nil => rfl
  | cons c rest =>
    rw [hfitted] at hparts
    dsimp only
    split
    case isTrue hstart => simp_all [isIdentifier]
    case isFalse => simp_all [isIdentifier, isIdentifierStart]

theorem isWhiteSpace_blank : isWhiteSpace ' ' = true := by decide +kernel

theorem scan_blank_cons (cs : List Char) : scan (' ' :: cs) = scan cs := by
  rw [scan, if_pos isWhiteSpace_blank]

namespace Layout

theorem isWhiteSpace_separator (b : LineBreak) : ∀ c ∈ b.separator.toList, isWhiteSpace c = true := by
  apply List.all_eq_true.mp
  cases b <;> decide +kernel

theorem isWhiteSpace_newLine (l : Layout) (depth : Nat) :
    ∀ c ∈ l.newLine depth, isWhiteSpace c = true := by
  intro c hc
  rcases List.mem_append.mp hc with hc | hc
  · exact isWhiteSpace_separator l.lineBreak c hc
  · rw [List.eq_of_mem_replicate hc]
    exact isWhiteSpace_blank

theorem exists_choiceMarks (texts : List (List Char)) (hne : texts ≠ []) :
    ∃ ms, ChoiceMarks texts ms ∧ ∀ cs,
      scan (List.intercalate [' ', '|', ' '] (texts.map literal) ++ cs) =
        (scan cs).map (ms ++ ·) := by
  induction texts with
  | nil => exact absurd rfl hne
  | cons text texts ih =>
    cases texts with
    | nil => exact ⟨_, ChoiceMarks.last, fun cs => by simp [scan_literal_append]⟩
    | cons next texts =>
      obtain ⟨ms, hmarks, hscan⟩ := ih (by simp)
      refine ⟨_, ChoiceMarks.more hmarks, fun cs => ?_⟩
      rw [List.map_cons] at hscan
      simp only [List.map_cons, List.intercalate_cons_cons, List.append_assoc, List.cons_append,
        List.nil_append]
      rw [scan_literal_append, scan_blank_cons, scan_sign_cons _ _ rfl, scan_blank_cons, hscan]
      simp [Function.comp_def]

mutual

/-- A type is printed as marks that are read as the type. -/
theorem exists_typeMarks (l : Layout) (depth : Nat) (type : FieldType) :
    ∃ ms, TypeMarks type.tree ms ∧ ∀ cs, Stops isIdentifierPart cs →
      scan (l.typeChars depth type ++ cs) = (scan cs).map (ms ++ ·) := by
  match type with
  | .oneOf choices =>
    obtain ⟨ms, hmarks, hscan⟩ := exists_choiceMarks (choices.values.map String.toList)
      (by simpa using choices.nonempty)
    rw [List.map_map] at hscan
    refine ⟨ms, TypeMarks.oneOf hmarks, fun cs _ => ?_⟩
    rw [typeChars]
    exact hscan cs
  | .undefined =>
    refine ⟨_, TypeMarks.undefined, fun cs hcs => ?_⟩
    rw [typeChars, scan_name_append undefinedWord cs (by decide +kernel) hcs]
    rfl
  | .never =>
    refine ⟨_, TypeMarks.never, fun cs hcs => ?_⟩
    rw [typeChars, scan_name_append neverWord cs (by decide +kernel) hcs]
    rfl
  | .record [] =>
    refine ⟨_, TypeMarks.record FieldMarks.nil, fun cs _ => ?_⟩
    rw [typeChars, List.cons_append, List.singleton_append, scan_sign_cons _ _ rfl,
      scan_sign_cons _ _ rfl]
    simp [Function.comp_def]
  | .record (field :: rest) =>
    obtain ⟨ms, hmarks, hscan⟩ := exists_fieldMarks l (depth + 1) (field :: rest)
    refine ⟨_, TypeMarks.record hmarks, fun cs _ => ?_⟩
    simp only [typeChars, List.cons_append, List.append_assoc, List.nil_append]
    rw [scan_sign_cons _ _ rfl, hscan, scan_space_append _ _ (l.isWhiteSpace_newLine depth),
      scan_sign_cons _ _ rfl]
    simp [Function.comp_def]

theorem exists_fieldMarks (l : Layout) (depth : Nat) (fields : List (String × FieldType)) :
    ∃ ms, FieldMarks (fieldTrees fields) ms ∧ ∀ cs,
      scan (l.fieldChars depth fields ++ cs) = (scan cs).map (ms ++ ·) := by
  match fields with
  | [] => exact ⟨[], FieldMarks.nil, fun cs => by simp [fieldChars]⟩
  | (name, type) :: rest =>
    obtain ⟨ms, htype, hscan⟩ := exists_typeMarks l depth type
    obtain ⟨ns, hrest, hscanRest⟩ := exists_fieldMarks l depth rest
    refine ⟨_, FieldMarks.cons (kind_keyMark name.toList) htype hrest, fun cs => ?_⟩
    simp only [fieldChars, List.cons_append, List.append_assoc, List.nil_append]
    rw [scan_space_append _ _ (l.isWhiteSpace_newLine depth),
      scan_propertyKey_append _ _ (stops_cons _ ':' _ (by decide +kernel)),
      scan_sign_cons _ _ rfl, scan_blank_cons, hscan _ (stops_cons _ ';' _ (by decide +kernel)),
      scan_sign_cons _ _ rfl, hscanRest]
    simp [Function.comp_def]

end

/-- The end of a declaration. -/
theorem scan_ending (l : Layout) :
    Stops isIdentifierPart ((if l.semicolons then [';'] else []) ++ l.lineBreak.separator.toList) ∧
      scan ((if l.semicolons then [';'] else []) ++ l.lineBreak.separator.toList) =
        some (if l.semicolons then [.sign ';'] else []) := by
  have hbreak : scan l.lineBreak.separator.toList = some [] := by
    have hscan := scan_space_append _ [] (isWhiteSpace_separator l.lineBreak)
    rwa [List.append_nil, scan] at hscan
  cases l.semicolons with
  | true =>
    refine ⟨stops_cons _ ';' _ (by decide +kernel), ?_⟩
    change scan (';' :: l.lineBreak.separator.toList) = _
    rw [scan_sign_cons _ _ rfl, hbreak]
    rfl
  | false =>
    refine ⟨fun c rest heq => ?_, hbreak⟩
    apply isIdentifierPart_of_isWhiteSpace
    apply isWhiteSpace_separator l.lineBreak
    change l.lineBreak.separator.toList = c :: rest at heq
    rw [heq]
    exact List.mem_cons_self

/-- A word of the notation itself, with the blank after it. -/
theorem scan_word_append (word : String) (cs : List Char) (h : isIdentifier word.toList = true) :
    scan (word.toList ++ ' ' :: cs) = (scan cs).map (.name word.toList :: ·) := by
  have hblank : isIdentifierPart ' ' = false :=
    isIdentifierPart_of_isWhiteSpace ' ' isWhiteSpace_blank
  rw [scan_name_append _ _ h (stops_cons _ ' ' cs hblank), scan_blank_cons]

theorem scan_opening_append (identifier cs : List Char) :
    scan ("type ".toList ++ typeIdentifier identifier ++ " = ".toList ++ cs) =
      (scan cs).map (.name "type".toList :: .name (typeIdentifier identifier) :: .sign '=' :: ·) := by
  have htype : "type ".toList = "type".toList ++ [' '] := by decide +kernel
  have hequals : " = ".toList = [' ', '=', ' '] := by decide +kernel
  have hblank := isIdentifierPart_of_isWhiteSpace ' ' isWhiteSpace_blank
  simp only [htype, hequals, List.append_assoc, List.cons_append, List.nil_append]
  rw [scan_word_append "type" _ (by decide +kernel),
    scan_name_append _ _ (isIdentifier_typeIdentifier identifier) (stops_cons _ ' ' _ hblank),
    scan_blank_cons, scan_sign_cons _ _ rfl, scan_blank_cons]
  simp [Function.comp_def]

theorem exists_aliasMarks (l : Layout) (d : Declaration) :
    ∃ ms, AliasMarks d.alias ms ∧ scan (l.declarationChars d) = some ms := by
  obtain ⟨ms, hmarks, hscan⟩ := l.exists_typeMarks 0 (.record d.fields)
  obtain ⟨hends, hending⟩ := l.scan_ending
  have hafter : (if l.semicolons then [Mark.sign ';'] else []) = [] ∨
      (if l.semicolons then [Mark.sign ';'] else []) = [.sign ';'] := by
    cases l.semicolons <;> simp
  refine ⟨_, AliasMarks.mk rfl hmarks hafter, ?_⟩
  have hopening := scan_opening_append d.identifier.toList (l.typeChars 0 (.record d.fields) ++
    ((if l.semicolons then [';'] else []) ++ l.lineBreak.separator.toList))
  rw [hscan _ hends, hending] at hopening
  have hplain : scan (l.declarationChars { d with exported := false }) =
      some (.name "type".toList :: .name (typeIdentifier d.identifier.toList) :: .sign '=' ::
        (ms ++ if l.semicolons then [.sign ';'] else [])) := by
    simpa [declarationChars] using hopening
  cases hexported : d.exported with
  | false =>
    have hsame : l.declarationChars d = l.declarationChars { d with exported := false } := by
      simp [declarationChars, hexported]
    rw [hsame, hplain]
    simp
  | true =>
    have hexport : "export ".toList = "export".toList ++ [' '] := by decide +kernel
    have hmore : l.declarationChars d =
        "export".toList ++ ' ' :: l.declarationChars { d with exported := false } := by
      simp [declarationChars, hexported, hexport]
    rw [hmore, scan_word_append "export" _ (by decide +kernel), hplain]
    simp

/-- The text of a declaration is read as its own alias and as no other. So the
declarations that are printed alike share the flag, the fitted identifier and the
fields. -/
theorem reads_print_iff (l : Layout) (d : Declaration) :
    (∀ a, Reads (l.print d).toList a ↔ a = d.alias) ∧
      ∀ d', l.print d = l.print d' →
        d.exported = d'.exported ∧
          typeIdentifier d.identifier.toList = typeIdentifier d'.identifier.toList ∧
          d.fields = d'.fields := by
  have hreads (d : Declaration) (a : TypeAlias) : Reads (l.print d).toList a ↔ a = d.alias := by
    obtain ⟨ms, hmarks, hscan⟩ := l.exists_aliasMarks d
    rw [print, String.toList_ofList]
    constructor
    · rintro ⟨found, hfound, halias⟩
      obtain rfl : ms = found := by simpa [hscan] using hfound
      exact halias.unique _ _ ms hmarks
    · rintro rfl
      exact ⟨ms, hscan, hmarks⟩
  refine ⟨hreads d, fun d' hprint => ?_⟩
  have halias : d.alias = d'.alias := by
    rw [← hreads d', ← hprint, hreads d]
  simp only [Declaration.alias, TypeAlias.mk.injEq, TypeTree.record.injEq] at halias
  exact ⟨halias.1, halias.2.1, eq_of_fieldTrees_eq _ _ halias.2.2⟩

/-- Identifiers that are made to fit in the same way are printed alike. -/
theorem reads_print_fooBlock :
    let l : Layout := { lineBreak := .crlf, semicolons := false, indent := 0 }
    let fields : Fields := [("Größe", .record [("say \"no\"", .never)]),
      ("2x", .oneOf ⟨["\x7b: ;", "\\\t"], by decide, by decide⟩)]
    let d : Declaration := ⟨true, "Foo-Block", fields⟩
    let d' : Declaration := ⟨true, "Foo_Block", fields⟩
    l.print d = l.print d' ∧ d.exported = d'.exported ∧
      typeIdentifier d.identifier.toList = typeIdentifier d'.identifier.toList ∧
      d.fields = d'.fields := by
  intro l fields d d'
  have hprint : l.print d = l.print d' := by decide +kernel
  exact ⟨hprint, (reads_print_iff l d).2 d' hprint⟩

end Layout

end BemNotation
