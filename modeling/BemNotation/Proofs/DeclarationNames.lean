import BemNotation.Failure
import BemNotation.Proofs.IdentifierNames
import BemNotation.Proofs.ParamCase

/-!
The names that stand in the text of a declaration. There is the name of the type, and
there are the keys of the block and those of its elements, each on a line of its own.
Only where a name has letters or digits that no identifier has is it written as one
without being one.
-/

namespace BemNotation

open Naming

mutual

/-- The keys of a type, with those of the types inside it. -/
def FieldType.keys : FieldType → List String
  | .record fields => fieldKeys fields
  | _ => []

def fieldKeys : List (String × FieldType) → List String
  | [] => []
  | (name, type) :: rest => name :: (type.keys ++ fieldKeys rest)

end

/-- Whether the text has a line with the key in this form. -/
def Layout.HasKey (l : Layout) (text key : List Char) : Prop :=
  ∃ depth, l.newLine depth ++ key ++ [':', ' '] <:+: text

theorem Layout.HasKey.mono (l : Layout) (text more key : List Char) (h : l.HasKey text key)
    (hmore : text <:+: more) : l.HasKey more key := by
  obtain ⟨depth, hline⟩ := h
  exact ⟨depth, hline.trans hmore⟩

mutual

theorem hasKey_typeChars (l : Layout) (depth : Nat) (type : FieldType) (key : String)
    (h : key ∈ type.keys) : l.HasKey (l.typeChars depth type) (propertyKey key.toList) := by
  match type with
  | .oneOf _ | .undefined | .never => simp [FieldType.keys] at h
  | .record [] => simp [FieldType.keys, fieldKeys] at h
  | .record (field :: rest) =>
    have hfields := hasKey_fieldChars l (depth + 1) (field :: rest) key (by simpa [FieldType.keys] using h)
    refine hfields.mono _ _ _ _ ⟨['\x7b'], l.newLine depth ++ ['\x7d'], ?_⟩
    simp [Layout.typeChars]

/-- Every key stands in the text, quoted where it is not plain. -/
theorem hasKey_fieldChars (l : Layout) (depth : Nat) (fields : List (String × FieldType))
    (key : String) (h : key ∈ fieldKeys fields) :
    l.HasKey (l.fieldChars depth fields) (propertyKey key.toList) := by
  match fields with
  | [] => simp [fieldKeys] at h
  | (name, type) :: rest =>
    rw [fieldKeys, List.mem_cons, List.mem_append] at h
    rcases h with rfl | htype | hrest
    · exact ⟨depth, [], l.typeChars depth type ++ [';'] ++ l.fieldChars depth rest,
        by simp [Layout.fieldChars]⟩
    · have htype := hasKey_typeChars l depth type key htype
      refine htype.mono _ _ _ _ ⟨l.newLine depth ++ propertyKey name.toList ++ [':', ' '],
        [';'] ++ l.fieldChars depth rest, by simp [Layout.fieldChars]⟩
    · have hrest := hasKey_fieldChars l depth rest key hrest
      refine hrest.mono _ _ _ _ ⟨l.newLine depth ++ propertyKey name.toList ++ [':', ' '] ++
        l.typeChars depth type ++ [';'], [], by simp [Layout.fieldChars]⟩

end

theorem Fields.mem_set (name : String) (type : FieldType) (fields : Fields)
    (field : String × FieldType) (h : field ∈ fields.set name type) :
    field = (name, type) ∨ field ∈ fields := by
  induction fields with
  | nil => simpa [Fields.set] using h
  | cons old rest ih =>
    obtain ⟨key, oldType⟩ := old
    unfold Fields.set at h
    split at h
    case isTrue hkey =>
      rcases List.mem_cons.mp h with rfl | h
      · exact Or.inl (by rw [hkey])
      · exact Or.inr (by simp [h])
    case isFalse =>
      rcases List.mem_cons.mp h with rfl | h
      · exact Or.inr (by simp)
      · exact (ih h).imp id fun hrest => by simp [hrest]

theorem Fields.mem_foldl_set (fields record : Fields) (field : String × FieldType)
    (h : field ∈ fields.foldl (fun record (name, type) => Fields.set name type record) record) :
    field ∈ record ∨ field ∈ fields := by
  induction fields generalizing record with
  | nil => exact Or.inl h
  | cons first rest ih =>
    rcases ih _ h with hrecord | hrest
    · exact (mem_set _ _ _ _ hrecord).elim (fun heq => Or.inr (by simp [heq])) Or.inl
    · exact Or.inr (by simp [hrest])

/-- Setting fields adds no others. -/
theorem Fields.mem_of_mem_ofList (fields : List (String × FieldType)) (field : String × FieldType)
    (h : field ∈ Fields.ofList fields) : field ∈ fields := by
  rcases mem_foldl_set fields [] field h with hnil | hfields
  · simp at hnil
  · exact hfields

theorem exists_field_of_mem_fieldKeys (fields : List (String × FieldType)) (key : String)
    (h : key ∈ fieldKeys fields) : ∃ field ∈ fields, key = field.1 ∨ key ∈ field.2.keys := by
  induction fields with
  | nil => simp [fieldKeys] at h
  | cons field rest ih =>
    rw [fieldKeys, List.mem_cons, List.mem_append] at h
    rcases h with hname | htype | hrest
    · exact ⟨field, by simp, Or.inl hname⟩
    · exact ⟨field, by simp, Or.inr htype⟩
    · obtain ⟨other, hother, hkey⟩ := ih hrest
      exact ⟨other, by simp [hother], hkey⟩

theorem FieldType.keys_oneOfOr (values : List String) (empty : FieldType) (h : empty.keys = []) :
    (oneOfOr values empty).keys = [] := by
  unfold oneOfOr
  split
  · rfl
  · exact h

/-- The keys are the names of the three fields of a block and those of its elements. -/
theorem Block.mem_keys (b : Block) (key : String) (h : key ∈ fieldKeys b.declaration.fields) :
    key ∈ ["name", "elements", "modifiers"] ∨ ∃ e ∈ b.elements, key = paramCase e.name := by
  obtain ⟨field, hfield, hkey⟩ := exists_field_of_mem_fieldKeys _ key h
  have hfield := Fields.mem_of_mem_ofList _ field hfield
  simp only [List.mem_cons, List.not_mem_nil, or_false] at hfield
  rcases hfield with rfl | rfl | rfl
  · rw [FieldType.keys_oneOfOr _ _ rfl] at hkey
    simp_all
  · rcases hkey with rfl | hkey
    · simp
    · obtain ⟨inner, hinner, hkey⟩ := exists_field_of_mem_fieldKeys _ key hkey
      obtain ⟨e, he, rfl⟩ := List.mem_map.mp (Fields.mem_of_mem_ofList _ inner hinner)
      rw [modifierType, FieldType.keys_oneOfOr _ _ rfl] at hkey
      exact Or.inr ⟨e, he, by simpa using hkey⟩
  · rw [modifierType, FieldType.keys_oneOfOr _ _ rfl] at hkey
    simp_all

theorem Block.mem_toList_of_mem_keys (b : Block) (key : String)
    (h : key ∈ fieldKeys b.declaration.fields) :
    ∀ c ∈ key.toList, c = '-' ∨ isWordChar c = true := by
  rcases b.mem_keys key h with hfixed | ⟨e, he, rfl⟩
  · have hall : ["name", "elements", "modifiers"].all (fun k => k.toList.all isWordChar) = true := by
      decide +kernel
    intro c hc
    exact Or.inr (List.all_eq_true.mp (List.all_eq_true.mp hall key hfixed) c hc)
  · intro c hc
    exact mem_paramChars _ c (by simpa [paramCase] using hc)

/-- The names in the declaration of a block, in the text of any layout. The type name and
the keys without quotes are identifiers exactly when all their letters and digits are
proper, and no key in quotes is one. -/
theorem identifierName_print (l : Layout) (b : Block) :
    let identifier := typeIdentifier b.declaration.identifier.toList
    let text := (l.print b.declaration).toList
    (∃ rest, text = "export type ".toList ++ identifier ++ " = ".toList ++ rest) ∧
      (isIdentifierName identifier = true ↔
        HasProperLetters b.declaration.identifier.toList) ∧
      ∀ key ∈ fieldKeys b.declaration.fields,
        l.HasKey text key.toList ∧
            (isIdentifierName key.toList = true ↔ HasProperLetters key.toList) ∨
          l.HasKey text (literal key.toList) ∧ isIdentifierName key.toList = false := by
  intro identifier text
  have htext : text = "export type ".toList ++ identifier ++ " = ".toList ++
      (l.typeChars 0 (.record b.declaration.fields) ++ (if l.semicolons then [';'] else []) ++
        l.lineBreak.separator.toList) := by
    simp [text, identifier, Layout.print, Layout.declarationChars, Block.declaration]
  refine ⟨⟨_, htext⟩, isIdentifierName_typeIdentifier _, fun key hkey => ?_⟩
  have hprinted : l.HasKey text (propertyKey key.toList) := by
    have hrecord := hasKey_typeChars l 0 (.record b.declaration.fields) key
      (by simpa [FieldType.keys] using hkey)
    refine hrecord.mono _ _ _ _ ⟨"export type ".toList ++ identifier ++ " = ".toList,
      (if l.semicolons then [';'] else []) ++ l.lineBreak.separator.toList, ?_⟩
    rw [htext]
    simp only [List.append_assoc]
  unfold propertyKey at hprinted
  split at hprinted
  case isTrue hplain => exact Or.inl ⟨hprinted, isIdentifierName_iff _ hplain⟩
  case isFalse hplain =>
    refine Or.inr ⟨hprinted, ?_⟩
    rw [← Bool.not_eq_true]
    exact fun hname =>
      hplain (isIdentifier_of_isIdentifierName _ (b.mem_toList_of_mem_keys key hkey) hname)

/-- The number `²` is a digit of names, but no part of an identifier. -/
theorem print_superscript : ∃ b, Block.parse "x\na²" = .ok b ∧
    Layout.print { lineBreak := .lf } b.declaration =
      "export type X_Block = \x7b\n    name: \"x\";\n    elements: \x7b\n        a²: undefined;\n" ++
        "    \x7d;\n    modifiers: never;\n\x7d;\n" ∧
    isIdentifierName "a²".toList = false :=
  ⟨{ name := "x", elements := [{ name := "a²" }] }, by decide +kernel, by decide +kernel,
    by decide +kernel⟩

end BemNotation
