import BemNotation.Proofs.CanonicalFixedPoint
import BemNotation.Proofs.ReadableDeclaration
import Mathlib.Data.List.Forall2
import Mathlib.Data.List.Induction

/-!
What the declaration of a block keeps of its names. Setting the fields of a record drops
names that are there already and keeps the type that was set last, and a choice of texts
drops texts that are there already. Names that stay apart lose nothing on the way, so a
declaration is printed alike for the blocks with the same names in param case, in the same
order, and for no others.
-/

namespace BemNotation

open Naming (paramCase)
open Source (Reads pieces)

theorem firstOccurrences_concat (xs : List String) (x : String) :
    firstOccurrences (xs ++ [x]) = firstOccurrences xs ++ if x ∈ xs then [] else [x] := by
  induction xs with
  | nil => rfl
  | cons s rest ih =>
    rw [List.cons_append, firstOccurrences, ih, firstOccurrences, List.filter_append]
    by_cases hs : x = s
    · simp [hs]
    · by_cases hrest : x ∈ rest <;> simp [hs, hrest]

theorem firstOccurrences_eq_eraseDups (xs : List String) : firstOccurrences xs = xs.eraseDups := by
  induction xs using List.reverseRecOn with
  | nil => rfl
  | append_singleton xs x ih =>
    rw [firstOccurrences_concat, List.eraseDups_append, ih]
    by_cases hx : x ∈ xs <;> simp [List.removeAll, List.eraseDups_cons, hx]

theorem firstOccurrences_of_nodup (xs : List String) (h : xs.Nodup) : firstOccurrences xs = xs := by
  induction xs with
  | nil => rfl
  | cons s rest ih =>
    obtain ⟨hs, hrest⟩ := List.nodup_cons.mp h
    rw [firstOccurrences, ih hrest, List.filter_eq_self.mpr]
    intro x hx
    simpa using ne_of_mem_of_not_mem hx hs

namespace Fields

theorem keys_set (name : String) (type : FieldType) (fields : Fields) :
    (fields.set name type).map Prod.fst =
      fields.map Prod.fst ++ if name ∈ fields.map Prod.fst then [] else [name] := by
  induction fields with
  | nil => rfl
  | cons field rest ih =>
    obtain ⟨key, old⟩ := field
    unfold set
    by_cases hkey : key = name
    · simp [hkey]
    · rw [if_neg hkey, List.map_cons, ih]
      simp only [List.map_cons, List.mem_cons, Ne.symm hkey, false_or, List.cons_append]

theorem lookup_set (name key : String) (type : FieldType) (fields : Fields) :
    (fields.set name type).lookup key = if key = name then some type else fields.lookup key := by
  induction fields with
  | nil =>
    rw [set, List.lookup_cons]
    by_cases hkey : key = name
    · simp [hkey]
    · simp [hkey, beq_false_of_ne hkey]
  | cons field rest ih =>
    obtain ⟨first, old⟩ := field
    unfold set
    by_cases hfirst : first = name
    · rw [if_pos hfirst, List.lookup_cons, List.lookup_cons, hfirst]
      by_cases hkey : key = name
      · simp [hkey]
      · simp [hkey, beq_false_of_ne hkey]
    · rw [if_neg hfirst, List.lookup_cons, List.lookup_cons, ih]
      by_cases hkey : key = first
      · simp [hkey, hfirst]
      · simp [beq_false_of_ne hkey]

theorem ofList_concat (fields : List (String × FieldType)) (field : String × FieldType) :
    ofList (fields ++ [field]) = (ofList fields).set field.1 field.2 := by
  simp [ofList]

/-- A record has the names that were set, each where it was set first. -/
theorem keys_ofList (fields : List (String × FieldType)) :
    (ofList fields).map Prod.fst = firstOccurrences (fields.map Prod.fst) := by
  induction fields using List.reverseRecOn with
  | nil => rfl
  | append_singleton fields field ih =>
    rw [ofList_concat, keys_set, ih, List.map_append, List.map_singleton, firstOccurrences_concat]
    simp only [mem_firstOccurrences]

/-- A field has the type that was set last. -/
theorem lookup_ofList (fields : List (String × FieldType)) (key : String) :
    (ofList fields).lookup key = (fields.filter (·.1 = key)).getLast?.map Prod.snd := by
  induction fields using List.reverseRecOn with
  | nil => rfl
  | append_singleton fields field ih =>
    rw [ofList_concat, lookup_set, ih, List.filter_append]
    by_cases hkey : field.1 = key
    · simp [hkey]
    · simp [hkey, Ne.symm hkey]

theorem set_of_not_mem (name : String) (type : FieldType) (fields : Fields)
    (h : name ∉ fields.map Prod.fst) : fields.set name type = fields ++ [(name, type)] := by
  induction fields with
  | nil => rfl
  | cons field rest ih =>
    obtain ⟨key, old⟩ := field
    rw [List.map_cons, List.mem_cons, not_or] at h
    simp [set, Ne.symm h.1, ih h.2]

/-- Fields with names of their own are all kept, in order. -/
theorem ofList_of_nodup (fields : List (String × FieldType)) (h : (fields.map Prod.fst).Nodup) :
    ofList fields = fields := by
  induction fields using List.reverseRecOn with
  | nil => rfl
  | append_singleton fields field ih =>
    rw [List.map_append, List.map_singleton, List.nodup_append] at h
    obtain ⟨hfields, -, hfresh⟩ := h
    rw [ofList_concat, ih hfields, set_of_not_mem]
    exact fun hmem => hfresh _ hmem _ (by simp) rfl

end Fields

/-- Whether the type allows just these texts, in order, and is `empty` if there are none. -/
def FieldType.Allows (type empty : FieldType) (values : List String) : Prop :=
  if values = [] then type = empty else type.literals? = some values

theorem FieldType.allows_oneOfOr (values : List String) (empty : FieldType) :
    (oneOfOr values empty).Allows empty (firstOccurrences values) := by
  cases values with
  | nil => rfl
  | cons s rest =>
    unfold Allows
    rw [if_neg (by simp [firstOccurrences])]
    rfl

theorem FieldType.Allows.unique (type empty : FieldType) (values others : List String)
    (hempty : empty.literals? = none) (h : type.Allows empty values)
    (h' : type.Allows empty others) : values = others := by
  unfold Allows at h h'
  split at h <;> split at h' <;> simp_all

theorem allows_modifierType (modifiers : List String) (empty : FieldType)
    (h : (modifiers.map paramCase).Nodup) :
    (modifierType modifiers empty).Allows empty (modifiers.map paramCase) := by
  have hallows := FieldType.allows_oneOfOr (modifiers.map paramCase) empty
  rwa [firstOccurrences_of_nodup _ h] at hallows

theorem map_paramCase_eq_of_modifierType_eq (modifiers others : List String) (empty : FieldType)
    (hempty : empty.literals? = none) (h : (modifiers.map paramCase).Nodup)
    (h' : (others.map paramCase).Nodup)
    (heq : modifierType modifiers empty = modifierType others empty) :
    modifiers.map paramCase = others.map paramCase := by
  have hallows := allows_modifierType modifiers empty h
  rw [heq] at hallows
  exact hallows.unique _ _ _ _ hempty (allows_modifierType others empty h')

theorem Block.fields_declaration (b : Block) :
    b.declaration.fields = [("name", .oneOfOr [b.paramName] .never),
      ("elements", .record (elementFields b.elements)),
      ("modifiers", modifierType b.modifiers .never)] :=
  Fields.ofList_of_nodup _ (by simp)

theorem elementFields_of_nodup (elements : List Element)
    (h : (elements.map fun e => paramCase e.name).Nodup) :
    elementFields elements =
      elements.map fun e => (paramCase e.name, modifierType e.modifiers .undefined) := by
  apply Fields.ofList_of_nodup
  rwa [List.map_map]

/-- The type of an element is that of the last element of its name. -/
theorem lookup_elementFields (elements : List Element) (key : String) (e : Element)
    (h : (elements.filter fun e => paramCase e.name = key).getLast? = some e) :
    (elementFields elements).lookup key = some (modifierType e.modifiers .undefined) := by
  rw [elementFields, Fields.lookup_ofList, List.filter_map, List.getLast?_map]
  simp only [Function.comp_def, h, Option.map_some]

/-- The block with all its names in param case. -/
def Block.inParamCase (b : Block) : Block where
  name := paramCase b.name
  elements := b.elements.map fun e => ⟨paramCase e.name, e.modifiers.map paramCase⟩
  modifiers := b.modifiers.map paramCase

/-- The declaration is made of the names in param case. -/
theorem Block.declaration_eq_of_inParamCase_eq (b c : Block) (h : b.inParamCase = c.inParamCase) :
    b.declaration = c.declaration := by
  have hfields (d : Block) : d.declaration =
      { exported := true
        identifier := Naming.pascalCase (d.inParamCase.name ++ "Block")
        fields := .ofList [
          ("name", .oneOfOr [d.inParamCase.name] .never),
          ("elements", .record (Fields.ofList (d.inParamCase.elements.map fun e =>
            (e.name, .oneOfOr e.modifiers .undefined)))),
          ("modifiers", .oneOfOr d.inParamCase.modifiers .never)] } := by
    simp only [declaration, inParamCase, paramName, elementFields, modifierType, List.map_map,
      Function.comp_def]
  rw [hfields b, hfields c, h]

theorem inParamCase_elements_eq (elements others : List Element)
    (hapart : ∀ e ∈ elements, (e.modifiers.map paramCase).Nodup)
    (hapart' : ∀ e ∈ others, (e.modifiers.map paramCase).Nodup)
    (h : (elements.map fun e => (paramCase e.name, modifierType e.modifiers .undefined)) =
      others.map fun e => (paramCase e.name, modifierType e.modifiers .undefined)) :
    (elements.map fun e => Element.mk (paramCase e.name) (e.modifiers.map paramCase)) =
      others.map fun e => ⟨paramCase e.name, e.modifiers.map paramCase⟩ := by
  induction elements generalizing others with
  | nil =>
    obtain rfl : others = [] := by simpa using h.symm
    rfl
  | cons e elements ih =>
    obtain ⟨e', others, rfl, hhead, htail⟩ := List.map_eq_cons_iff.mp h.symm
    obtain ⟨hname, htype⟩ := Prod.mk.inj hhead
    have hmodifiers := map_paramCase_eq_of_modifierType_eq e.modifiers e'.modifiers .undefined rfl
      (hapart e (by simp)) (hapart' e' (by simp)) htype.symm
    have hrest := ih others (fun x hx => hapart x (by simp [hx]))
      (fun x hx => hapart' x (by simp [hx])) htail.symm
    rw [List.map_cons, List.map_cons, hname, hmodifiers, hrest]

/-- Names that stay apart can be told from the fields. -/
theorem Block.WellNamed.inParamCase_eq (b c : Block) (hb : b.WellNamed) (hc : c.WellNamed)
    (h : b.declaration.fields = c.declaration.fields) : b.inParamCase = c.inParamCase := by
  rw [b.fields_declaration, c.fields_declaration, elementFields_of_nodup _ hb.elements_nodup,
    elementFields_of_nodup _ hc.elements_nodup] at h
  simp only [List.cons.injEq, Prod.mk.injEq, true_and, and_true, FieldType.record.injEq] at h
  obtain ⟨hname, helements, hmodifiers⟩ := h
  have hblock := fun d : Block => FieldType.allows_oneOfOr [d.paramName] .never
  have hnames : [b.paramName] = [c.paramName] := by
    have hallows := hblock b
    rw [hname] at hallows
    exact hallows.unique _ _ _ _ rfl (hblock c)
  have hapart (d : Block) (hd : d.WellNamed) :
      ∀ e ∈ d.elements, (e.modifiers.map paramCase).Nodup :=
    fun e he => hd.modifiers_nodup e (List.mem_cons_of_mem _ he)
  simp only [inParamCase, Block.mk.injEq]
  refine ⟨List.singleton_inj.mp hnames, inParamCase_elements_eq _ _ (hapart b hb) (hapart c hc) helements, ?_⟩
  exact map_paramCase_eq_of_modifierType_eq _ _ .never rfl
    (hb.modifiers_nodup ⟨b.name, b.modifiers⟩ (by simp [entries]))
    (hc.modifiers_nodup ⟨c.name, c.modifiers⟩ (by simp [entries])) hmodifiers

/-- The fields can be told from the text. -/
theorem Layout.fields_eq_of_print_eq (l : Layout) (d d' : Declaration) (h : l.print d = l.print d') :
    d.fields = d'.fields := by
  obtain ⟨ms, hmarks, hscan⟩ := l.exists_aliasMarks d
  obtain ⟨ms', hmarks', hscan'⟩ := l.exists_aliasMarks d'
  have hchars : l.declarationChars d = l.declarationChars d' := String.ofList_injective h
  rw [hchars, hscan', Option.some.injEq] at hscan
  subst hscan
  have halias := hmarks.unique _ _ _ hmarks'
  simp only [Declaration.alias, Alias.TypeAlias.mk.injEq, Alias.TypeTree.record.injEq] at halias
  exact eq_of_fieldTrees_eq _ _ halias.2.2

theorem Block.WellNamed.render_types_eq_iff (b c : Block) (hb : b.WellNamed) (hc : c.WellNamed)
    (l : Layout) :
    l.renderTypes b = l.renderTypes c ↔ b.inParamCase = c.inParamCase := by
  constructor
  · exact fun h => hb.inParamCase_eq _ _ hc (l.fields_eq_of_print_eq _ _ h)
  · exact fun h => congrArg l.print (b.declaration_eq_of_inParamCase_eq c h)

theorem Block.wellNamed_of_parse (source : String) (b : Block) (h : Block.parse source = .ok b) :
    b.WellNamed :=
  (b.wellFormed_of_readBlock source ((b.parse_eq_ok_iff source).mp h)).toWellNamed

/-- The fields of the declaration of a block. Its elements stand under their names in
param case, each name once and where it comes first, with the modifiers of the last element
of that name; modifiers stand in param case, each once and where it comes first. For a
block that was read nothing is left out: there is a field for each line of an element and a
text for each of its modifiers, in order, and what is printed for two of them is the same
in a layout exactly if they agree in param case. -/
theorem declaration_keeps_names (b : Block) :
    ∃ name elements modifiers,
      b.declaration.fields =
          [("name", name), ("elements", .record elements), ("modifiers", modifiers)] ∧
        elements.map Prod.fst = (b.elements.map fun e => paramCase e.name).eraseDups ∧
        (∀ key e, (b.elements.filter fun e => paramCase e.name = key).getLast? = some e →
          ∃ type, elements.lookup key = some type ∧
            type.Allows .undefined (e.modifiers.map paramCase).eraseDups) ∧
        modifiers.Allows .never (b.modifiers.map paramCase).eraseDups ∧
        ∀ source, Block.parse source = .ok b →
          (∃ first rest, Reads (pieces source.toList) (first :: rest) ∧
            name.Allows .never [paramCase first.name] ∧
            modifiers.Allows .never (first.modifiers.map paramCase) ∧
            List.Forall₂ (fun e field => field.1 = paramCase e.name ∧
              field.2.Allows .undefined (e.modifiers.map paramCase)) rest elements) ∧
          ∀ source' c, Block.parse source' = .ok c → ∀ l : Layout,
            (l.renderTypes b = l.renderTypes c ↔ b.inParamCase = c.inParamCase) := by
  refine ⟨_, _, _, b.fields_declaration, ?_, fun key e he => ?_, ?_, fun source hparse => ?_⟩
  · rw [← firstOccurrences_eq_eraseDups, elementFields, Fields.keys_ofList, List.map_map]
    rfl
  · rw [← firstOccurrences_eq_eraseDups]
    exact ⟨_, lookup_elementFields _ key e he, FieldType.allows_oneOfOr _ _⟩
  · rw [← firstOccurrences_eq_eraseDups]
    exact FieldType.allows_oneOfOr _ _
  · have hnamed := b.wellNamed_of_parse source hparse
    have hreads := ((Source.readBlock_eq_ok source b).mp ((b.parse_eq_ok_iff source).mp hparse)).1
    refine ⟨⟨⟨b.name, b.modifiers⟩, b.elements, hreads, ?_, ?_, ?_⟩, fun source' c hparse' l => ?_⟩
    · exact FieldType.allows_oneOfOr [b.paramName] .never
    · exact allows_modifierType _ _
        (hnamed.modifiers_nodup ⟨b.name, b.modifiers⟩ (by simp [Block.entries]))
    · rw [elementFields_of_nodup _ hnamed.elements_nodup, List.forall₂_map_right_iff]
      apply List.forall₂_same.mpr
      intro e he
      have hmodifiers := hnamed.modifiers_nodup e (List.mem_cons_of_mem _ he)
      exact ⟨rfl, allows_modifierType _ _ hmodifiers⟩
    · exact hnamed.render_types_eq_iff _ _ (c.wellNamed_of_parse source' hparse') l

/-- Two spellings of one menu, with line breaks of both kinds. -/
theorem declaration_keeps_names_menuBar :
    let source := "MenuBar[XL]\nitem[active,isOpen]\nSep"
    let source' := "menu-bar [xl]\r\n\r\n  Item[Active, is_open]\nsep"
    let item : Element := ⟨"item", ["active", "isOpen"]⟩
    let b : Block := ⟨"MenuBar", [item, ⟨"Sep", []⟩], ["XL"]⟩
    let c : Block := ⟨"menu-bar", [⟨"Item", ["Active", "is_open"]⟩, ⟨"sep", []⟩], ["xl"]⟩
    Block.parse source = .ok b ∧ Block.parse source' = .ok c ∧
      (b.elements.filter fun e => paramCase e.name = "item").getLast? = some item ∧
      ∃ name elements modifiers,
        b.declaration.fields =
            [("name", name), ("elements", .record elements), ("modifiers", modifiers)] ∧
          (∃ type, elements.lookup "item" = some type ∧
            type.Allows .undefined (item.modifiers.map paramCase).eraseDups) ∧
          elements.length = 2 ∧
          ∀ l : Layout, l.renderTypes b = l.renderTypes c := by
  intro source source' item b c
  have hparse : Block.parse source = .ok b := by decide +kernel
  have hparse' : Block.parse source' = .ok c := by decide +kernel
  have hlast : (b.elements.filter fun e => paramCase e.name = "item").getLast? = some item := by
    decide +kernel
  have hcase : b.inParamCase = c.inParamCase := by decide +kernel
  obtain ⟨name, elements, modifiers, hfields, hkeys, hlookup, -, hread⟩ := declaration_keeps_names b
  have hlength : elements.length = 2 := by
    have hkeysLength := congrArg List.length hkeys
    rw [List.length_map] at hkeysLength
    rw [hkeysLength]
    decide +kernel
  exact ⟨hparse, hparse', hlast, name, elements, modifiers, hfields, hlookup _ _ hlast, hlength,
    fun l => ((hread source hparse).2 source' c hparse' l).mpr hcase⟩

end BemNotation
