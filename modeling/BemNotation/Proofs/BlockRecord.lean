import BemNotation.Data.Record
import BemNotation.Proofs.DocumentGrammar

/-!
Blocks as records. A block is a record whatever its names are, so every format can be asked
to write it, and the statements of the record are those of the block with its elements last.
Nothing but the names of its parts counts for reading it, so it is read from its record in
any order of the entries.
-/

namespace BemNotation.Toml

open Data

theorem isBareName_fields : isBareName "name" = true ∧ isBareName "elements" = true ∧
    isBareName "modifiers" = true := by
  decide +kernel

theorem isTableList_elements (es : List Element) :
    isTableList (.list (es.map Element.toValue)) = true := by
  simp only [isTableList, List.all_map, List.all_eq_true]
  intro e _
  simp [Element.toValue, Value.entries?, isFlat, distinctNames, isBareName_fields,
    isPlainValue_text, isPlainValue_texts]

/-- Every block is a record. -/
theorem isRecord_record (b : Block) : isRecord b.record = true := by
  have helements := isTableList_elements b.elements
  simp [isRecord, Block.record, distinctNames, isBareName_fields, isPlainValue_text,
    isPlainValue_texts, helements]

/-- What the lines of an element say. -/
def elementStatements (e : Element) : List Statement :=
  [.rowHeader ⟨[], "elements"⟩, .assignment ⟨[], "name"⟩ (.text e.name),
    .assignment ⟨[], "modifiers"⟩ (.texts e.modifiers)]

/-- What the lines of a block say. -/
def blockStatements (b : Block) : List Statement :=
  .assignment ⟨[], "name"⟩ (.text b.name) ::
    ((if b.elements.isEmpty then [.assignment ⟨[], "elements"⟩ (.list [])] else []) ++
      .assignment ⟨[], "modifiers"⟩ (.texts b.modifiers) ::
        b.elements.flatMap elementStatements)

theorem isPlainValue_elements (es : List Element) :
    isPlainValue (.list (es.map Element.toValue)) = es.isEmpty := by
  cases es <;> rfl

theorem rows_elements (es : List Element) :
    (rows (.list (es.map Element.toValue))).flatMap (rowStatements "elements") =
      es.flatMap elementStatements := by
  induction es with
  | nil => rfl
  | cons e es ih =>
    have hrows : rows (.list ((e :: es).map Element.toValue)) =
        [("name", .text e.name), ("modifiers", .texts e.modifiers)] ::
          rows (.list (es.map Element.toValue)) := rfl
    rw [hrows, List.flatMap_cons, ih]
    rfl

/-- Elements stand behind the modifiers of the block, unless there are none. -/
theorem recordStatements_record (b : Block) : recordStatements b.record = blockStatements b := by
  have hplain : plainEntries b.record = ("name", .text b.name) ::
      ((if b.elements.isEmpty then [("elements", .list (b.elements.map Element.toValue))]
        else []) ++ [("modifiers", .texts b.modifiers)]) := by
    simp only [plainEntries, Block.record, List.filter_cons, isPlainValue_text,
      isPlainValue_elements, isPlainValue_texts]
    cases b.elements.isEmpty <;> rfl
  have htables : b.record.flatMap tableStatements = b.elements.flatMap elementStatements := by
    simp [Block.record, tableStatements, rows_elements, rows_texts, rows_text]
  rw [recordStatements, hplain, htables, blockStatements]
  cases b.elements <;> rfl

theorem Reordered.eq_text (s : String) (v : Value) (h : Reordered (.text s) v) : v = .text s := by
  cases h
  rfl

theorem Reordered.eq_texts (items : List String) (v : Value) (h : Reordered (.texts items) v) :
    v = .texts items := by
  cases h with
  | same => rfl
  | @list _ items' h =>
    congr 1
    induction items generalizing items' with
    | nil => exact List.forall₂_nil_left_iff.mp h
    | cons s items ih =>
      obtain ⟨v, vs, hv, hvs, rfl⟩ := List.forall₂_cons_left_iff.mp h
      rw [hv.eq_text, ih hvs, List.map_cons]

theorem Reordered.exists_entries (entries : List (String × Value)) (v : Value)
    (h : Reordered (.table entries) v) :
    ∃ entries', v = .table entries' ∧
      ∀ name, Option.Rel Reordered (entries.lookup name) (entries'.lookup name) := by
  cases h with
  | same =>
    refine ⟨entries, rfl, fun name => ?_⟩
    cases entries.lookup name with
    | none => exact .none
    | some v => exact .some (.same v)
  | table h => exact ⟨_, rfl, h⟩

theorem Reordered.of_lookup_eq (entries entries' : List (String × Value)) (v : Value)
    (h : Reordered (.table entries) v)
    (hentries : ∀ name, entries.lookup name = entries'.lookup name) :
    Reordered (.table entries') v := by
  obtain ⟨others, rfl, hothers⟩ := h.exists_entries
  exact .table fun name => hentries name ▸ hothers name

/-- The parts of a table that has no others are found whatever the convention, and in any
order of its entries. -/
theorem Reordered.exists_parts (convention : Convention) (names : List String)
    (entries : List (String × Value)) (v : Value) (h : Reordered (.table entries) v)
    (hnames : ∀ name, name ∉ names → entries.lookup name = none) :
    ∃ lookup : String → Option Value, v.parts? convention names = some (names.map lookup) ∧
      ∀ name, Option.Rel Reordered (entries.lookup name) (lookup name) := by
  obtain ⟨others, rfl, hothers⟩ := h.exists_entries
  refine ⟨fun name => others.lookup name, ?_, hothers⟩
  have hall : ∀ entry ∈ others,
      (names.contains entry.1 || convention.mayStandBy entry.2) = true := by
    rintro ⟨name, w⟩ hentry
    -- A name that is not asked for has no entry, in whatever order the entries stand.
    have hmem : name ∈ names := by
      by_contra hname
      have hlookup := hothers name
      rw [hnames name hname] at hlookup
      cases hfound : others.lookup name with
      | none => simpa using List.lookup_eq_none_iff.mp hfound (name, w) hentry
      | some _ => simp [hfound] at hlookup
    simp [hmem]
  rw [Value.parts?, if_pos (List.all_eq_true.mpr hall)]

theorem exists_of_rel (v : Value) (o : Option Value) (h : Option.Rel Reordered (some v) o) :
    ∃ w, o = some w ∧ Reordered v w := by
  cases h with
  | some h => exact ⟨_, rfl, h⟩

theorem ofValue?_element_of_reordered (e : Element) (convention : Convention) (v : Value)
    (h : Reordered e.toValue v) : Element.ofValue? convention v = some e := by
  obtain ⟨lookup, hparts, hlookup⟩ := h.exists_parts convention ["name", "modifiers"] _ _ (by
    intro name hname
    simp only [List.mem_cons, List.not_mem_nil, or_false, not_or] at hname
    simp [List.lookup_cons, beq_false_of_ne hname.1, beq_false_of_ne hname.2])
  obtain ⟨_, hname, htext⟩ := exists_of_rel _ _ (hlookup "name")
  obtain ⟨_, hmodifiers, htexts⟩ := exists_of_rel _ _ (hlookup "modifiers")
  obtain rfl := htext.eq_text
  obtain rfl := htexts.eq_texts
  rw [Element.ofValue?, hparts, List.map_cons, List.map_cons, hname, hmodifiers]
  change (Value.texts e.modifiers).texts?.bind _ = _
  rw [Value.texts?_texts]
  rfl

theorem mapM_element_of_reordered (es : List Element) (convention : Convention)
    (items : List Value) (h : List.Forall₂ Reordered (es.map Element.toValue) items) :
    items.mapM (Element.ofValue? convention) = some es := by
  induction es generalizing items with
  | nil =>
    rw [List.forall₂_nil_left_iff.mp h]
    rfl
  | cons e es ih =>
    obtain ⟨v, rest, hv, hrest, rfl⟩ := List.forall₂_cons_left_iff.mp h
    rw [List.mapM_cons, ofValue?_element_of_reordered e convention v hv, ih rest hrest]
    rfl

theorem exists_items_of_reordered (es : List Element) (convention : Convention) (v : Value)
    (h : Reordered (.list (es.map Element.toValue)) v) :
    ∃ items, v = .list items ∧ items.mapM (Element.ofValue? convention) = some es := by
  cases h with
  | same =>
    exact ⟨_, rfl, mapM_element_of_reordered es _ _ (List.forall₂_same.mpr fun v _ => .same v)⟩
  | list h => exact ⟨_, rfl, mapM_element_of_reordered es _ _ h⟩

/-- A block is read from its record. -/
theorem ofValue?_of_reordered (b : Block) (convention : Convention) (v : Value)
    (h : Reordered b.toValue v) : Block.ofValue? convention v = some b := by
  obtain ⟨lookup, hparts, hlookup⟩ :=
    h.exists_parts convention ["name", "elements", "modifiers"] _ _ (by
      intro name hname
      simp only [List.mem_cons, List.not_mem_nil, or_false, not_or] at hname
      simp [Block.record, List.lookup_cons, beq_false_of_ne hname.1, beq_false_of_ne hname.2.1,
        beq_false_of_ne hname.2.2])
  obtain ⟨_, hname, htext⟩ := exists_of_rel _ _ (hlookup "name")
  obtain ⟨_, helements, hlist⟩ := exists_of_rel _ _ (hlookup "elements")
  obtain ⟨_, hmodifiers, htexts⟩ := exists_of_rel _ _ (hlookup "modifiers")
  obtain rfl := htext.eq_text
  obtain rfl := htexts.eq_texts
  obtain ⟨items, rfl, hitems⟩ := exists_items_of_reordered b.elements convention _ hlist
  rw [Block.ofValue?, hparts, List.map_cons, List.map_cons, List.map_cons, hname, helements,
    hmodifiers]
  change (items.mapM (Element.ofValue? convention)).bind _ = _
  rw [hitems]
  change (Value.texts b.modifiers).texts?.bind _ = _
  rw [Value.texts?_texts]
  rfl

end BemNotation.Toml
