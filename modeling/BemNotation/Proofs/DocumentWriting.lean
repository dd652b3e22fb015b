import BemNotation.Proofs.DocumentGrammar
import BemNotation.Toml

/-!
The writer and the grammar. What is written for a character between double quotes spells it,
so texts, lists of texts and entries are written as the grammar has them. The lines of a
record say its plain values first and then the tables in its lists.
-/

namespace BemNotation.Toml

open Data

/-- How the writer spells texts. -/
def SpellsAsWritten (s : String) (cs : List Char) : Prop :=
  cs = basicText s

theorem codePoint?_hexDigits4 : ∀ n < 128,
    let ds := (Text.hexDigits4 (Char.ofNat n)).map Char.toUpper
    ds.length = 4 ∧ (codePoint? 0 ds).bind charAt? = some (Char.ofNat n) := by
  decide +kernel

/-- What is written for a character spells it. -/
theorem charText_basicChar (c : Char) : CharText c (basicChar c) := by
  fun_cases basicChar c
  case case8 hcontrol =>
    have hlt : c.toNat < 128 := by
      simp only [Bool.or_eq_true, decide_eq_true_eq] at hcontrol
      omega
    have hdigits := codePoint?_hexDigits4 c.toNat hlt
    rw [Char.ofNat_toNat] at hdigits
    exact .digits (congrArg (some ∘ Escape.digits) hdigits.1.symm) hdigits.2
  case case9 hquote hescape _ _ _ _ _ hprinted =>
    have hplain : isPlain c = true := by
      simp only [Bool.or_eq_true, decide_eq_true_eq, not_or] at hprinted
      simp [isPlain, hprinted]
      omega
    exact .plain hquote hescape hplain
  all_goals
    subst_vars
    exact .short rfl

theorem forall₂_charText_basicChar (cs : List Char) :
    List.Forall₂ CharText cs (cs.map basicChar) := by
  rw [List.forall₂_map_right_iff]
  exact List.forall₂_same.mpr fun c _ => charText_basicChar c

theorem spellsBasic_asWritten : SpellsBasic SpellsAsWritten := by
  rintro s cs rfl
  refine ⟨s.toList.map basicChar, forall₂_charText_basicChar s.toList, ?_⟩
  rw [basicText, List.flatMap_def]
  rfl

theorem itemsText_itemLines (items : List String) :
    ItemsText SpellsAsWritten items ('\n' :: (items.flatMap itemLine ++ [']'])) := by
  induction items with
  | nil =>
    have hgap : IsGap ['\n'] := by simp [IsGap]
    exact .nil hgap
  | cons s items ih =>
    have hgap : IsGap "\n    ".toList := by simp [IsGap, isBlank]
    have hline := ItemsText.cons hgap (show SpellsAsWritten s _ from rfl) isGap_nil ih
    simpa [itemLine] using hline

theorem itemsText_textList (items : List String) :
    ∃ cs, textList items = '[' :: cs ∧ ItemsText SpellsAsWritten items cs := by
  fun_cases textList items with
  | case1 => exact ⟨_, rfl, .nil isGap_nil⟩
  | case2 s =>
    have hitem := ItemsText.last isGap_nil (show SpellsAsWritten s _ from rfl) isGap_nil
    exact ⟨_, rfl, hitem⟩
  | case3 => exact ⟨_, by simp, itemsText_itemLines items⟩

theorem exists_texts_of_all (items : List Value) (h : items.all (·.text?.isSome) = true) :
    ∃ ss : List String, items = ss.map .text := by
  induction items with
  | nil => exact ⟨[], rfl⟩
  | cons v items ih =>
    rw [List.all_cons, Bool.and_eq_true] at h
    obtain ⟨ss, hss⟩ := ih h.2
    cases v with
    | text s => exact ⟨s :: ss, congrArg (Value.text s :: ·) hss⟩
    | _ => simp [Value.text?] at h

/-- A plain value is a text or a list of texts. -/
theorem text_or_texts_of_isPlainValue (v : Value) (h : isPlainValue v = true) :
    (∃ s, v = .text s) ∨ ∃ ss, v = .texts ss := by
  cases v with
  | text s => exact Or.inl ⟨s, rfl⟩
  | list items =>
    obtain ⟨ss, rfl⟩ := exists_texts_of_all items h
    exact Or.inr ⟨ss, rfl⟩
  | _ => simp [isPlainValue] at h

theorem valueText_plainText (v : Value) (h : isPlainValue v = true) :
    ValueText SpellsAsWritten v (plainText v) := by
  obtain ⟨s, rfl⟩ | ⟨ss, rfl⟩ := text_or_texts_of_isPlainValue v h
  · exact .text rfl
  · obtain ⟨cs, hchars, hitems⟩ := itemsText_textList ss
    have hwritten : plainText (.texts ss) = '[' :: cs := by
      change textList ((Value.texts ss).texts?.getD []) = _
      rw [Value.texts?_texts, Option.getD_some, hchars]
    rw [hwritten]
    exact .list hitems

section Documents

variable {ss ss' : List Statement} {cs cs' : List Char}

theorem DocumentText.append {Spells : String → List Char → Prop} (h : DocumentText Spells ss cs)
    (h' : DocumentText Spells ss' cs') : DocumentText Spells (ss ++ ss') (cs ++ cs') := by
  induction h with
  | nil => exact h'
  | empty hindent _ ih =>
    rw [List.append_assoc, List.cons_append]
    exact .empty hindent ih
  | line hindent htext htrail _ ih =>
    simp only [List.append_assoc, List.cons_append]
    exact .line hindent htext htrail ih

theorem DocumentText.flatMap {α : Type} {Spells : String → List Char → Prop} (xs : List α)
    (f : α → List Statement) (g : α → List Char) (h : ∀ x ∈ xs, DocumentText Spells (f x) (g x)) :
    DocumentText Spells (xs.flatMap f) (xs.flatMap g) := by
  induction xs with
  | nil => exact .nil
  | cons x xs ih =>
    rw [List.flatMap_cons, List.flatMap_cons]
    exact (h x (by simp)).append (ih fun y hy => h y (List.mem_cons_of_mem _ hy))

/-- A line without blanks around its statement. -/
theorem DocumentText.single {Spells : String → List Char → Prop} (s : Statement)
    (text : List Char) (h : StatementText Spells s text) :
    DocumentText Spells [s] (text ++ ['\n']) :=
  .line isBlanks_nil h isBlanks_nil .nil

end Documents

theorem documentText_entryLine (name : String) (v : Value) (hname : isBareName name = true)
    (hv : isPlainValue v = true) :
    DocumentText SpellsAsWritten [.assignment ⟨[], name⟩ v] (entryLine name v) := by
  have hblank : IsBlanks [' '] := by simp [IsBlanks, isBlank]
  have hstatement := StatementText.assignment hname hblank hblank (valueText_plainText v hv)
  have hline := DocumentText.single _ _ hstatement
  simpa [entryLine] using hline

theorem documentText_entryLines (entries : List (String × Value))
    (h : ∀ entry ∈ entries, isBareName entry.1 = true ∧ isPlainValue entry.2 = true) :
    DocumentText SpellsAsWritten (assignments entries) (entryLines entries) := by
  rw [assignments, List.map_eq_flatMap]
  apply DocumentText.flatMap
  rintro ⟨name, v⟩ hentry
  obtain ⟨hname, hv⟩ := h (name, v) hentry
  exact documentText_entryLine name v hname hv

theorem documentText_rowText (name : String) (row : List (String × Value))
    (hname : isBareName name = true) (hrow : isFlat row = true) :
    DocumentText SpellsAsWritten (rowStatements name row) (rowText name row) := by
  have hentries : ∀ entry ∈ row, isBareName entry.1 = true ∧ isPlainValue entry.2 = true := by
    simp only [isFlat, Bool.and_eq_true, List.all_eq_true] at hrow
    exact hrow.2
  have hheader := DocumentText.single _ _
    (show StatementText SpellsAsWritten _ _ from .rowHeader hname isBlanks_nil isBlanks_nil)
  have hlines := hheader.append (documentText_entryLines row hentries)
  have htable := DocumentText.empty isBlanks_nil hlines
  simpa [rowText, rowStatements] using htable

theorem isFlat_of_mem_rows (v : Value) (h : isTableList v = true) (row : List (String × Value))
    (hrow : row ∈ rows v) : isFlat row = true := by
  cases v with
  | list items =>
    obtain ⟨item, hitem, hentries⟩ := List.mem_filterMap.mp hrow
    have hflat := List.all_eq_true.mp h item hitem
    rw [hentries] at hflat
    exact hflat
  | _ => simp [isTableList] at h

theorem rows_of_isPlainValue (v : Value) (h : isPlainValue v = true) : rows v = [] := by
  obtain ⟨s, rfl⟩ | ⟨ss, rfl⟩ := text_or_texts_of_isPlainValue v h
  · rfl
  · exact rows_texts ss

theorem writesRecords_format : WritesRecords format := by
  intro entries hrecord
  exact ⟨_, if_pos hrecord⟩

/-- Records are written with their plain values first. -/
theorem writesPlainFirst_format : WritesPlainFirst format SpellsAsWritten := by
  intro entries text hrecord hwrite
  have htext : text =
      String.ofList (entryLines (plainEntries entries) ++ entries.flatMap tableTexts) := by
    change write (.table entries) = .ok text at hwrite
    rw [write, if_pos hrecord] at hwrite
    exact (Except.ok.inj hwrite).symm
  have hentries : ∀ entry ∈ entries, isBareName entry.1 = true ∧
      (isPlainValue entry.2 = true ∨ isTableList entry.2 = true) := by
    simpa only [isRecord, Bool.and_eq_true, List.all_eq_true, Bool.or_eq_true] using
      (Bool.and_eq_true_iff.mp hrecord).2
  rw [htext, String.toList_ofList]
  apply DocumentText.append
  · apply documentText_entryLines
    rintro entry hentry
    obtain ⟨hmem, hplain⟩ := List.mem_filter.mp hentry
    exact ⟨(hentries entry hmem).1, hplain⟩
  · apply DocumentText.flatMap
    rintro ⟨name, v⟩ hentry
    apply DocumentText.flatMap
    intro row hrow
    obtain ⟨hname, hplain | htables⟩ := hentries (name, v) hentry
    -- A plain value has no tables that could be left over for the end.
    · simp [rows_of_isPlainValue v hplain] at hrow
    · exact documentText_rowText name row hname (isFlat_of_mem_rows v htables row hrow)

end BemNotation.Toml
