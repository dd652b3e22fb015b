import BemNotation.Proofs.LineGrammar
import BemNotation.Source.Grammar

/-!
The order of tokens, entry by entry. A line of tokens is accepted exactly when it
spells an entry, and a whole list of lines exactly when those that are not empty
spell the entries of a block, its own first. Spans play no part in it.
-/

namespace BemNotation

/-- The line of the block and the lines of its elements. -/
def Block.entries (b : Block) : List Element :=
  ⟨b.name, b.modifiers⟩ :: b.elements

theorem Block.eq_of_entries_eq (a b : Block) (h : a.entries = b.entries) : a = b := by
  obtain ⟨hfirst, helements⟩ := List.cons.inj h
  obtain ⟨hname, hmodifiers⟩ := Element.mk.inj hfirst
  cases a
  cases b
  simp_all

def Element.tokens (e : Element) : List Source.Token :=
  Source.entryTokens e.name.toList (e.modifiers.map String.toList)

theorem Element.tokens_ne_nil (e : Element) : e.tokens ≠ [] := by
  unfold Element.tokens Source.entryTokens
  split <;> simp

namespace Source

/-- The tokens of a line without their spans. -/
def values (ts : List (Located Token)) : List Token :=
  ts.map (·.value)

/-- What comes out of two steps went through both. -/
theorem exists_of_bind_eq_ok {α β : Type} (x : Except Fault α) (f : α → Except Fault β) (b : β)
    (h : x >>= f = .ok b) : ∃ a, x = .ok a ∧ f a = .ok b := by
  cases x with
  | error fault => simp [bind, Except.bind] at h
  | ok a => exact ⟨a, rfl, h⟩

theorem values_of_readNames (opening last : Span) (ts rest : List (Located Token))
    (names : List (Located String)) (h : readNames opening last ts = .ok (names, rest)) :
    names ≠ [] ∧
      values ts = listTokens (names.map fun n => n.value.toList) ++ values rest := by
  fun_induction readNames opening last ts generalizing names rest with
  | case1 => simp at h
  | case2 => simp at h
  | case3 last text span comma ts ih =>
    obtain ⟨⟨others, tail⟩, hread, hreturn⟩ := exists_of_bind_eq_ok _ _ _ h
    obtain ⟨hne, hvalues⟩ := ih tail others hread
    obtain ⟨rfl, rfl⟩ : ⟨String.ofList text, span⟩ :: others = names ∧ tail = rest := by
      simpa [pure, Except.pure] using hreturn
    obtain ⟨first, others, rfl⟩ := List.exists_cons_of_ne_nil hne
    refine ⟨by simp, ?_⟩
    simp only [values, List.map_cons, listTokens, List.cons_append, String.toList_ofList] at hvalues ⊢
    rw [hvalues]
  | case4 last text span closing ts =>
    obtain ⟨rfl, rfl⟩ : [⟨String.ofList text, span⟩] = names ∧ ts = rest := by simpa using h
    exact ⟨by simp, by simp [values, listTokens]⟩
  | case5 => simp at h
  | case6 => simp at h

theorem exists_readNames (names : List (List Char)) (hne : names ≠ []) (opening last : Span)
    (ts : List (Located Token)) (tail : List Token)
    (h : values ts = listTokens names ++ tail) :
    ∃ found rest, readNames opening last ts = .ok (found, rest) ∧
      (found.map fun n => n.value.toList) = names ∧ values rest = tail := by
  induction names generalizing last ts with
  | nil => exact absurd rfl hne
  | cons name names ih =>
    cases names with
    | nil =>
      obtain ⟨⟨_, span⟩, ts', rfl, rfl, h'⟩ := List.map_eq_cons_iff.mp h
      obtain ⟨⟨_, closing⟩, rest, rfl, rfl, h''⟩ := List.map_eq_cons_iff.mp h'
      exact ⟨[⟨String.ofList name, span⟩], rest, rfl, by simp, h''⟩
    | cons next names =>
      obtain ⟨⟨_, span⟩, ts', rfl, rfl, h'⟩ := List.map_eq_cons_iff.mp h
      obtain ⟨⟨_, comma⟩, ts'', rfl, rfl, h''⟩ := List.map_eq_cons_iff.mp h'
      obtain ⟨found, rest, hread, hnames, hrest⟩ := ih (by simp) comma ts'' h''
      refine ⟨⟨String.ofList name, span⟩ :: found, rest, ?_, by simp [hnames], hrest⟩
      simp [readNames, hread, bind, Except.bind, pure, Except.pure]

theorem values_of_readModifiers (ts rest : List (Located Token)) (names : List (Located String))
    (h : readModifiers ts = .ok (names, rest)) :
    names = [] ∧ rest = ts ∨ names ≠ [] ∧
      values ts = .openBracket :: listTokens (names.map fun n => n.value.toList) ++ values rest := by
  unfold readModifiers at h
  split at h
  · simp at h
  · obtain ⟨hne, hvalues⟩ := values_of_readNames _ _ _ _ _ h
    refine Or.inr ⟨hne, ?_⟩
    simp only [values, List.map_cons, List.cons_append] at hvalues ⊢
    rw [hvalues]
  · obtain ⟨rfl, rfl⟩ : [] = names ∧ ts = rest := by simpa using h
    exact Or.inl ⟨rfl, rfl⟩

theorem readModifiers_openBracket (opening : Span) (ts : List (Located Token))
    (h : ∀ closing rest, ts ≠ ⟨.closeBracket, closing⟩ :: rest) :
    readModifiers (⟨.openBracket, opening⟩ :: ts) = readNames opening opening ts := by
  unfold readModifiers
  split <;> simp_all

def Entry.toElement (e : Entry) : Element :=
  ⟨e.name.value, e.modifierNames⟩

theorem Entry.tokens_toElement (name : Located String) (modifiers : List (Located String)) :
    (Entry.mk name modifiers).toElement.tokens =
      entryTokens name.value.toList (modifiers.map fun m => m.value.toList) := by
  simp [toElement, modifierNames, Element.tokens, Function.comp_def]

/-- The tokens of an accepted line spell the entry that is read from it. -/
theorem values_of_readEntry (noName : Located Token → Fault) (t : Located Token)
    (ts : List (Located Token)) (e : Entry) (h : readEntry noName t ts = .ok e) :
    values (t :: ts) = e.toElement.tokens := by
  unfold readEntry at h
  split at h
  case h_2 => simp at h
  case h_1 text span =>
    obtain ⟨⟨modifiers, rest⟩, hread, hreturn⟩ := exists_of_bind_eq_ok _ _ _ h
    cases rest with
    | cons t rest => simp at hreturn
    | nil =>
      obtain rfl : Entry.mk ⟨String.ofList text, span⟩ modifiers = e := by
        simpa [pure, Except.pure] using hreturn
      rw [Entry.tokens_toElement]
      rcases values_of_readModifiers ts [] modifiers hread with ⟨rfl, rfl⟩ | ⟨hne, hvalues⟩
      · simp [values, entryTokens]
      · obtain ⟨first, others, rfl⟩ := List.exists_cons_of_ne_nil hne
        simp only [values, List.map_cons, List.map_nil, List.append_nil] at hvalues ⊢
        rw [hvalues]
        simp [entryTokens]

theorem exists_readEntry (noName : Located Token → Fault) (t : Located Token)
    (ts : List (Located Token)) (e : Element) (h : values (t :: ts) = e.tokens) :
    ∃ entry, readEntry noName t ts = .ok entry ∧ entry.toElement = e := by
  obtain ⟨name, modifiers⟩ := e
  cases modifiers with
  | nil =>
    obtain ⟨⟨_, span⟩, ts', heq, rfl, h'⟩ := List.map_eq_cons_iff.mp h
    obtain ⟨rfl, rfl⟩ := List.cons.inj heq
    obtain rfl := List.map_eq_nil_iff.mp h'
    exact ⟨⟨⟨String.ofList name.toList, span⟩, []⟩, rfl, by simp [Entry.toElement, Entry.modifierNames]⟩
  | cons first others =>
    obtain ⟨⟨_, span⟩, ts', heq, rfl, h'⟩ := List.map_eq_cons_iff.mp h
    obtain ⟨rfl, rfl⟩ := List.cons.inj heq
    obtain ⟨⟨_, opening⟩, ts'', rfl, rfl, h''⟩ := List.map_eq_cons_iff.mp h'
    obtain ⟨found, rest, hread, hnames, hrest⟩ :=
      exists_readNames ((first :: others).map String.toList) (by simp) opening opening ts'' []
        (by simpa [values] using h'')
    obtain rfl := List.map_eq_nil_iff.mp hrest
    have hopen := readModifiers_openBracket opening ts'' (by
      rintro closing rest rfl
      cases others <;> simp [listTokens] at h'')
    have hfound : found.map (·.value) = first :: others := by
      simpa [Function.comp_def] using congrArg (List.map String.ofList) hnames
    refine ⟨⟨⟨String.ofList name.toList, span⟩, found⟩, ?_, ?_⟩
    · simp [readEntry, hopen, hread, bind, Except.bind, pure, Except.pure]
    · simp [Entry.toElement, Entry.modifierNames, hfound]

/-- The lines that hold tokens, each without its spans. -/
def filledLines (lines : List (List (Located Token))) : List (List Token) :=
  (lines.map values).filter (!·.isEmpty)

theorem filledLines_cons (t : Located Token) (ts : List (Located Token))
    (lines : List (List (Located Token))) :
    filledLines ((t :: ts) :: lines) = values (t :: ts) :: filledLines lines := rfl

theorem filledLines_of_readElements (lines : List (List (Located Token))) (es : List Entry)
    (h : readElements lines = .ok es) :
    filledLines lines = (es.map Entry.toElement).map Element.tokens := by
  fun_induction readElements lines generalizing es with
  | case1 =>
    obtain rfl : [] = es := by simpa using h
    rfl
  | case2 lines ih => exact ih es h
  | case3 t ts lines ih =>
    obtain ⟨entry, hentry, h⟩ := exists_of_bind_eq_ok _ _ _ h
    obtain ⟨others, hrest, h⟩ := exists_of_bind_eq_ok _ _ _ h
    obtain rfl : entry :: others = es := by simpa [pure, Except.pure] using h
    rw [filledLines_cons, values_of_readEntry _ t ts entry hentry, ih others hrest]
    rfl

theorem exists_readElements (lines : List (List (Located Token))) (es : List Element)
    (h : filledLines lines = es.map Element.tokens) :
    ∃ entries, readElements lines = .ok entries ∧ entries.map Entry.toElement = es := by
  induction lines generalizing es with
  | nil =>
    obtain rfl : es = [] := by simpa [filledLines] using h.symm
    exact ⟨[], rfl, rfl⟩
  | cons line lines ih =>
    cases line with
    | nil => exact ih es h
    | cons t ts =>
      rw [filledLines_cons] at h
      obtain ⟨e, es', rfl, he, hes⟩ := List.map_eq_cons_iff.mp h.symm
      obtain ⟨entry, hentry, htoElement⟩ :=
        exists_readEntry (.unexpectedToken · .elementName) t ts e he.symm
      obtain ⟨others, hothers, hmap⟩ := ih es' hes.symm
      refine ⟨entry :: others, ?_, by simp [htoElement, hmap]⟩
      simp [readElements, hentry, hothers, bind, Except.bind, pure, Except.pure]

theorem Outline.entries_toBlock (o : Outline) :
    o.toBlock.entries = o.block.toElement :: o.elements.map Entry.toElement := rfl

theorem filledLines_of_readLines (whole : Span) (lines : List (List (Located Token)))
    (o : Outline) (h : readLines whole lines = .ok o) :
    filledLines lines = o.toBlock.entries.map Element.tokens := by
  induction lines with
  | nil => simp [readLines] at h
  | cons line lines ih =>
    cases line with
    | nil => exact ih h
    | cons t ts =>
      unfold readLines at h
      obtain ⟨entry, hentry, h⟩ := exists_of_bind_eq_ok _ _ _ h
      obtain ⟨others, hrest, h⟩ := exists_of_bind_eq_ok _ _ _ h
      obtain rfl : Outline.mk entry others = o := by simpa [pure, Except.pure] using h
      rw [filledLines_cons, values_of_readEntry _ t ts entry hentry,
        filledLines_of_readElements lines others hrest, Outline.entries_toBlock]
      rfl

theorem exists_readLines (whole : Span) (lines : List (List (Located Token))) (b : Block)
    (h : filledLines lines = b.entries.map Element.tokens) :
    ∃ o, readLines whole lines = .ok o ∧ o.toBlock = b := by
  induction lines with
  | nil => simp [filledLines, Block.entries] at h
  | cons line lines ih =>
    cases line with
    | nil => exact ih h
    | cons t ts =>
      rw [filledLines_cons] at h
      obtain ⟨he, hes⟩ := List.cons.inj h
      obtain ⟨entry, hentry, htoElement⟩ :=
        exists_readEntry (fun t => .missingBlockName t.span) t ts _ he
      obtain ⟨others, hothers, hmap⟩ := exists_readElements lines b.elements hes
      refine ⟨⟨entry, others⟩, ?_, ?_⟩
      · simp [readLines, hentry, hothers, bind, Except.bind, pure, Except.pure]
      · apply Block.eq_of_entries_eq
        rw [Outline.entries_toBlock, htoElement, hmap]
        rfl

/-- Tokens are read as a block exactly when their lines spell its entries. -/
theorem readOutline_toBlock_iff (ts : List (Located Token)) (b : Block) :
    (∃ o, readOutline ts = .ok o ∧ o.toBlock = b) ↔
      filledLines (tokenLines ts) = b.entries.map Element.tokens := by
  constructor
  · rintro ⟨o, hread, rfl⟩
    exact filledLines_of_readLines _ _ o hread
  · exact exists_readLines _ _ b

end Source

end BemNotation
