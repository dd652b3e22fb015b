import BemNotation.Proofs.AliasMarks

/-!
Type aliases as a grammar of marks. A type is a record of named fields, a choice of
texts, or one of two words. No marks can be read in two ways, even if more marks
follow: the first mark tells which kind of type it is, and each kind has an end that
nothing in it looks like.
-/

namespace BemNotation.Alias

/-- A type as it is read. Nothing is known of its texts and its fields. -/
inductive TypeTree where
  | oneOf (texts : List (List Char))
  | undefined
  | never
  | record (fields : List (List Char × TypeTree))

/-- Texts with a stroke between one and the next, at least one. -/
inductive ChoiceMarks : List (List Char) → List Mark → Prop
  | last {text : List Char} : ChoiceMarks [text] [.text text]
  | more {text : List Char} {texts : List (List Char)} {ms : List Mark}
      (hrest : ChoiceMarks texts ms) :
      ChoiceMarks (text :: texts) (.text text :: .sign '|' :: ms)

/-- A key is a name or a text. -/
inductive KeyMark : List Char → Mark → Prop
  | name {key : List Char} : KeyMark key (.name key)
  | text {key : List Char} : KeyMark key (.text key)

mutual

inductive TypeMarks : TypeTree → List Mark → Prop
  | oneOf {texts : List (List Char)} {ms : List Mark} (h : ChoiceMarks texts ms) :
      TypeMarks (.oneOf texts) ms
  | undefined : TypeMarks .undefined [.name undefinedWord]
  | never : TypeMarks .never [.name neverWord]
  | record {fields : List (List Char × TypeTree)} {ms : List Mark} (h : FieldMarks fields ms) :
      TypeMarks (.record fields) (.sign '\x7b' :: ms ++ [.sign '\x7d'])

/-- Every field ends with a semicolon. -/
inductive FieldMarks : List (List Char × TypeTree) → List Mark → Prop
  | nil : FieldMarks [] []
  | cons {key : List Char} {keyMark : Mark} {type : TypeTree}
      {fields : List (List Char × TypeTree)} {ms rest : List Mark} (hkey : KeyMark key keyMark)
      (htype : TypeMarks type ms) (hrest : FieldMarks fields rest) :
      FieldMarks ((key, type) :: fields) (keyMark :: .sign ':' :: ms ++ .sign ';' :: rest)

end

/-- An alias of a record type as it is read. -/
structure TypeAlias where
  exported : Bool
  identifier : List Char
  type : TypeTree

/-- The marks of an alias, with or without a semicolon at the end. -/
inductive AliasMarks : TypeAlias → List Mark → Prop
  | mk {exported : Bool} {identifier : List Char} {type : TypeTree} {before ms after : List Mark}
      (hbefore : before = if exported then [.name "export".toList] else [])
      (htype : TypeMarks type ms) (hafter : after = [] ∨ after = [.sign ';']) :
      AliasMarks ⟨exported, identifier, type⟩
        (before ++ .name "type".toList :: .name identifier :: .sign '=' :: ms ++ after)

/-- A text that is read as the alias. -/
def Reads (text : List Char) (a : TypeAlias) : Prop :=
  ∃ ms, scan text = some ms ∧ AliasMarks a ms

/-- Whether marks cannot make a choice of texts before them longer. -/
def EndsChoice (ms : List Mark) : Prop := ∀ rest, ms ≠ .sign '|' :: rest

theorem ChoiceMarks.unique (texts others : List (List Char)) (ms ns rest tail : List Mark)
    (h : ChoiceMarks texts ms) (h' : ChoiceMarks others ns) (hrest : EndsChoice rest)
    (htail : EndsChoice tail) (heq : ms ++ rest = ns ++ tail) : texts = others ∧ rest = tail := by
  induction h generalizing others ns with
  | @last text =>
    cases h' with
    | last => simpa using heq
    | more hother =>
      simp only [List.cons_append, List.cons.injEq] at heq
      exact absurd heq.2 (hrest _)
  | @more text texts ms htexts ih =>
    cases h' with
    | last =>
      simp only [List.cons_append, List.cons.injEq] at heq
      exact absurd heq.2.symm (htail _)
    | more hother =>
      simp only [List.cons_append, List.cons.injEq, Mark.text.injEq, true_and] at heq
      obtain ⟨htexts, hrests⟩ := ih _ _ hother heq.2
      exact ⟨by rw [heq.1, htexts], hrests⟩

theorem ChoiceMarks.exists_cons (texts : List (List Char)) (ms : List Mark)
    (h : ChoiceMarks texts ms) : ∃ text rest, ms = .text text :: rest := by
  cases h with
  | last => exact ⟨_, _, rfl⟩
  | more hrest => exact ⟨_, _, rfl⟩

theorem KeyMark.unique (key other : List Char) (m : Mark) (h : KeyMark key m)
    (h' : KeyMark other m) : key = other := by
  cases h <;> cases h' <;> rfl

theorem kind_keyMark (key : List Char) : KeyMark key (keyMark key) := by
  unfold keyMark
  split
  · exact KeyMark.name
  · exact KeyMark.text

theorem KeyMark.ne_sign (key : List Char) (m : Mark) (c : Char) (h : KeyMark key m) :
    m ≠ .sign c := by
  cases h <;> simp

theorem endsChoice_sign_cons (c : Char) (ms : List Mark) (h : c ≠ '|') :
    EndsChoice (.sign c :: ms) := by
  intro rest heq
  simp only [List.cons.injEq, Mark.sign.injEq] at heq
  exact h heq.1

mutual

theorem TypeMarks.unique (type other : TypeTree) (ms ns rest tail : List Mark)
    (h : TypeMarks type ms) (h' : TypeMarks other ns) (hrest : EndsChoice rest)
    (htail : EndsChoice tail) (heq : ms ++ rest = ns ++ tail) : type = other ∧ rest = tail := by
  match h, h' with
  | .oneOf h, .oneOf h' =>
    obtain ⟨rfl, rfl⟩ := h.unique _ _ ms ns rest tail h' hrest htail heq
    exact ⟨rfl, rfl⟩
  | .undefined, .undefined => exact ⟨rfl, by simpa using heq⟩
  | .never, .never => exact ⟨rfl, by simpa using heq⟩
  | .record h, .record h' =>
    simp only [List.cons_append, List.append_assoc, List.cons.injEq,
      true_and] at heq
    obtain ⟨rfl, rfl⟩ := FieldMarks.unique _ _ _ _ rest tail h h' heq
    exact ⟨rfl, rfl⟩
  | .oneOf h, .undefined | .oneOf h, .never | .oneOf h, .record _ =>
    obtain ⟨text, more, rfl⟩ := h.exists_cons
    simp at heq
  | .undefined, .oneOf h' | .never, .oneOf h' | .record _, .oneOf h' =>
    obtain ⟨text, more, rfl⟩ := h'.exists_cons
    simp at heq
  | .undefined, .never | .never, .undefined => simp [undefinedWord, neverWord] at heq
  | .undefined, .record _ | .record _, .undefined => simp at heq
  | .never, .record _ | .record _, .never => simp at heq

theorem FieldMarks.unique (fields others : List (List Char × TypeTree))
    (ms ns rest tail : List Mark) (h : FieldMarks fields ms) (h' : FieldMarks others ns)
    (heq : ms ++ .sign '\x7d' :: rest = ns ++ .sign '\x7d' :: tail) :
    fields = others ∧ rest = tail := by
  match h, h' with
  | .nil, .nil => exact ⟨rfl, by simpa using heq⟩
  | .nil, .cons hkey htype hrest =>
    simp only [List.nil_append, List.cons_append, List.cons.injEq] at heq
    exact absurd heq.1.symm (hkey.ne_sign _ _ _)
  | .cons hkey htype hrest, .nil =>
    simp only [List.nil_append, List.cons_append, List.cons.injEq] at heq
    exact absurd heq.1 (hkey.ne_sign _ _ _)
  | .cons hkey htype hrest, .cons hkey' htype' hrest' =>
    simp only [List.cons_append, List.append_assoc, List.cons.injEq, true_and] at heq
    obtain ⟨rfl, heq⟩ := heq
    obtain rfl := hkey.unique _ _ _ hkey'
    obtain ⟨rfl, heq⟩ := TypeMarks.unique _ _ _ _ _ _ htype htype'
      (endsChoice_sign_cons ';' _ (by decide)) (endsChoice_sign_cons ';' _ (by decide)) heq
    simp only [List.cons.injEq, true_and] at heq
    obtain ⟨rfl, rfl⟩ := FieldMarks.unique _ _ _ _ rest tail hrest hrest' heq
    exact ⟨rfl, rfl⟩

end

/-- Marks are an alias in one way at most. -/
theorem AliasMarks.unique (a b : TypeAlias) (ms : List Mark) (h : AliasMarks a ms)
    (h' : AliasMarks b ms) : a = b := by
  have hends (after : List Mark) (hafter : after = [] ∨ after = [.sign ';']) :
      EndsChoice after := by
    rcases hafter with rfl | rfl
    · simp [EndsChoice]
    · exact endsChoice_sign_cons ';' [] (by decide)
  obtain @⟨exported, identifier, type, before, ms, after, hbefore, htype, hafter⟩ := h
  generalize hmarks : before ++ .name "type".toList :: .name identifier :: .sign '=' :: ms ++ after =
    marks at h'
  obtain @⟨exported', identifier', type', before', ns, after', hbefore', htype', hafter'⟩ := h'
  have hflag : exported = exported' := by
    cases exported <;> cases exported' <;> simp_all
  subst hflag
  obtain rfl : before = before' := hbefore.trans hbefore'.symm
  simp only [List.append_assoc, List.append_cancel_left_eq, List.cons_append, List.cons.injEq,
    Mark.name.injEq, true_and] at hmarks
  obtain ⟨rfl, hrest⟩ := hmarks
  obtain ⟨rfl, _⟩ := htype.unique _ _ ms ns after after' htype' (hends after hafter)
    (hends after' hafter') hrest
  rfl

end BemNotation.Alias
