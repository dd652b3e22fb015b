import BemNotation.Proofs.Characters

/-!
What param case keeps of an identifier. Words hold all its letters and digits and
nothing else, and lowering never empties a word, so the result is empty only where
there was no letter or digit. Its characters are letters, digits and hyphens.
-/

namespace BemNotation.Naming

open Unicode

theorem flatten_extendFirst {α : Type} (x : α) (rows : List (List α)) :
    (extendFirst x rows).flatten = x :: rows.flatten := by
  cases rows <;> rfl

/-- Words hold all letters and digits of the identifier, in order and without repeats. -/
theorem flatten_words (cs : List Char) : (words cs).flatten = cs.filter isWordChar := by
  induction cs with
  | nil => rfl
  | cons c cs ih =>
    unfold words
    split
    case isFalse hc => rw [ih, List.filter_cons_of_neg hc]
    case isTrue hc =>
      split
      · rw [flatten_extendFirst, ih, List.filter_cons_of_pos hc]
      · rw [List.flatten_cons, ih, List.filter_cons_of_pos hc]
        rfl

theorem mem_of_mem_words (cs w : List Char) (hw : w ∈ words cs) :
    ∀ c ∈ w, c ∈ cs ∧ isWordChar c = true := by
  intro c hc
  have hmem := List.mem_flatten.mpr ⟨w, hw, hc⟩
  rw [flatten_words] at hmem
  exact List.mem_filter.mp hmem

/-- Words are made of letters and digits of the identifier. -/
theorem isWordChar_of_mem_words (cs w : List Char) (hw : w ∈ words cs) :
    ∀ c ∈ w, isWordChar c = true :=
  fun c hc => (mem_of_mem_words cs w hw c hc).2

theorem words_eq_nil_iff (cs : List Char) :
    words cs = [] ↔ ∀ c ∈ cs, isWordChar c = false := by
  induction cs with
  | nil => simp [words]
  | cons c cs ih =>
    unfold words
    split
    case isTrue hc =>
      split
      · constructor
        · intro h
          unfold extendFirst at h
          split at h <;> simp at h
        · intro h
          simp [hc] at h
      · simp [hc]
    case isFalse hc => simp [ih, hc]

/-- Lowering a text leaves a letter or digit where there was one. -/
theorem exists_isWordChar_mem_lowerFrom (before cs : List Char) (c : Char) (hc : c ∈ cs)
    (h : isWordChar c = true) : ∃ d ∈ lowerFrom before cs, isWordChar d = true := by
  induction cs generalizing before with
  | nil => simp at hc
  | cons x cs ih =>
    rcases List.mem_cons.mp hc with rfl | hc
    · by_cases hsigma : c = 'Σ'
      · refine ⟨lowerSigma before cs, by simp [lowerFrom, hsigma], ?_⟩
        unfold lowerSigma
        split <;> decide +kernel
      · obtain ⟨d, hd, hword⟩ := exists_isWordChar_mem_lower c h
        exact ⟨d, by simp [lowerFrom, hsigma, hd], hword⟩
    · obtain ⟨d, hd, hword⟩ := ih (x :: before) hc
      exact ⟨d, by simp [lowerFrom, hd], hword⟩

theorem smallWord_ne_nil (cs w : List Char) (hw : w ∈ words cs) : smallWord w ≠ [] := by
  obtain ⟨c, rest, rfl⟩ := List.exists_cons_of_ne_nil (ne_nil_of_mem_words hw)
  have hc := isWordChar_of_mem_words cs (c :: rest) hw c (by simp)
  obtain ⟨d, hd, hword⟩ := exists_isWordChar_mem_lowerFrom [] (c :: rest) c (by simp) hc
  exact List.ne_nil_of_mem (List.mem_filter.mpr ⟨hd, hword⟩)

/-- No word is lost on the way to small words. -/
theorem paramChars_eq_intercalate (cs : List Char) :
    paramChars cs = List.intercalate ['-'] ((words cs).map smallWord) := by
  unfold paramChars
  congr 1
  apply List.filter_eq_self.mpr
  intro v hv
  obtain ⟨w, hw, rfl⟩ := List.mem_map.mp hv
  simp [smallWord_ne_nil cs w hw]

theorem mem_intercalate (c : Char) (separator : List Char) (items : List (List Char))
    (h : c ∈ List.intercalate separator items) : c ∈ separator ∨ ∃ item ∈ items, c ∈ item := by
  induction items with
  | nil => simp [List.intercalate_nil] at h
  | cons item items ih =>
    by_cases hitems : items = []
    · subst hitems
      rw [List.intercalate_singleton] at h
      exact Or.inr ⟨item, by simp, h⟩
    · rw [List.intercalate_cons_of_ne_nil hitems] at h
      rcases List.mem_append.mp h with h | h
      · rcases List.mem_append.mp h with h | h
        · exact Or.inr ⟨item, by simp, h⟩
        · exact Or.inl h
      · rcases ih h with h | ⟨other, hother, hc⟩
        · exact Or.inl h
        · exact Or.inr ⟨other, by simp [hother], hc⟩

theorem mem_paramChars (cs : List Char) (c : Char) (h : c ∈ paramChars cs) :
    c = '-' ∨ isWordChar c = true := by
  rw [paramChars_eq_intercalate] at h
  rcases mem_intercalate c _ _ h with h | ⟨small, hsmall, hc⟩
  · exact Or.inl (by simpa using h)
  · obtain ⟨w, hw, rfl⟩ := List.mem_map.mp hsmall
    exact Or.inr (List.mem_filter.mp hc).2

theorem exists_mem_paramChars (cs : List Char) (h : words cs ≠ []) :
    ∃ c ∈ paramChars cs, isWordChar c = true := by
  obtain ⟨w, rest, hwords⟩ := List.exists_cons_of_ne_nil h
  have hne := smallWord_ne_nil cs w (by simp [hwords])
  obtain ⟨c, others, hsmall⟩ := List.exists_cons_of_ne_nil hne
  have hc : isWordChar c = true := by
    have hmem : c ∈ smallWord w := by simp [hsmall]
    exact (List.mem_filter.mp hmem).2
  refine ⟨c, ?_, hc⟩
  rw [paramChars_eq_intercalate, hwords, List.map_cons, hsmall]
  cases rest with
  | nil => simp
  | cons v rest => simp [List.intercalate_cons_cons]

/-- Param case is empty exactly for identifiers without letters and digits. -/
theorem paramChars_eq_nil_iff (cs : List Char) :
    paramChars cs = [] ↔ ∀ c ∈ cs, isWordChar c = false := by
  rw [← words_eq_nil_iff]
  constructor
  · intro h
    by_cases hwords : words cs = []
    · exact hwords
    · obtain ⟨c, hc, _⟩ := exists_mem_paramChars cs hwords
      simp [h] at hc
  · intro h
    rw [paramChars_eq_intercalate, h]
    rfl

theorem paramChars_paramChars_ne_nil (cs : List Char) (h : paramChars cs ≠ []) :
    paramChars (paramChars cs) ≠ [] := by
  rw [Ne, paramChars_eq_nil_iff, ← words_eq_nil_iff] at h
  obtain ⟨c, hc, hword⟩ := exists_mem_paramChars cs h
  rw [Ne, paramChars_eq_nil_iff]
  intro hall
  simp [hall c hc] at hword

end BemNotation.Naming
