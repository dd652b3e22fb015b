import BemNotation.Proofs.WordBreaks

/-!
Which word a letter or digit belongs to. The words of an identifier are numbered in
order, and each of its letters and digits stands in one of them. Two that follow each
other share a word or not, whatever the rest of the identifier is: that depends on the
two, on what stands between them, and on the one character after them.
-/

namespace BemNotation.Naming

open Unicode

/-- The number of the word that holds the i-th of all letters and digits. -/
def wordNumber : List (List Char) → Nat → Nat
  | [], _ => 0
  | w :: ws, i => if i < w.length then 0 else wordNumber ws (i - w.length) + 1

/-- Two letters or digits of an identifier with no other between them. -/
structure Neighbours where
  before : List Char
  first : Char
  between : List Char
  second : Char
  after : List Char
  isWordChar_first : isWordChar first = true
  isWordChar_second : isWordChar second = true
  isWordChar_between : ∀ c ∈ between, isWordChar c = false

namespace Neighbours

def text (n : Neighbours) : List Char :=
  n.before ++ n.first :: (n.between ++ n.second :: n.after)

/-- How many letters and digits stand before the two. -/
def index (n : Neighbours) : Nat :=
  n.before.countP isWordChar

/-- Whether a word ends between the two: something stands between them, or a capital
follows a small letter or a number, or a capital follows a capital and a small letter
stands right behind it. -/
def IsCut (n : Neighbours) : Prop :=
  n.between ≠ [] ∨ isCapital n.second = true ∧
    (isLowercase n.first = true ∨ isNumeric n.first = true ∨
      isCapital n.first = true ∧ ∃ c, n.after.head? = some c ∧ isLowercase c = true)

end Neighbours

theorem wordNumber_zero (ws : List (List Char)) (h : ∀ w ∈ ws, w ≠ []) : wordNumber ws 0 = 0 := by
  cases ws with
  | nil => rfl
  | cons w ws =>
    have hw : 0 < w.length := List.length_pos_iff.mpr (h w (by simp))
    rw [wordNumber, if_pos hw]

theorem wordNumber_extendFirst (c : Char) (ws : List (List Char)) (i : Nat) (h : ws ≠ []) :
    wordNumber (extendFirst c ws) (i + 1) = wordNumber ws i := by
  obtain ⟨w, ws, rfl⟩ := List.exists_cons_of_ne_nil h
  simp only [extendFirst, wordNumber, List.length_cons, Nat.add_lt_add_iff_right,
    Nat.add_sub_add_right]

theorem words_ne_nil_of_continues (c : Char) (cs : List Char) (h : continues c cs = true) :
    words cs ≠ [] := by
  cases cs with
  | nil => simp [continues] at h
  | cons d cs =>
    simp only [continues, Bool.and_eq_true] at h
    obtain ⟨w, ws, hwords⟩ := exists_words_cons d cs h.1
    simp [hwords]

/-- A letter or digit in front of a text begins its first word or is one more word. -/
theorem wordNumber_words_cons (c : Char) (cs : List Char) (i : Nat) (hc : isWordChar c = true) :
    wordNumber (words (c :: cs)) (i + 1) =
      wordNumber (words cs) i + if continues c cs then 0 else 1 := by
  cases h : continues c cs with
  | false =>
    rw [words_cons_of_break c cs hc h]
    simp [wordNumber]
  | true =>
    rw [words_cons_of_continues c cs hc h,
      wordNumber_extendFirst c _ i (words_ne_nil_of_continues c cs h)]
    simp

theorem wordNumber_words_zero (cs : List Char) : wordNumber (words cs) 0 = 0 :=
  wordNumber_zero _ fun _ => ne_nil_of_mem_words

/-- The first word goes on from the one to the other unless it is cut there. -/
theorem Neighbours.continues_eq_false_iff (n : Neighbours) :
    continues n.first (n.between ++ n.second :: n.after) = false ↔ n.IsCut := by
  cases hbetween : n.between with
  | cons c cs =>
    have hc := n.isWordChar_between c (by simp [hbetween])
    simp [IsCut, hbetween, continues, hc]
  | nil =>
    have hcontinues : continues n.first (n.second :: n.after) =
        !beginsWord n.first n.second n.after.head? := by
      simp [continues, n.isWordChar_second]
    rw [List.nil_append, hcontinues, Bool.not_eq_false']
    simp only [IsCut, hbetween, beginsWord, Bool.and_eq_true, Bool.or_eq_true, Option.any_eq_true,
      or_assoc, ne_eq, not_true_eq_false, false_or]

/-- Whether two of its letters and digits share a word is the same for a text alone and
for the text with another before it. -/
theorem wordNumber_words_append (before cs : List Char) (i j : Nat) :
    wordNumber (words (before ++ cs)) (before.countP isWordChar + i) =
        wordNumber (words (before ++ cs)) (before.countP isWordChar + j) ↔
      wordNumber (words cs) i = wordNumber (words cs) j := by
  induction before with
  | nil => simp
  | cons c before ih =>
    cases hc : isWordChar c with
    | false =>
      rw [List.cons_append, words_cons_of_separator c _ hc, List.countP_cons_of_neg (by simp [hc])]
      exact ih
    | true =>
      -- Both numbers grow by one or both stay, as the character is added to the text.
      rw [List.cons_append, List.countP_cons_of_pos hc, Nat.add_right_comm _ 1 i,
        Nat.add_right_comm _ 1 j, wordNumber_words_cons c _ _ hc, wordNumber_words_cons c _ _ hc,
        Nat.add_right_cancel_iff]
      exact ih

/-- Neighbours are in different words exactly where the text is cut between them. -/
theorem Neighbours.wordNumber_ne_iff (n : Neighbours) :
    wordNumber (words n.text) n.index ≠ wordNumber (words n.text) (n.index + 1) ↔ n.IsCut := by
  have hshift := wordNumber_words_append n.before (n.first :: (n.between ++ n.second :: n.after)) 0 1
  rw [Nat.add_zero, wordNumber_words_zero, wordNumber_words_cons _ _ 0 n.isWordChar_first,
    wordNumber_words_zero] at hshift
  rw [text, index, Ne, hshift, ← n.continues_eq_false_iff]
  cases continues n.first (n.between ++ n.second :: n.after) <;> simp

theorem words_separator_append (separator cs : List Char)
    (h : ∀ c ∈ separator, isWordChar c = false) : words (separator ++ cs) = words cs := by
  induction separator with
  | nil => rfl
  | cons c separator ih =>
    rw [List.cons_append, words_cons_of_separator c _ (h c (by simp))]
    exact ih fun d hd => h d (by simp [hd])

/-- The words of a text and a further one with a separator between them. -/
theorem words_append_separator (cs separator ds : List Char) (hne : separator ≠ [])
    (h : ∀ c ∈ separator, isWordChar c = false) :
    words (cs ++ separator ++ ds) = words cs ++ words ds := by
  obtain ⟨c, rest, rfl⟩ := List.exists_cons_of_ne_nil hne
  have hstop (x : Char) : continues x (c :: rest ++ ds) = false := by
    simp [continues, h c (by simp)]
  rw [List.append_assoc, words_append cs _ fun x _ => hstop x, words_separator_append _ ds h]

/-- The words of an identifier hold its letters and digits, none of them is empty, and
neighbours are in different words exactly where there is a cut between them. So a text is
cut wherever it is separated. -/
theorem words_cut_exactly (cs : List Char) :
    (∀ w ∈ words cs, w ≠ []) ∧ (words cs).flatten = cs.filter isWordChar ∧
      (∀ n : Neighbours, n.text = cs →
        (wordNumber (words cs) n.index ≠ wordNumber (words cs) (n.index + 1) ↔ n.IsCut)) ∧
      ∀ separator ds, separator ≠ [] → (∀ c ∈ separator, isWordChar c = false) →
        words (cs ++ separator ++ ds) = words cs ++ words ds := by
  refine ⟨fun _ => ne_nil_of_mem_words, flatten_words cs, ?_, words_append_separator cs⟩
  rintro n rfl
  exact n.wordNumber_ne_iff

/-- The last capital of several begins a word where a small letter follows it. -/
theorem words_cut_exactly_xmlHttp :
    let n : Neighbours :=
      ⟨"XM".toList, 'L', [], 'H', "ttp2Ü".toList, rfl, rfl, List.forall_mem_nil _⟩
    n.IsCut ∧ wordNumber (words n.text) n.index ≠ wordNumber (words n.text) (n.index + 1) ∧
      words (n.text ++ "_-".toList ++ "ǅx".toList) = words n.text ++ words "ǅx".toList := by
  intro n
  have hcut : n.IsCut := Or.inr ⟨by decide, Or.inr (Or.inr ⟨by decide, 't', rfl, by decide⟩)⟩
  have hseparator : ("_-".toList.all fun c => !isWordChar c) = true := by decide
  obtain ⟨_, _, hwords, happend⟩ := words_cut_exactly n.text
  exact ⟨hcut, (hwords n rfl).mpr hcut,
    happend _ _ (by decide) fun c hc => by simpa using List.all_eq_true.mp hseparator c hc⟩

end BemNotation.Naming
