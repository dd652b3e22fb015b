import BemNotation.Proofs.ParamCase

/-!
Breaks between words. Whether a word begins at a character depends on the characters next
to it alone, so a text can be cut wherever no word goes on across the cut, and its words
are those of the two parts. Letters and digits without a capital, the first of them apart,
are one word.
-/

namespace BemNotation.Unicode

/-- No small letter is a capital. -/
theorem isUppercase_of_isLowercase (c : Char) (h : isLowercase c = true) :
    isUppercase c = false := by
  have hapart : lowercase.runs.all (fun r => uppercase.runs.all fun s => r.isApart s) = true := by
    decide +kernel
  obtain ⟨r, hr, hn⟩ := (lowercase.covers_iff c.toNat).mp h
  rw [← Bool.not_eq_true]
  intro hupper
  obtain ⟨s, hs, hn'⟩ := (uppercase.covers_iff c.toNat).mp hupper
  have hruns := List.all_eq_true.mp (List.all_eq_true.mp hapart r hr) s hs
  simp [r.not_holds_of_isApart s _ hruns hn] at hn'

/-- Every small letter is a letter. -/
theorem isAlphabetic_of_isLowercase (c : Char) (h : isLowercase c = true) :
    isAlphabetic c = true := by
  have hletters : LiesWithin (fun r => r.points.all alphabetic.covers) lowercase.runs
      alphabetic.runs = true := by
    decide +kernel
  rcases lowercase.covers_or_exempt alphabetic _ hletters _ h with hletter | ⟨r, hpoints, hn⟩
  · exact hletter
  · exact List.all_eq_true.mp hpoints _ (r.mem_points_of_holds _ hn)

end BemNotation.Unicode

namespace BemNotation.Naming

open Unicode

theorem words_cons_of_separator (c : Char) (cs : List Char) (hc : isWordChar c = false) :
    words (c :: cs) = words cs := by
  rw [words, if_neg (by simp [hc])]

theorem words_cons_of_break (c : Char) (cs : List Char) (hc : isWordChar c = true)
    (h : continues c cs = false) : words (c :: cs) = [c] :: words cs := by
  rw [words, if_pos hc, if_neg (by simp [h])]

theorem words_cons_of_continues (c : Char) (cs : List Char) (hc : isWordChar c = true)
    (h : continues c cs = true) : words (c :: cs) = extendFirst c (words cs) := by
  rw [words, if_pos hc, if_pos h]

/-- A text that does not go on with the word before it does not begin with a small letter. -/
theorem any_isLowercase_of_not_continues (x : Char) (ds : List Char)
    (h : continues x ds = false) : ds.head?.any isLowercase = false := by
  cases ds with
  | nil => rfl
  | cons d ds =>
    rw [List.head?_cons, Option.any_some, ← Bool.not_eq_true]
    intro hsmall
    have hword : isWordChar d = true := by simp [isWordChar, isAlphabetic_of_isLowercase d hsmall]
    have hcapital : isCapital d = false := by simp [isCapital, isUppercase_of_isLowercase d hsmall]
    simp [continues, hword, beginsWord, hcapital] at h

/-- Whether a word goes on into a text does not depend on what follows a break in it. -/
theorem continues_append (before d : Char) (cs ds : List Char)
    (h : ∀ x, (d :: cs).getLast? = some x → continues x ds = false) :
    continues before (d :: (cs ++ ds)) = continues before (d :: cs) := by
  cases cs with
  | nil =>
    have hhead := any_isLowercase_of_not_continues d ds (h d rfl)
    simp [continues, beginsWord, hhead]
  | cons c cs => rfl

theorem extendFirst_append {α : Type} (x : α) (rows others : List (List α)) (h : rows ≠ []) :
    extendFirst x (rows ++ others) = extendFirst x rows ++ others := by
  obtain ⟨row, rows, rfl⟩ := List.exists_cons_of_ne_nil h
  rfl

/-- A text is cut at a break without cutting a word. -/
theorem words_append (cs ds : List Char)
    (h : ∀ x, cs.getLast? = some x → continues x ds = false) :
    words (cs ++ ds) = words cs ++ words ds := by
  induction cs with
  | nil => rfl
  | cons c cs ih =>
    by_cases hc : isWordChar c = true
    · cases cs with
      | nil =>
        rw [words_cons_of_break c [] hc rfl]
        exact words_cons_of_break c ds hc (h c rfl)
      | cons d cs =>
        have hrest := ih (by simpa using h)
        have hgo := continues_append c d cs ds (by simpa using h)
        cases hcontinues : continues c (d :: cs) with
        | false =>
          rw [words_cons_of_break c (d :: cs) hc hcontinues, List.cons_append,
            words_cons_of_break c (d :: cs ++ ds) hc (hgo.trans hcontinues), hrest]
          rfl
        | true =>
          -- The word goes on into `d`, so `d :: cs` has a first word to be extended.
          have hd : isWordChar d = true := by simp_all [continues]
          have hne : words (d :: cs) ≠ [] := by simp [words_eq_nil_iff, hd]
          rw [words_cons_of_continues c (d :: cs) hc hcontinues, List.cons_append,
            words_cons_of_continues c (d :: cs ++ ds) hc (hgo.trans hcontinues), hrest,
            extendFirst_append c _ _ hne]
    · rw [Bool.not_eq_true] at hc
      have hrest := ih fun x hx => h x (by rw [List.getLast?_cons, hx]; rfl)
      rw [List.cons_append, words_cons_of_separator c _ hc, words_cons_of_separator c _ hc, hrest]

/-- The first word of a text that begins with a letter or digit begins there. -/
theorem exists_words_cons (c : Char) (cs : List Char) (hc : isWordChar c = true) :
    ∃ w ws, words (c :: cs) = (c :: w) :: ws := by
  cases h : continues c cs with
  | false => exact ⟨[], words cs, words_cons_of_break c cs hc h⟩
  | true =>
    rw [words_cons_of_continues c cs hc h]
    unfold extendFirst
    split
    · exact ⟨_, _, rfl⟩
    · exact ⟨_, _, rfl⟩

/-- Letters and digits that a word in pascal case can go on with. -/
def goesOn (c : Char) : Bool :=
  isWordChar c && !isCapital c

/-- A word without capitals, its first character apart. -/
inductive IsCapitalWord : List Char → Prop
  | mk {c : Char} {w : List Char} (hc : isWordChar c = true) (hw : ∀ d ∈ w, goesOn d = true) :
      IsCapitalWord (c :: w)

theorem IsCapitalWord.ne_nil (w : List Char) (h : IsCapitalWord w) : w ≠ [] := by
  cases h
  simp

theorem isWordChar_of_goesOn (c : Char) (h : goesOn c = true) : isWordChar c = true := by
  simp only [goesOn, Bool.and_eq_true] at h
  exact h.1

/-- No word begins at a character that a word can go on with. -/
theorem continues_of_goesOn (before d : Char) (cs : List Char) (h : goesOn d = true) :
    continues before (d :: cs) = true := by
  simp only [goesOn, Bool.and_eq_true, Bool.not_eq_true'] at h
  simp [continues, beginsWord, h.1, h.2]

/-- Such a word is cut nowhere. -/
theorem IsCapitalWord.words_eq (w : List Char) (h : IsCapitalWord w) : words w = [w] := by
  obtain ⟨hc, hw⟩ := h
  rename_i c w
  induction w generalizing c with
  | nil => exact words_cons_of_break c [] hc rfl
  | cons d w ih =>
    have hd := hw d (by simp)
    have hrest := ih (isWordChar_of_goesOn d hd) fun x hx => hw x (by simp [hx])
    rw [words_cons_of_continues c _ hc (continues_of_goesOn c d w hd), hrest]
    rfl

theorem IsCapitalWord.words_append_of_stop (w cs : List Char) (hw : IsCapitalWord w)
    (hstop : ∀ x, w.getLast? = some x → continues x cs = false) :
    words (w ++ cs) = w :: words cs := by
  rw [words_append w cs hstop, hw.words_eq]
  rfl

/-- Where the text after such a word goes on with it, the first word there is part of it. -/
theorem IsCapitalWord.words_append_of_continues (w cs v : List Char) (vs : List (List Char))
    (hw : IsCapitalWord w) (hgo : ∀ x, w.getLast? = some x → continues x cs = true)
    (hcs : words cs = v :: vs) : words (w ++ cs) = (w ++ v) :: vs := by
  obtain ⟨hc, hw⟩ := hw
  rename_i c w
  induction w generalizing c with
  | nil => exact (words_cons_of_continues c cs hc (hgo c rfl)).trans (congrArg _ hcs)
  | cons d w ih =>
    have hd := hw d (by simp)
    have hrest := ih (isWordChar_of_goesOn d hd) (fun x hx => hw x (by simp [hx]))
      (by simpa using hgo)
    rw [List.cons_append, words_cons_of_continues c (d :: w ++ cs) hc
      (continues_of_goesOn c d (w ++ cs) hd), hrest]
    rfl

end BemNotation.Naming
