import BemNotation.Proofs.SmallForms

/-!
Words in pascal case, joined and told apart again. Past its first character no word has
a capital, so a capital or a low line in the joined text begins a word. A word that is
joined directly and begins with neither runs into the word before it; wherever that does
not happen, the words of the joined text are those that were joined.
-/

namespace BemNotation.Naming

open Unicode

theorem toList_pascalCase (s : String) : (pascalCase s).toList = pascalChars s.toList :=
  String.toList_ofList

theorem flatMap_lower_of_small (w : List Char) (hw : ∀ c ∈ w, isSmall c = true) :
    w.flatMap lower = w := by
  induction w with
  | nil => rfl
  | cons c w ih =>
    rw [List.flatMap_cons, ((isSmall_iff c).mp (hw c (by simp))).2,
      ih fun d hd => hw d (by simp [hd])]
    rfl

theorem capitalWord_of_small (c : Char) (w : List Char) (hw : ∀ d ∈ w, isSmall d = true) :
    capitalWord (c :: w) = raise c :: w := by
  rw [capitalWord, flatMap_lower_of_small w hw,
    List.filter_eq_self.mpr fun d hd => ((isSmall_iff d).mp (hw d hd)).1]

/-- Past its first character, a word in pascal case has small characters only. -/
theorem isSmall_of_mem_tail (w : List Char) (d : Char)
    (h : d ∈ (w.flatMap lower).filter isWordChar) : isSmall d = true := by
  obtain ⟨hmem, hword⟩ := List.mem_filter.mp h
  obtain ⟨c, -, hd⟩ := List.mem_flatMap.mp hmem
  exact isSmall_of_mem_lower c d hd hword

theorem isCapitalWord_capitalWord (w : List Char) (hne : w ≠ [])
    (h : ∀ c ∈ w, isWordChar c = true) : IsCapitalWord (capitalWord w) := by
  obtain ⟨c, w, rfl⟩ := List.exists_cons_of_ne_nil hne
  exact .mk (isWordChar_raise c (h c (by simp)))
    fun d hd => goesOn_of_isSmall d (isSmall_of_mem_tail w d hd)

theorem capitalWord_append (u v : List Char) (hu : u ≠ []) :
    capitalWord (u ++ v) = capitalWord u ++ (v.flatMap lower).filter isWordChar := by
  obtain ⟨c, u, rfl⟩ := List.exists_cons_of_ne_nil hu
  rw [List.cons_append, capitalWord, List.flatMap_append, List.filter_append]
  rfl

/-- Whether every word that is joined directly, in words after a text that ends in
`last`, begins with a capital. -/
def ReadsBack : Option Char → List (List Char) → Prop
  | _, [] => True
  | last, w :: ws =>
    (∀ x c, last = some x → w.head? = some c → standsApart x c = true → isCapital c = true) ∧
      ReadsBack (w.getLast?.or last) ws

theorem joinWords_cons (last : Option Char) (c : Char) (w : List Char) (ws : List (List Char)) :
    joinWords last ((c :: w) :: ws) =
      seam last (some c) ++ c :: (w ++ joinWords (some ((c :: w).getLast (by simp))) ws) := by
  rw [joinWords, List.head?_cons, List.getLast?_eq_some_getLast (by simp)]
  simp

theorem seam_eq (last : Option Char) (c : Char) :
    seam last (some c) = [] ∨ seam last (some c) = ['_'] := by
  cases last with
  | none => exact Or.inl rfl
  | some x =>
    rw [seam]
    split
    · exact Or.inl rfl
    · exact Or.inr rfl

theorem isWordChar_lowLine : isWordChar '_' = false := by decide

theorem words_seam_append (last : Option Char) (c : Char) (cs : List Char) :
    words (seam last (some c) ++ cs) = words cs := by
  rcases seam_eq last c with hseam | hseam <;> rw [hseam]
  · rfl
  · exact words_cons_of_separator '_' cs isWordChar_lowLine

/-- What is joined to words depends on the character that their text ends in. -/
theorem joinWords_append (last : Option Char) (us vs : List (List Char)) :
    joinWords last (us ++ vs) =
      joinWords last us ++ joinWords ((joinWords last us).getLast?.or last) vs := by
  induction us generalizing last with
  | nil => rfl
  | cons u us ih =>
    rw [List.cons_append, joinWords, joinWords, ih]
    cases u with
    | nil => simp [seam]
    | cons c u =>
      have hlast : (c :: u).getLast? = some ((c :: u).getLast (by simp)) :=
        List.getLast?_eq_some_getLast (by simp)
      simp only [List.append_assoc, List.getLast?_append, hlast, Option.some_or, Option.or_some]

/-- Where a word that stands apart begins with a capital, the word before it has ended. -/
theorem continues_of_standsApart (x d : Char) (cs : List Char) (h : standsApart x d = true)
    (hd : isCapital d = true) : continues x (d :: cs) = false := by
  simp only [standsApart, Bool.and_eq_true] at h
  simp [continues, beginsWord, hd, h.1]

/-- No word goes on into words that read back after it. -/
theorem not_continues_joinWords (x : Char) (ws : List (List Char))
    (hws : ∀ w ∈ ws, IsCapitalWord w) (h : ReadsBack (some x) ws) :
    continues x (joinWords (some x) ws) = false := by
  cases ws with
  | nil => rfl
  | cons w ws =>
    obtain ⟨c, w, rfl⟩ := List.exists_cons_of_ne_nil (hws w (by simp)).ne_nil
    rw [joinWords_cons, seam]
    split
    case isTrue hapart => exact continues_of_standsApart x c _ hapart (h.1 x c rfl rfl hapart)
    case isFalse => simp [continues, isWordChar_lowLine]

/-- Words that read back are the words of the text that they are joined to. -/
theorem words_joinWords (last : Option Char) (us : List (List Char))
    (hus : ∀ u ∈ us, IsCapitalWord u) (h : ReadsBack last us) : words (joinWords last us) = us := by
  induction us generalizing last with
  | nil => rfl
  | cons u us ih =>
    have hu := hus u (by simp)
    obtain ⟨c, w, rfl⟩ := List.exists_cons_of_ne_nil hu.ne_nil
    have hnext := h.2
    rw [List.getLast?_eq_some_getLast (by simp), Option.some_or] at hnext
    have hrest := ih _ (fun v hv => hus v (by simp [hv])) hnext
    have hstop := not_continues_joinWords _ us (fun v hv => hus v (by simp [hv])) hnext
    rw [joinWords_cons, words_seam_append, ← List.cons_append, hu.words_append_of_stop, hrest]
    intro x hx
    rw [List.getLast?_eq_some_getLast (by simp), Option.some.injEq] at hx
    rwa [← hx]

/-- Words that read back are determined by the text that they are joined to. -/
theorem joinWords_inj (last : Option Char) (us vs : List (List Char))
    (hus : ∀ u ∈ us, IsCapitalWord u) (hvs : ∀ v ∈ vs, IsCapitalWord v)
    (hback : ReadsBack last us) (hback' : ReadsBack last vs)
    (h : joinWords last us = joinWords last vs) : us = vs := by
  rw [← words_joinWords last us hus hback, h, words_joinWords last vs hvs hback']

end BemNotation.Naming
