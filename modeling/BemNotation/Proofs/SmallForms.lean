import BemNotation.Proofs.WordBreaks

/-!
Names in small letters. A letter or digit is small when lowering leaves it alone, and
lowering leaves nothing else behind. A word of small characters is not cut anywhere and
is its own small form, so a name in param case has the words between its hyphens, and
putting it into param case once more changes nothing.
-/

namespace BemNotation.Unicode

/-- Whether nothing that the table shifts to is shifted by it in turn. -/
def isSettled (ss : List Shift) : Bool :=
  ss.all fun s => ss.all fun t => s.image.isApart t.run

theorem shifted_eq_none_of_shifted (ss : List Shift) (hss : isSettled ss = true) (n m : Nat)
    (h : shifted ss n = some m) : shifted ss m = none := by
  obtain ⟨s, hs, hn, rfl⟩ := exists_shift_of_shifted ss n m h
  have himage := s.holds_image n hn
  rw [Option.eq_none_iff_forall_ne_some]
  intro k hk
  obtain ⟨t, ht, hheld, -⟩ := exists_shift_of_shifted ss _ k hk
  have hapart := List.all_eq_true.mp (List.all_eq_true.mp hss s hs) t ht
  simp [s.image.not_holds_of_isApart t.run _ hapart himage] at hheld

/-- The dotted capital, which has a small form of two characters, is no small form itself. -/
theorem ne_dotted_of_shifted (n m : Nat) (h : shifted lowering n = some m) : m ≠ 0x130 := by
  have hall : lowering.all (fun s => !s.image.holds 0x130) = true := by decide +kernel
  obtain ⟨s, hs, hn, rfl⟩ := exists_shift_of_shifted lowering n m h
  intro hdotted
  have himage := s.holds_image n hn
  rw [hdotted] at himage
  simpa [himage] using List.all_eq_true.mp hall s hs

end BemNotation.Unicode

namespace BemNotation.Naming

open Unicode

/-- A letter or digit that is its own small form. -/
def isSmall (c : Char) : Bool :=
  isWordChar c && lower c == [c]

theorem isSmall_iff (c : Char) : isSmall c = true ↔ isWordChar c = true ∧ lower c = [c] := by
  simp [isSmall]

theorem ne_hyphen_of_isSmall (c : Char) (h : isSmall c = true) : c ≠ '-' := by
  rintro rfl
  revert h
  decide

theorem isCapital_of_isSmall (c : Char) (h : isSmall c = true) : isCapital c = false := by
  simp [isCapital, ((isSmall_iff c).mp h).2]

theorem lower_lowerOne (c : Char) (h : c ≠ 'İ') : lower (lowerOne c) = [lowerOne c] := by
  cases hs : shifted lowering c.toNat with
  | none =>
    have hone : lowerOne c = c := by simp [lowerOne, hs]
    rw [hone, lower, if_neg h, hone]
  | some m =>
    have hsettled := shifted_eq_none_of_shifted lowering (by decide +kernel) c.toNat m hs
    have hnat := toNat_ofNat_of_covers_alphabetic m (covers_alphabetic_of_shifted c.toNat m hs)
    have hone : lowerOne c = Char.ofNat m := by simp [lowerOne, hs]
    have hne : Char.ofNat m ≠ 'İ' := by
      intro heq
      rw [heq] at hnat
      exact ne_dotted_of_shifted c.toNat m hs hnat.symm
    rw [hone, lower, if_neg hne]
    simp [lowerOne, hnat, hsettled]

/-- What lowering makes of a character is small, but for the mark it may leave. -/
theorem isSmall_of_mem_lower (c d : Char) (h : d ∈ lower c) (hd : isWordChar d = true) :
    isSmall d = true := by
  refine (isSmall_iff d).mpr ⟨hd, ?_⟩
  by_cases hc : c = 'İ'
  · have hcases : d = 'i' ∨ d = '\u0307' := by simpa [lower, hc] using h
    rcases hcases with rfl | rfl
    · decide
    · exact absurd hd (by decide)
  · obtain rfl : d = lowerOne c := by simpa [lower, hc] using h
    exact lower_lowerOne c hc

theorem isSmall_lowerSigma (before after : List Char) : isSmall (lowerSigma before after) = true := by
  unfold lowerSigma
  split <;> decide

theorem isSmall_of_mem_lowerFrom (before cs : List Char) (d : Char) (h : d ∈ lowerFrom before cs)
    (hd : isWordChar d = true) : isSmall d = true := by
  induction cs generalizing before with
  | nil => simp [lowerFrom] at h
  | cons c cs ih =>
    rw [lowerFrom, List.mem_append] at h
    rcases h with h | h
    · split at h
      · obtain rfl : d = lowerSigma before cs := by simpa using h
        exact isSmall_lowerSigma before cs
      · exact isSmall_of_mem_lower c d h hd
    · exact ih (c :: before) h

/-- Lowering changes nothing in a text of small characters. -/
theorem lowerFrom_of_small (before cs : List Char) (h : ∀ c ∈ cs, isSmall c = true) :
    lowerFrom before cs = cs := by
  induction cs generalizing before with
  | nil => rfl
  | cons c cs ih =>
    have hc := h c (by simp)
    have hsigma : c ≠ 'Σ' := by
      rintro rfl
      revert hc
      decide
    rw [lowerFrom, if_neg hsigma, ((isSmall_iff c).mp hc).2, ih _ fun d hd => h d (by simp [hd])]
    rfl

/-- A word of small characters. -/
def IsSmallWord (w : List Char) : Prop := w ≠ [] ∧ ∀ c ∈ w, isSmall c = true

theorem isSmallWord_smallWord (cs w : List Char) (hw : w ∈ words cs) :
    IsSmallWord (smallWord w) := by
  refine ⟨smallWord_ne_nil cs w hw, fun c hc => ?_⟩
  obtain ⟨hmem, hword⟩ := List.mem_filter.mp hc
  exact isSmall_of_mem_lowerFrom [] w c hmem hword

theorem smallWord_of_small (w : List Char) (h : ∀ c ∈ w, isSmall c = true) : smallWord w = w := by
  unfold smallWord lowerText
  rw [lowerFrom_of_small [] w h, List.filter_eq_self]
  exact fun c hc => ((isSmall_iff c).mp (h c hc)).1

/-- A word can go on with any small character. -/
theorem goesOn_of_isSmall (c : Char) (h : isSmall c = true) : goesOn c = true := by
  simp [goesOn, ((isSmall_iff c).mp h).1, isCapital_of_isSmall c h]

theorem IsSmallWord.isCapitalWord (w : List Char) (h : IsSmallWord w) : IsCapitalWord w := by
  obtain ⟨hne, hsmall⟩ := h
  obtain ⟨c, w, rfl⟩ := List.exists_cons_of_ne_nil hne
  exact .mk ((isSmall_iff c).mp (hsmall c (by simp))).1
    fun d hd => goesOn_of_isSmall d (hsmall d (by simp [hd]))

theorem getLast?_intercalate (init : List (List Char)) (w : List Char) (hw : w ≠ []) :
    (List.intercalate ['-'] (init ++ [w])).getLast? = w.getLast? := by
  induction init with
  | nil => simp
  | cons v init ih =>
    rw [List.cons_append, List.intercalate_cons_of_ne_nil (by simp), List.getLast?_append, ih,
      List.getLast?_eq_some_getLast hw, Option.some_or]

/-- A hyphen after a small word ends it. -/
theorem words_intercalate_append (ws : List (List Char)) (w cs : List Char)
    (h : ∀ v ∈ ws, IsSmallWord v) :
    words (List.intercalate ['-'] (ws ++ [w]) ++ cs) = ws ++ words (w ++ cs) := by
  induction ws with
  | nil => simp
  | cons v ws ih =>
    have hhyphen : isWordChar '-' = false := by decide
    have hstop := (h v (by simp)).isCapitalWord.words_append_of_stop v
      ('-' :: (List.intercalate ['-'] (ws ++ [w]) ++ cs)) fun x _ => by simp [continues, hhyphen]
    rw [words_cons_of_separator '-' _ hhyphen, ih fun x hx => h x (by simp [hx])] at hstop
    rw [List.cons_append, List.intercalate_cons_of_ne_nil (by simp)]
    simpa using hstop

/-- Small words joined by hyphens are the words of the joined text. -/
theorem words_intercalate (ws : List (List Char)) (h : ∀ w ∈ ws, IsSmallWord w) :
    words (List.intercalate ['-'] ws) = ws := by
  rcases List.eq_nil_or_concat ws with rfl | ⟨init, w, rfl⟩
  · rfl
  · rw [List.concat_eq_append] at h ⊢
    have hinit := words_intercalate_append init w [] fun v hv => h v (by simp [hv])
    rw [List.append_nil, List.append_nil, (h w (by simp)).isCapitalWord.words_eq] at hinit
    exact hinit

/-- A name in param case is made of small words. -/
theorem exists_smallWords (cs : List Char) :
    ∃ ws, (∀ w ∈ ws, IsSmallWord w) ∧ paramChars cs = List.intercalate ['-'] ws := by
  refine ⟨(words cs).map smallWord, ?_, paramChars_eq_intercalate cs⟩
  rw [List.forall_mem_map]
  exact isSmallWord_smallWord cs

/-- Small words joined by hyphens are in param case. -/
theorem paramChars_intercalate (ws : List (List Char)) (h : ∀ w ∈ ws, IsSmallWord w) :
    paramChars (List.intercalate ['-'] ws) = List.intercalate ['-'] ws := by
  have hsmall : ws.map smallWord = ws := by
    rw [List.map_congr_left fun w hw => smallWord_of_small w (h w hw).2, List.map_id']
  rw [paramChars_eq_intercalate, words_intercalate ws h, hsmall]

theorem paramChars_paramChars (cs : List Char) : paramChars (paramChars cs) = paramChars cs := by
  obtain ⟨ws, hws, hchars⟩ := exists_smallWords cs
  rw [hchars, paramChars_intercalate ws hws]

theorem paramCase_paramCase (s : String) : paramCase (paramCase s) = paramCase s := by
  simp [paramCase, paramChars_paramChars]

end BemNotation.Naming
