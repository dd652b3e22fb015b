import BemNotation.Proofs.PascalCase

/-!
Names in ASCII. Of an ASCII letter the small form and the capital form give each other, and
a word in pascal case begins with a capital or a digit. So the words of a name can be read
back from either of its written forms, and each form can be made from the other as well as
from the name.
-/

namespace BemNotation.Naming

open Unicode

def isAscii (c : Char) : Bool :=
  c.toNat < 128

/-- What holds at each of the first 128 code points holds of every ASCII character. -/
theorem of_isAscii (p : Char → Bool)
    (hall : (List.range 128).all (fun n => p (Char.ofNat n)) = true) (c : Char)
    (hc : isAscii c = true) : p c = true := by
  have hlt : c.toNat < 128 := by simpa [isAscii] using hc
  have hpoint := List.all_eq_true.mp hall c.toNat (List.mem_range.mpr hlt)
  rwa [Char.ofNat_toNat] at hpoint

/-- The two forms of a character in ASCII, and how each is made from the other. -/
structure AsciiForms (c : Char) : Prop where
  isAscii_small : isAscii (lowerOne c) = true
  isAscii_capital : isAscii (raise c) = true
  small_small : lowerOne (lowerOne c) = lowerOne c
  small_capital : lowerOne (raise c) = lowerOne c
  capital_small : raise (lowerOne c) = raise c

theorem asciiForms (c : Char) (hc : isAscii c = true) : AsciiForms c := by
  have hforms := of_isAscii (fun c => isAscii (lowerOne c) && isAscii (raise c) &&
    lowerOne (lowerOne c) == lowerOne c && lowerOne (raise c) == lowerOne c &&
    raise (lowerOne c) == raise c) (by decide +kernel) c hc
  simp only [Bool.and_eq_true, beq_iff_eq] at hforms
  obtain ⟨⟨⟨⟨hsmall, hcapital⟩, hlowered⟩, hraised⟩, hback⟩ := hforms
  exact ⟨hsmall, hcapital, hlowered, hraised, hback⟩

/-- Every ASCII letter has a capital form. -/
theorem isCapital_raise_of_isAscii (c : Char) (hc : isAscii c = true)
    (hword : isWordChar c = true) (h : isNumeric (raise c) = false) :
    isCapital (raise c) = true := by
  have hletter := of_isAscii (fun c => !isWordChar c || isNumeric (raise c) || isCapital (raise c))
    (by decide +kernel) c hc
  simpa [hword, h] using hletter

theorem lower_of_isAscii (c : Char) (hc : isAscii c = true) : lower c = [lowerOne c] := by
  have hdotted : c ≠ 'İ' := by
    rintro rfl
    exact absurd hc (by decide)
  rw [lower, if_neg hdotted]

theorem lowerFrom_of_isAscii (before w : List Char) (hw : ∀ c ∈ w, isAscii c = true) :
    lowerFrom before w = w.map lowerOne := by
  induction w generalizing before with
  | nil => rfl
  | cons c w ih =>
    have hc := hw c (by simp)
    have hsigma : c ≠ 'Σ' := by
      rintro rfl
      exact absurd hc (by decide)
    rw [lowerFrom, if_neg hsigma, lower_of_isAscii c hc, ih _ fun d hd => hw d (by simp [hd])]
    rfl

theorem flatMap_lower_of_isAscii (w : List Char) (hw : ∀ c ∈ w, isAscii c = true) :
    w.flatMap lower = w.map lowerOne := by
  induction w with
  | nil => rfl
  | cons c w ih =>
    rw [List.flatMap_cons, lower_of_isAscii c (hw c (by simp)), ih fun d hd => hw d (by simp [hd])]
    rfl

theorem filter_map_lowerOne (w : List Char) (hw : ∀ c ∈ w, isWordChar c = true) :
    (w.map lowerOne).filter isWordChar = w.map lowerOne := by
  rw [List.filter_eq_self, List.forall_mem_map]
  exact fun c hc => isWordChar_lowerOne c (hw c hc)

theorem map_lowerOne_map_lowerOne (w : List Char) (hw : ∀ c ∈ w, isAscii c = true) :
    (w.map lowerOne).map lowerOne = w.map lowerOne := by
  rw [List.map_map]
  exact List.map_congr_left fun c hc => (asciiForms c (hw c hc)).small_small

/-- A word of ASCII letters and digits. -/
structure IsAsciiWord (w : List Char) : Prop where
  isAscii : ∀ c ∈ w, isAscii c = true
  isWordChar : ∀ c ∈ w, isWordChar c = true

theorem IsAsciiWord.smallWord_eq (w : List Char) (h : IsAsciiWord w) :
    smallWord w = w.map lowerOne := by
  rw [smallWord, lowerText, lowerFrom_of_isAscii [] w h.isAscii, filter_map_lowerOne w h.isWordChar]

theorem IsAsciiWord.tail (c : Char) (w : List Char) (h : IsAsciiWord (c :: w)) : IsAsciiWord w :=
  ⟨fun d hd => h.isAscii d (by simp [hd]), fun d hd => h.isWordChar d (by simp [hd])⟩

theorem IsAsciiWord.capitalWord_eq (c : Char) (w : List Char) (h : IsAsciiWord (c :: w)) :
    capitalWord (c :: w) = raise c :: w.map lowerOne := by
  have hw := h.tail c w
  rw [capitalWord, flatMap_lower_of_isAscii w hw.isAscii, filter_map_lowerOne w hw.isWordChar]

theorem IsAsciiWord.map_lowerOne (w : List Char) (h : IsAsciiWord w) :
    IsAsciiWord (w.map lowerOne) := by
  constructor <;> rw [List.forall_mem_map]
  · exact fun c hc => (asciiForms c (h.isAscii c hc)).isAscii_small
  · exact fun c hc => isWordChar_lowerOne c (h.isWordChar c hc)

theorem IsAsciiWord.capitalWord (w : List Char) (h : IsAsciiWord w) :
    IsAsciiWord (capitalWord w) := by
  cases w with
  | nil => exact h
  | cons c w =>
    have htail := (h.tail c w).map_lowerOne w
    rw [h.capitalWord_eq]
    constructor <;> rw [List.forall_mem_cons]
    · exact ⟨(asciiForms c (h.isAscii c (by simp))).isAscii_capital, htail.isAscii⟩
    · exact ⟨isWordChar_raise c (h.isWordChar c (by simp)), htail.isWordChar⟩

/-- The small form of a word can be made from the word in pascal case. -/
theorem IsAsciiWord.smallWord_capitalWord (w : List Char) (h : IsAsciiWord w) :
    smallWord (Naming.capitalWord w) = smallWord w := by
  cases w with
  | nil => rfl
  | cons c w =>
    have hforms := asciiForms c (h.isAscii c (by simp))
    rw [(h.capitalWord (c :: w)).smallWord_eq, h.smallWord_eq, h.capitalWord_eq, List.map_cons,
      List.map_cons, hforms.small_capital, map_lowerOne_map_lowerOne w (h.tail c w).isAscii]

/-- The word in pascal case can be made from its small form. -/
theorem IsAsciiWord.capitalWord_smallWord (w : List Char) (h : IsAsciiWord w) :
    Naming.capitalWord (smallWord w) = Naming.capitalWord w := by
  cases w with
  | nil => rfl
  | cons c w =>
    have hforms := asciiForms c (h.isAscii c (by simp))
    have hsmall := h.map_lowerOne (c :: w)
    rw [List.map_cons] at hsmall
    rw [h.smallWord_eq, List.map_cons, hsmall.capitalWord_eq, h.capitalWord_eq, hforms.capital_small,
      map_lowerOne_map_lowerOne w (h.tail c w).isAscii]

/-- Words read back if each begins with a capital or a digit. -/
theorem readsBack_of_heads (last : Option Char) (us : List (List Char))
    (h : ∀ u ∈ us, ∀ c, u.head? = some c → isNumeric c = false → isCapital c = true) :
    ReadsBack last us := by
  induction us generalizing last with
  | nil => trivial
  | cons u us ih =>
    refine ⟨fun x c _ hc hapart => h u (by simp) c hc ?_, ih _ fun v hv => h v (by simp [hv])⟩
    simp only [standsApart, Bool.and_eq_true, Bool.not_eq_true'] at hapart
    exact hapart.2

section Ascii

variable (cs : List Char) (hcs : ∀ c ∈ cs, isAscii c = true)

include hcs

theorem isAsciiWord_of_mem_words (w : List Char) (hw : w ∈ words cs) : IsAsciiWord w :=
  ⟨fun c hc => hcs c (mem_of_mem_words cs w hw c hc).1, isWordChar_of_mem_words cs w hw⟩

/-- No boundary between words is lost or added where they are joined. -/
theorem words_pascalChars : words (pascalChars cs) = (words cs).map capitalWord := by
  apply words_joinWords none
  · rw [List.forall_mem_map]
    intro w hw
    exact isCapitalWord_capitalWord w (ne_nil_of_mem_words hw) (isWordChar_of_mem_words cs w hw)
  · apply readsBack_of_heads
    rw [List.forall_mem_map]
    intro w hw c hc
    cases w with
    | nil => simp [capitalWord] at hc
    | cons d w =>
      have hword := isAsciiWord_of_mem_words cs hcs _ hw
      obtain rfl : raise d = c := by simpa [capitalWord] using hc
      exact isCapital_raise_of_isAscii d (hword.isAscii d (by simp)) (hword.isWordChar d (by simp))

end Ascii

theorem words_paramChars (cs : List Char) : words (paramChars cs) = (words cs).map smallWord := by
  rw [paramChars_eq_intercalate, words_intercalate]
  rw [List.forall_mem_map]
  exact isSmallWord_smallWord cs

/-- In ASCII the two written forms of a name have the words of the name, and each form is
the one made from the other. -/
theorem paramCase_pascalCase_of_isAscii (s : String) (h : ∀ c ∈ s.toList, isAscii c = true) :
    words (pascalCase s).toList = (words s.toList).map capitalWord ∧
      words (paramCase s).toList = (words s.toList).map smallWord ∧
      paramCase (pascalCase s) = paramCase s ∧ pascalCase (paramCase s) = pascalCase s := by
  have hpascal := words_pascalChars s.toList h
  have hparam := words_paramChars s.toList
  have hsmall : ((words s.toList).map capitalWord).map smallWord = (words s.toList).map smallWord := by
    rw [List.map_map]
    exact List.map_congr_left fun w hw => (isAsciiWord_of_mem_words _ h w hw).smallWord_capitalWord
  have hcapital : ((words s.toList).map smallWord).map capitalWord =
      (words s.toList).map capitalWord := by
    rw [List.map_map]
    exact List.map_congr_left fun w hw => (isAsciiWord_of_mem_words _ h w hw).capitalWord_smallWord
  refine ⟨by simpa [pascalCase] using hpascal, by simpa [paramCase] using hparam, ?_, ?_⟩
  · rw [paramCase, pascalCase, String.toList_ofList, paramChars_eq_intercalate, hpascal, hsmall,
      ← paramChars_eq_intercalate]
    rfl
  · rw [pascalCase, paramCase, String.toList_ofList, pascalChars, hparam, hcapital]
    rfl

/-- Acronyms, single letters, digits at the beginning of a word and separators of all kinds. -/
theorem paramCase_pascalCase_of_isAscii_mixed :
    let s := "XMLHttp__2b.a1B -9-x"
    (∀ c ∈ s.toList, isAscii c = true) ∧
      words (pascalCase s).toList = (words s.toList).map capitalWord ∧
      words (paramCase s).toList = (words s.toList).map smallWord ∧
      paramCase (pascalCase s) = paramCase s ∧ pascalCase (paramCase s) = pascalCase s := by
  intro s
  have hascii := List.all_eq_true.mp (show s.toList.all isAscii = true by decide)
  exact ⟨hascii, paramCase_pascalCase_of_isAscii s hascii⟩

end BemNotation.Naming
