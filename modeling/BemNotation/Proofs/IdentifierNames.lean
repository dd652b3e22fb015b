import BemNotation.Proofs.Characters
import BemNotation.Proofs.ReadableDeclaration
import BemNotation.Unicode.IdContinue

/-!
Plain names and identifiers. The grammar of identifiers admits fewer letters and digits
than names are made of: numbers such as superscripts and fractions, circled letters, and
marks at the beginning are not part of it. A plain name is an identifier exactly where it
has none of those, and a name in param case is plain if it is an identifier.
-/

namespace BemNotation

open Naming Unicode

/-- Characters that an identifier begins with. -/
def beginsName (c : Char) : Bool :=
  c = '$' || c = '_' || isIdStart c

/-- Characters that an identifier goes on with, the two joiners of no width included. -/
def continuesName (c : Char) : Bool :=
  c = '$' || c = '\u200c' || c = '\u200d' || isIdContinue c

/-- Whether the text is an identifier of the language that declarations are written in. -/
def isIdentifierName : List Char → Bool
  | [] => false
  | c :: cs => beginsName c && cs.all continuesName

/-- Whether every letter and digit of the text can be part of an identifier, and a letter
that the text begins with can begin one. -/
def HasProperLetters (cs : List Char) : Prop :=
  (∀ c ∈ cs, isWordChar c = true → isIdContinue c = true) ∧
    ∀ c, cs.head? = some c → isAlphabetic c = true → isIdStart c = true

theorem isIdContinue_of_isIdStart (c : Char) (h : isIdStart c = true) : isIdContinue c = true := by
  simp [isIdContinue, h]

/-- A number that an identifier begins with is a letter too. -/
theorem isAlphabetic_of_isIdStart (c : Char) (hword : isWordChar c = true)
    (h : isIdStart c = true) : isAlphabetic c = true := by
  have hwithin : LiesWithin (fun r => numeric.runs.all fun s => s.isApart r) idStart.runs
      alphabetic.runs = true := by
    decide +kernel
  -- Runs with characters that are no letters are far from all numbers.
  rcases idStart.covers_or_exempt alphabetic _ hwithin _ h with hletter | ⟨r, hapart, hn⟩
  · exact hletter
  · rw [isWordChar, Bool.or_eq_true] at hword
    rcases hword with halpha | hnumeric
    · exact halpha
    · obtain ⟨s, hs, hn'⟩ := (numeric.covers_iff c.toNat).mp hnumeric
      have hnot := Run.not_holds_of_isApart s r _ (List.all_eq_true.mp hapart s hs) hn'
      simp [hnot] at hn

/-- The marks that a plain name can have are fit for an identifier, and no letters. -/
theorem marks_of_identifiers :
    isWordChar '_' = false ∧ isWordChar '$' = false ∧ isWordChar '\u200c' = false ∧
      isWordChar '\u200d' = false ∧ isIdContinue '_' = true := by
  decide +kernel

theorem continuesName_of_isWordChar (c : Char) (h : isWordChar c = true) :
    continuesName c = isIdContinue c := by
  obtain ⟨-, hdollar, hnonJoiner, hjoiner, -⟩ := marks_of_identifiers
  have hne (d : Char) := ne_of_isWordChar c d h
  simp [continuesName, hne _ hdollar, hne _ hnonJoiner, hne _ hjoiner]

theorem beginsName_of_isWordChar (c : Char) (h : isWordChar c = true) :
    beginsName c = isIdStart c := by
  obtain ⟨hlow, hdollar, -⟩ := marks_of_identifiers
  have hne (d : Char) := ne_of_isWordChar c d h
  simp [beginsName, hne _ hdollar, hne _ hlow]

theorem continuesName_iff (c : Char) (h : isIdentifierPart c = true) :
    continuesName c = true ↔ (isWordChar c = true → isIdContinue c = true) := by
  obtain ⟨hlow, hdollar, -, -, hcontinue⟩ := marks_of_identifiers
  cases hword : isWordChar c with
  | true => simp [continuesName_of_isWordChar c hword]
  | false =>
    have hmark : c = '_' ∨ c = '$' := by simpa [isIdentifierPart, hword] using h
    rcases hmark with rfl | rfl
    · simp [continuesName, hcontinue]
    · simp [continuesName]

theorem beginsName_iff (c : Char) (h : isIdentifierStart c = true) :
    beginsName c = true ↔ (isAlphabetic c = true → isIdStart c = true) := by
  cases halpha : isAlphabetic c with
  | true => simp [beginsName_of_isWordChar c (by simp [isWordChar, halpha])]
  | false =>
    have hmark : c = '_' ∨ c = '$' := by simpa [isIdentifierStart, halpha] using h
    rcases hmark with rfl | rfl <;> simp [beginsName]

/-- A plain name is an identifier exactly when all its letters and digits are proper. -/
theorem isIdentifierName_iff (cs : List Char) (h : isIdentifier cs = true) :
    isIdentifierName cs = true ↔ HasProperLetters cs := by
  cases cs with
  | nil => simp [isIdentifier] at h
  | cons c cs =>
    obtain ⟨hstart, hparts⟩ : isIdentifierStart c = true ∧ ∀ d ∈ cs, isIdentifierPart d = true := by
      simpa [isIdentifier] using h
    have hfirst : (isAlphabetic c = true → isIdStart c = true) →
        isWordChar c = true → isIdContinue c = true := by
      intro hproper hword
      have halpha : isAlphabetic c = true := by
        obtain ⟨hlow, hdollar, -⟩ := marks_of_identifiers
        simp only [isIdentifierStart, Bool.or_eq_true, decide_eq_true_eq] at hstart
        rcases hstart with (halpha | rfl) | rfl
        · exact halpha
        · simp [hlow] at hword
        · simp [hdollar] at hword
      exact isIdContinue_of_isIdStart c (hproper halpha)
    have hrest : (∀ d ∈ cs, continuesName d = true) ↔
        ∀ d ∈ cs, isWordChar d = true → isIdContinue d = true :=
      forall₂_congr fun d hd => continuesName_iff d (hparts d hd)
    rw [isIdentifierName, Bool.and_eq_true, List.all_eq_true, beginsName_iff c hstart, hrest]
    constructor
    · rintro ⟨hproper, hcontinue⟩
      refine ⟨fun d hd => ?_, by simpa using hproper⟩
      rcases List.mem_cons.mp hd with rfl | hd
      · exact hfirst hproper
      · exact hcontinue d hd
    · rintro ⟨hcontinue, hproper⟩
      exact ⟨hproper c rfl, fun d hd => hcontinue d (by simp [hd])⟩

theorem hasProperLetters_cons_lowLine (cs : List Char) :
    HasProperLetters ('_' :: cs) ↔ ∀ c ∈ cs, isWordChar c = true → isIdContinue c = true := by
  obtain ⟨hlow, -⟩ := marks_of_identifiers
  have halpha : isAlphabetic '_' = false := by decide
  simp [HasProperLetters, hlow, halpha]

/-- What does not fit a plain name is no letter and no digit, so fitting it changes none. -/
theorem isWordChar_fitted (c : Char) (p : Char → Prop) :
    (isWordChar (if isIdentifierPart c then c else '_') = true →
        p (if isIdentifierPart c then c else '_')) ↔ (isWordChar c = true → p c) := by
  split
  · rfl
  · rename_i hpart
    have hword : isWordChar c = false := by
      simp only [isIdentifierPart, Bool.or_eq_true, not_or, Bool.not_eq_true] at hpart
      exact hpart.1.1
    simp [hword, marks_of_identifiers.1]

theorem hasProperLetters_fitted (cs : List Char) :
    HasProperLetters (cs.map fun c => if isIdentifierPart c then c else '_') ↔
      HasProperLetters cs := by
  have hfirst (c : Char) := isWordChar_fitted c fun d => isAlphabetic d = true → isIdStart d = true
  have halpha (c : Char) (p : Prop) :
      (isWordChar c = true → isAlphabetic c = true → p) ↔ (isAlphabetic c = true → p) :=
    ⟨fun h hc => h (by simp [isWordChar, hc]) hc, fun h _ => h⟩
  simp only [halpha] at hfirst
  refine and_congr ?_ ?_
  · rw [List.forall_mem_map]
    exact forall₂_congr fun c _ => isWordChar_fitted c fun d => isIdContinue d = true
  · cases cs with
    | nil => simp
    | cons c cs => simpa using hfirst c

/-- Fitting a name to be that of a type changes none of its letters and digits. -/
theorem hasProperLetters_typeIdentifier (cs : List Char) :
    HasProperLetters (typeIdentifier cs) ↔ HasProperLetters cs := by
  rw [← hasProperLetters_fitted cs]
  unfold typeIdentifier
  cases cs.map fun c => if isIdentifierPart c then c else '_' with
  | nil =>
    rw [hasProperLetters_cons_lowLine]
    simp [HasProperLetters]
  | cons c rest =>
    dsimp only
    split
    case isTrue => rfl
    case isFalse hstart =>
      have halpha : isAlphabetic c = false := by
        simp only [isIdentifierStart, Bool.or_eq_true, not_or, Bool.not_eq_true] at hstart
        exact hstart.1.1
      rw [hasProperLetters_cons_lowLine]
      simp [HasProperLetters, halpha]

theorem isIdentifierName_typeIdentifier (cs : List Char) :
    isIdentifierName (typeIdentifier cs) = true ↔ HasProperLetters cs := by
  rw [isIdentifierName_iff _ (isIdentifier_typeIdentifier cs), hasProperLetters_typeIdentifier]

/-- Of the names in param case, those that are identifiers are plain. -/
theorem isIdentifier_of_isIdentifierName (cs : List Char)
    (hcs : ∀ c ∈ cs, c = '-' ∨ isWordChar c = true) (h : isIdentifierName cs = true) :
    isIdentifier cs = true := by
  have hhyphen : beginsName '-' = false ∧ continuesName '-' = false := by decide
  cases cs with
  | nil => simp [isIdentifierName] at h
  | cons c cs =>
    rw [isIdentifierName, Bool.and_eq_true, List.all_eq_true] at h
    obtain ⟨hbegins, hcontinues⟩ := h
    have hstart : isIdentifierStart c = true := by
      rcases hcs c (by simp) with rfl | hword
      · simp [hhyphen.1] at hbegins
      · rw [beginsName_of_isWordChar c hword] at hbegins
        simp [isIdentifierStart, isAlphabetic_of_isIdStart c hword hbegins]
    have hparts : ∀ d ∈ cs, isIdentifierPart d = true := by
      intro d hd
      rcases hcs d (by simp [hd]) with rfl | hword
      · have hcontinue := hcontinues '-' hd
        simp [hhyphen.2] at hcontinue
      · simp [isIdentifierPart, hword]
    simpa [isIdentifier, hstart] using hparts

end BemNotation
