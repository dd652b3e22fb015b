import BemNotation.Unicode.Alphabetic
import BemNotation.Unicode.Lowering
import BemNotation.Unicode.Numeric

/-!
Words of an identifier. Anything but letters and digits separates words and is
dropped. Inside a run of letters and digits a word begins at a capital after a
small letter or a digit, and at the last capital of several when a small letter
follows it, so that an acronym stays together.
-/

namespace BemNotation.Naming

open Unicode

/-- Letters and digits of every script, the characters that words are made of. -/
def isWordChar (c : Char) : Bool :=
  isAlphabetic c || isNumeric c

/-- A capital letter with a small form of its own. Capitals without one never
begin a word, for lowering would not change them. -/
def isCapital (c : Char) : Bool :=
  isUppercase c && lower c != [c]

/-- Whether a word begins at `c`, between the word characters before and after. -/
def beginsWord (before c : Char) (after : Option Char) : Bool :=
  isCapital c &&
    (isLowercase before || isNumeric before || (isCapital before && after.any isLowercase))

/-- Whether the character before this text belongs to the word that the text
begins with. -/
def continues (before : Char) : List Char → Bool
  | [] => false
  | c :: cs => isWordChar c && !beginsWord before c cs.head?

/-- Puts an item in front of the first of several rows. -/
def extendFirst {α : Type} (x : α) : List (List α) → List (List α)
  | [] => [[x]]
  | row :: rows => (x :: row) :: rows

theorem ne_nil_or_mem_of_mem_extendFirst {α : Type} {x : α} {row : List α}
    {rows : List (List α)} (h : row ∈ extendFirst x rows) : row ≠ [] ∨ row ∈ rows := by
  cases rows with
  | nil => exact Or.inl (by simp_all [extendFirst])
  | cons first rest =>
    simp only [extendFirst, List.mem_cons] at h
    rcases h with rfl | h
    · exact Or.inl (by simp)
    · exact Or.inr (by simp [h])

def words : List Char → List (List Char)
  | [] => []
  | c :: cs =>
    if isWordChar c then
      if continues c cs then extendFirst c (words cs) else [c] :: words cs
    else words cs

theorem ne_nil_of_mem_words {cs w : List Char} (h : w ∈ words cs) : w ≠ [] := by
  induction cs with
  | nil => simp [words] at h
  | cons c cs ih =>
    unfold words at h
    split at h
    · split at h
      · exact (ne_nil_or_mem_of_mem_extendFirst h).elim id ih
      · rcases List.mem_cons.mp h with rfl | h
        · simp
        · exact ih h
    · exact ih h

end BemNotation.Naming
