import BemNotation.Declaration.Printer
import BemNotation.Proofs.Characters

/-!
Text of a type alias as marks. It is cut into names, texts between double quotes and
single signs; white space between them means nothing. In a quoted text an escape
stands for the character that it names. What the printer writes for a name or a text
is one mark, whatever comes after it.
-/

namespace BemNotation.Alias

open Unicode

inductive Mark where
  | name (chars : List Char)
  | text (chars : List Char)
  | sign (c : Char)
  deriving DecidableEq, Repr

def isSign (c : Char) : Bool :=
  ['\x7b', '\x7d', ':', ';', '|', '='].contains c

/-- The digits and the letters from A to F, small or capital. -/
def hexValue (c : Char) : Option Nat :=
  if '0' ≤ c ∧ c ≤ '9' then some (c.toNat - '0'.toNat)
  else if 'a' ≤ c ∧ c ≤ 'f' then some (c.toNat - 'a'.toNat + 10)
  else if 'A' ≤ c ∧ c ≤ 'F' then some (c.toNat - 'A'.toNat + 10)
  else none

def hexNumber (digits : List Char) : Option Nat :=
  digits.foldlM (fun n c => (hexValue c).map (16 * n + ·)) 0

/-- The character with the code point, if there is one. -/
def codePoint (digits : List Char) : Option Char :=
  match hexNumber digits with
  | some n => if n.isValidChar then some (Char.ofNat n) else none
  | none => none

/-- The character that an escape of one letter stands for. -/
def escapedChar (c : Char) : Option Char :=
  if c = '"' then some '"'
  else if c = '\\' then some '\\'
  else if c = 'n' then some '\n'
  else if c = 'r' then some '\r'
  else if c = 't' then some '\t'
  else none

/-- Puts a character in front of the text that was read. -/
def prepend (c : Option Char) (found : Option (List Char × List Char)) :
    Option (List Char × List Char) :=
  match c, found with
  | some c, some (text, rest) => some (c :: text, rest)
  | _, _ => none

/-- The text up to the closing quote, and what follows it. The text does not go on
over the end of a line. -/
def readQuoted : List Char → Option (List Char × List Char)
  | '"' :: cs => some ([], cs)
  | '\\' :: 'u' :: d₁ :: d₂ :: d₃ :: d₄ :: cs => prepend (codePoint [d₁, d₂, d₃, d₄]) (readQuoted cs)
  | '\\' :: e :: cs => prepend (escapedChar e) (readQuoted cs)
  | '\n' :: _ => none
  | '\r' :: _ => none
  | c :: cs => prepend (some c) (readQuoted cs)
  | [] => none

theorem exists_of_prepend (c : Option Char) (found : Option (List Char × List Char))
    (text rest : List Char) (h : prepend c found = some (text, rest)) :
    ∃ others, found = some (others, rest) := by
  unfold prepend at h
  split at h
  case h_1 first others tail =>
    obtain ⟨_, rfl⟩ : first :: others = text ∧ tail = rest := by simpa using h
    exact ⟨others, rfl⟩
  case h_2 => simp at h

theorem length_lt_of_readQuoted (cs text rest : List Char)
    (h : readQuoted cs = some (text, rest)) : rest.length < cs.length := by
  fun_induction readQuoted cs generalizing text rest with
  | case1 cs =>
    obtain ⟨rfl, rfl⟩ : [] = text ∧ cs = rest := by simpa using h
    simp
  | case2 d₁ d₂ d₃ d₄ cs ih =>
    obtain ⟨others, hfound⟩ := exists_of_prepend _ _ text rest h
    exact Nat.lt_trans (ih others rest hfound) (by simp only [List.length_cons]; omega)
  | case3 e cs hshort ih =>
    obtain ⟨others, hfound⟩ := exists_of_prepend _ _ text rest h
    exact Nat.lt_trans (ih others rest hfound) (by simp only [List.length_cons]; omega)
  | case4 => simp at h
  | case5 => simp at h
  | case6 c cs hquote hlong hescape hfeed hreturn ih =>
    obtain ⟨others, hfound⟩ := exists_of_prepend _ _ text rest h
    exact Nat.lt_trans (ih others rest hfound) (by simp)
  | case7 => simp at h

/-- The marks of a text, if it consists of marks and white space. A name is as long
as it can be. -/
def scan (cs : List Char) : Option (List Mark) :=
  match cs with
  | [] => some []
  | c :: cs =>
    if isWhiteSpace c then scan cs
    else if isIdentifierStart c then
      (scan (cs.dropWhile isIdentifierPart)).map (.name (c :: cs.takeWhile isIdentifierPart) :: ·)
    else if isSign c then (scan cs).map (.sign c :: ·)
    else if c = '"' then
      match _h : readQuoted cs with
      | some (text, rest) => (scan rest).map (.text text :: ·)
      | none => none
    else none
termination_by cs.length
decreasing_by
  · simp
  · have hle := (List.dropWhile_sublist isIdentifierPart (l := cs)).length_le
    simp only [List.length_cons]
    omega
  · simp
  · have hlt := length_lt_of_readQuoted cs text rest _h
    simp only [List.length_cons]
    omega

theorem codePoint_hexDigits4 : ∀ n < 160, (Text.hexDigits4 (Char.ofNat n)).length = 4 ∧
    codePoint (Text.hexDigits4 (Char.ofNat n)) = some (Char.ofNat n) := by
  decide +kernel

theorem toNat_lt_of_isControl (c : Char) (h : isControl c = true) : c.toNat < 160 := by
  simp only [isControl, Bool.or_eq_true, Bool.and_eq_true, decide_eq_true_eq] at h
  omega

theorem readQuoted_control (c : Char) (cs : List Char) (h : isControl c = true) :
    readQuoted ('\\' :: 'u' :: Text.hexDigits4 c ++ cs) = prepend (some c) (readQuoted cs) := by
  obtain ⟨hlength, hcode⟩ := codePoint_hexDigits4 c.toNat (toNat_lt_of_isControl c h)
  rw [Char.ofNat_toNat] at hlength hcode
  have hdigits := List.eq_getElem_of_length_eq_four _ hlength
  rw [← hcode, hdigits]
  rfl

theorem readQuoted_plain (c : Char) (cs : List Char) (hquote : c ≠ '"') (hescape : c ≠ '\\')
    (hfeed : c ≠ '\n') (hreturn : c ≠ '\r') :
    readQuoted (c :: cs) = prepend (some c) (readQuoted cs) := by
  rw [readQuoted] <;> simp_all

/-- What is written for a character is read as that character. -/
theorem readQuoted_literalChar (c : Char) (cs : List Char) :
    readQuoted (literalChar c ++ cs) = prepend (some c) (readQuoted cs) := by
  fun_cases literalChar c with
  | case1 hquote => simp [hquote, readQuoted, escapedChar]
  | case2 hquote hescape => simp [hescape, readQuoted, escapedChar]
  | case3 hquote hescape hfeed => simp [hfeed, readQuoted, escapedChar]
  | case4 hquote hescape hfeed hreturn => simp [hreturn, readQuoted, escapedChar]
  | case5 hquote hescape hfeed hreturn htab => simp [htab, readQuoted, escapedChar]
  | case6 hquote hescape hfeed hreturn htab hcontrol => exact readQuoted_control c cs hcontrol
  | case7 hquote hescape hfeed hreturn htab hcontrol =>
    exact readQuoted_plain c cs hquote hescape hfeed hreturn

theorem readQuoted_flatMap_literalChar (text cs : List Char) :
    readQuoted (text.flatMap literalChar ++ '"' :: cs) = some (text, cs) := by
  induction text with
  | nil => rfl
  | cons c text ih =>
    rw [List.flatMap_cons, List.append_assoc, readQuoted_literalChar, ih]
    rfl

theorem scan_space_append (space cs : List Char) (h : ∀ c ∈ space, isWhiteSpace c = true) :
    scan (space ++ cs) = scan cs := by
  induction space with
  | nil => rfl
  | cons c space ih =>
    rw [List.cons_append, scan, if_pos (h c (by simp))]
    exact ih fun d hd => h d (by simp [hd])

theorem plain_of_isSign (c : Char) (h : isSign c = true) :
    isWhiteSpace c = false ∧ isIdentifierPart c = false ∧ isIdentifierStart c = false := by
  have hsigns : c = '\x7b' ∨ c = '\x7d' ∨ c = ':' ∨ c = ';' ∨ c = '|' ∨ c = '=' := by
    simpa [isSign] using h
  rcases hsigns with rfl | rfl | rfl | rfl | rfl | rfl <;> decide +kernel

theorem scan_sign_cons (c : Char) (cs : List Char) (h : isSign c = true) :
    scan (c :: cs) = (scan cs).map (.sign c :: ·) := by
  obtain ⟨hspace, _, hstart⟩ := plain_of_isSign c h
  rw [scan]
  simp [hspace, hstart, h]

theorem scan_literal_append (text cs : List Char) :
    scan (literal text ++ cs) = (scan cs).map (.text text :: ·) := by
  have hquote : isWhiteSpace '"' = false ∧ isIdentifierStart '"' = false ∧ isSign '"' = false := by
    decide +kernel
  have hread := readQuoted_flatMap_literalChar text cs
  rw [literal, List.append_assoc, List.cons_append, List.singleton_append, scan]
  simp only [hquote, Bool.false_eq_true, if_false, if_true]
  split
  case h_1 found rest hfound =>
    obtain ⟨rfl, rfl⟩ : text = found ∧ cs = rest := by simpa [hread] using hfound
    rfl
  case h_2 hfound => simp [hread] at hfound

theorem isIdentifierPart_of_isWhiteSpace (c : Char) (h : isWhiteSpace c = true) :
    isIdentifierPart c = false := by
  have hname := Source.isNameChar_of_isWhiteSpace c h
  have hdollar : c ≠ '$' := by
    rintro rfl
    revert h
    decide +kernel
  simp_all [isIdentifierPart, Source.isNameChar]

theorem isIdentifierPart_of_isIdentifierStart (c : Char) (h : isIdentifierStart c = true) :
    isIdentifierPart c = true := by
  simp only [isIdentifierStart, isIdentifierPart, Naming.isWordChar, Bool.or_eq_true] at h ⊢
  rcases h with (h | h) | h
  · exact Or.inl (Or.inl (Or.inl h))
  · exact Or.inl (Or.inr h)
  · exact Or.inr h

theorem scan_name_append (name cs : List Char) (hname : isIdentifier name = true)
    (hcs : Stops isIdentifierPart cs) : scan (name ++ cs) = (scan cs).map (.name name :: ·) := by
  cases name with
  | nil => simp [isIdentifier] at hname
  | cons c name =>
    simp only [isIdentifier, Bool.and_eq_true, List.all_eq_true] at hname
    obtain ⟨hstart, hparts⟩ := hname
    obtain ⟨htake, hdrop⟩ := takeWhile_append_of_stops _ name cs hcs hparts
    have hspace : isWhiteSpace c = false := by
      cases hspace : isWhiteSpace c with
      | false => rfl
      | true =>
        have hpart := isIdentifierPart_of_isWhiteSpace c hspace
        rw [isIdentifierPart_of_isIdentifierStart c hstart] at hpart
        exact hpart
    rw [List.cons_append, scan]
    simp [hspace, hstart, htake, hdrop]

/-- A mark that can stand for the name of a field: the name itself, or its text. -/
def keyMark (key : List Char) : Mark :=
  if isIdentifier key then .name key else .text key

theorem scan_propertyKey_append (key cs : List Char) (hcs : Stops isIdentifierPart cs) :
    scan (propertyKey key ++ cs) = (scan cs).map (keyMark key :: ·) := by
  unfold propertyKey keyMark
  split
  case isTrue hname => exact scan_name_append key cs hname hcs
  case isFalse => exact scan_literal_append key cs

end BemNotation.Alias
