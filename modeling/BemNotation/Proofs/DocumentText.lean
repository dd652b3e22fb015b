import BemNotation.Proofs.Characters
import BemNotation.Proofs.DocumentGrammar
import BemNotation.Toml.Reader

/-!
The reader on the values of a document. Between double quotes every spelling of a character
is read as that character, and what stands around the items of a list is passed over. So a
value is read as what it spells, whatever follows it.
-/

namespace BemNotation.Toml

open Data
open Unicode (Stops stops_cons takeWhile_append_of_stops)

theorem escape?_ne_digits_zero (e : Char) : escape? e ≠ some (.digits 0) := by
  unfold escape?
  split <;> simp

/-- An escape by code point is read as its character. -/
theorem readBasic_digits (ds : List Char) (value : Nat) (c : Char) (rest : List Char)
    (hds : ds ≠ []) (h : (codePoint? value ds).bind charAt? = some c) :
    readBasic (.digits ds.length value) (ds ++ rest) = (readBasic .plain rest).push c := by
  induction ds generalizing value with
  | nil => exact absurd rfl hds
  | cons d ds ih =>
    rw [codePoint?, Option.bind_eq_bind, Option.bind_assoc, Option.bind_eq_some_iff] at h
    obtain ⟨k, hk, hrest⟩ := h
    cases ds with
    | nil =>
      have hchar : charAt? (16 * value + k) = some c := hrest
      simp [readBasic, hk, hchar]
    | cons d' ds =>
      have hlater := ih (16 * value + k) (by simp) hrest
      simpa [readBasic, hk] using hlater

/-- Every spelling of a character is read as the character. -/
theorem readBasic_charText (c : Char) (text rest : List Char) (h : CharText c text) :
    readBasic .plain (text ++ rest) = (readBasic .plain rest).push c := by
  cases h with
  | plain hquote hescape hplain =>
    change (if c = '"' then _ else if c = '\\' then _ else if isPlain c then _ else _) = _
    rw [if_neg hquote, if_neg hescape, if_pos hplain]
    rfl
  | @short e h =>
    simp [readBasic, h]
  | @digits e ds h hds =>
    have hne : ds ≠ [] := by
      rintro rfl
      exact escape?_ne_digits_zero e h
    have hread := readBasic_digits ds 0 c rest hne hds
    simpa [readBasic, h] using hread

theorem readBasic_flatten (cs : List Char) (parts : List (List Char)) (rest : List Char)
    (h : List.Forall₂ CharText cs parts) :
    readBasic .plain (parts.flatten ++ '"' :: rest) = some (cs, rest) := by
  induction h with
  | nil => rfl
  | cons hchar _ ih =>
    rw [List.flatten_cons, List.append_assoc, readBasic_charText _ _ _ hchar, ih]
    rfl

/-- A spelling does not begin with a quote. -/
theorem head?_charText (c : Char) (text rest : List Char) (h : CharText c text) :
    (text ++ rest).head? ≠ some '"' := by
  cases h with
  | plain hquote => simpa using hquote
  | short => simp
  | digits => simp

/-- A text is read in front of anything but another quote. -/
theorem readText_basicText (s : String) (text rest : List Char) (htext : BasicText s text)
    (hrest : rest.head? ≠ some '"') : readText (text ++ rest) = some (s.toList, rest) := by
  obtain ⟨parts, hparts, rfl⟩ := htext
  have hbasic := readBasic_flatten s.toList parts rest hparts
  have hchars : '"' :: (parts.flatten ++ ['"']) ++ rest =
      '"' :: (parts.flatten ++ '"' :: rest) := by
    simp
  rw [hchars, readText, readShortText, hbasic]
  · intro cs hquotes
    replace hquotes := List.tail_eq_of_cons_eq hquotes
    generalize s.toList = chars at hparts
    cases hparts with
    | nil => exact hrest (congrArg List.head? (List.tail_eq_of_cons_eq hquotes))
    | cons hchar _ =>
      rw [List.flatten_cons, List.append_assoc] at hquotes
      exact head?_charText _ _ _ hchar (congrArg List.head? hquotes)
  · simp

theorem exists_cons_of_basicText (s : String) (text : List Char) (h : BasicText s text) :
    ∃ cs, text = '"' :: cs ∧ cs ≠ [] := by
  obtain ⟨parts, -, rfl⟩ := h
  exact ⟨_, rfl, by simp⟩

theorem gap_append (space cs : List Char) (h : IsGap space) : gap (space ++ cs) = gap cs := by
  induction space with
  | nil => rfl
  | cons c space ih =>
    have hspace := ih fun d hd => h d (List.mem_cons_of_mem _ hd)
    rcases h c (by simp) with hblank | rfl
    · have hends : endsLine c (space ++ cs) = false := by
        simp only [isBlank, Bool.or_eq_true, decide_eq_true_eq] at hblank
        rcases hblank with rfl | rfl <;> rfl
      rw [List.cons_append, gap, skipGap, hends, hblank]
      exact hspace
    · exact hspace

/-- What follows an item is no quote. -/
theorem head?_gap_append (c : Char) (space rest : List Char) (h : IsGap space) (hc : c ≠ '"') :
    (space ++ c :: rest).head? ≠ some '"' := by
  cases space with
  | nil => simpa using hc
  | cons d space =>
    intro hquote
    obtain rfl : d = '"' := by simpa using hquote
    simpa [isBlank] using h '"' (by simp)

theorem readValue_basicText (room fuel : Nat) (s : String) (text rest : List Char)
    (htext : BasicText s text) (hrest : rest.head? ≠ some '"') :
    readValue room (fuel + 1) (text ++ rest) = some (.text s, rest) := by
  have hread := readText_basicText s text rest htext hrest
  obtain ⟨cs, rfl, -⟩ := exists_cons_of_basicText s text htext
  change (readText _).map _ = _
  rw [hread]
  simp

/-- A text in a list is its next item, and what follows it decides whether it is the last. -/
theorem readItems_of_basicText (room fuel : Nat) (s : String) (space text rest : List Char)
    (hspace : IsGap space) (htext : BasicText s text) (hrest : rest.head? ≠ some '"') :
    readItems room (fuel + 2) (space ++ (text ++ rest)) =
      match gap rest with
      | ',' :: rest => do
        let (items, rest) ← readItems room (fuel + 1) rest
        return (.text s :: items, rest)
      | ']' :: rest => return ([.text s], rest)
      | _ => none := by
  have hitem := readValue_basicText room fuel s text rest htext hrest
  have hgap : gap (space ++ (text ++ rest)) = text ++ rest := by
    obtain ⟨cs, rfl, -⟩ := exists_cons_of_basicText s text htext
    exact gap_append space _ hspace
  rw [readItems, hgap]
  split
  case h_1 hbracket =>
    obtain ⟨cs, rfl, -⟩ := exists_cons_of_basicText s text htext
    simp at hbracket
  case h_2 =>
    rw [hitem]
    rfl

theorem readItems_itemsText (room : Nat) (ss : List String) (cs : List Char)
    (h : ItemsText BasicText ss cs) (fuel : Nat) (hfuel : cs.length < fuel) (rest : List Char) :
    readItems room fuel (cs ++ rest) = some (ss.map .text, rest) := by
  induction h generalizing fuel with
  | @nil space hspace =>
    obtain ⟨fuel, rfl⟩ := Nat.exists_eq_add_of_le' (Nat.one_le_of_lt hfuel)
    rw [List.append_assoc, readItems, gap_append _ _ hspace]
    rfl
  | @last s space text after hspace htext hafter =>
    obtain ⟨fuel, rfl⟩ := Nat.exists_eq_add_of_le' (show 2 ≤ fuel by
      simp only [List.length_append, List.length_cons] at hfuel
      obtain ⟨cs, rfl, -⟩ := exists_cons_of_basicText s text htext
      simp only [List.length_cons] at hfuel
      omega)
    have hitem := readItems_of_basicText room fuel s space text (after ++ ']' :: rest) hspace htext
      (head?_gap_append _ _ _ hafter (by decide))
    rw [gap_append _ _ hafter] at hitem
    change _ = some ([Value.text s], rest) at hitem
    simpa using hitem
  | @cons s ss space text after tail hspace htext hafter _ ih =>
    -- An item has two quotes at least, so the fuel lasts for the items after it.
    obtain ⟨cs, htextChars, hcs⟩ := exists_cons_of_basicText s text htext
    obtain ⟨fuel, rfl⟩ := Nat.exists_eq_add_of_le' (show 2 ≤ fuel by
      simp only [List.length_append, List.length_cons, htextChars] at hfuel
      omega)
    have htail := ih (fuel + 1) (by
      simp only [List.length_append, List.length_cons, htextChars] at hfuel
      omega)
    have hitem := readItems_of_basicText room fuel s space text (after ++ ',' :: (tail ++ rest))
      hspace htext (head?_gap_append _ _ _ hafter (by decide))
    rw [gap_append _ _ hafter] at hitem
    change _ = (readItems room (fuel + 1) (tail ++ rest)).bind _ at hitem
    rw [htail] at hitem
    simpa using hitem

theorem readValue_valueText (room fuel : Nat) (v : Value) (cs rest : List Char)
    (hv : ValueText BasicText v cs) (hroom : room ≠ 0) (hfuel : cs.length < fuel)
    (hrest : rest.head? ≠ some '"') : readValue room fuel (cs ++ rest) = some (v, rest) := by
  obtain ⟨fuel, rfl⟩ := Nat.exists_eq_add_of_le' (Nat.one_le_of_lt hfuel)
  cases hv with
  | @text s _ htext => exact readValue_basicText room fuel s cs rest htext hrest
  | @list ss cs hitems =>
    have hread :=
      readItems_itemsText (room - 1) ss cs hitems fuel (Nat.lt_of_succ_lt_succ hfuel) rest
    rw [List.cons_append, readValue, if_neg hroom, hread]
    rfl

/-- A value begins with a quote or a bracket. -/
theorem skipBlanks_valueText (v : Value) (cs rest : List Char) (h : ValueText BasicText v cs) :
    skipBlanks (cs ++ rest) = cs ++ rest := by
  cases h with
  | @text s _ htext =>
    obtain ⟨cs, rfl, -⟩ := exists_cons_of_basicText s _ htext
    rfl
  | list => rfl

end BemNotation.Toml
