import BemNotation.Proofs.TypeNames

/-!
The suffix of a type name. A type is named for its block, and the suffix is put to the name
before that is written in pascal case. After a small letter or a digit the suffix is a word
of its own, and pascal case of the name stands in front of it, with a low line between the
two where they would run together. After any other letter the suffix becomes part of the
last word and is written small.
-/

namespace BemNotation.Naming

open Unicode

/-- Whether a capital letter after the text begins a word. -/
def endsBeforeCapital (cs : List Char) : Bool :=
  cs.getLast?.all fun x => isLowercase x || isNumeric x

theorem continues_block (x : Char) : continues x "Block".toList =
    !(isLowercase x || isNumeric x || isCapital x) := by
  have hword : isWordChar 'B' = true := by decide
  have hcapital : isCapital 'B' = true := by decide
  have hsmall : isLowercase 'l' = true := by decide
  simp [block_toList.1, continues, beginsWord, hword, hcapital, hsmall]

/-- A suffix that is a word of its own stands after the name as that is written alone. -/
theorem pascalChars_append_block_of_stop (cs : List Char)
    (h : ∀ x, cs.getLast? = some x → continues x "Block".toList = false) :
    pascalChars (cs ++ "Block".toList) =
      pascalChars cs ++ (seam (pascalChars cs).getLast? (some 'B') ++ "Block".toList) := by
  rw [pascalChars, words_append_block_of_stop cs h, map_capitalWord_append_block, joinWords_append,
    Option.or_none, joinWords, joinWords, List.append_nil]
  rfl

/-- It is a word of the type name too. -/
theorem words_append_seam_block (cs : List Char) :
    words (cs ++ (seam cs.getLast? (some 'B') ++ "Block".toList)) =
      words cs ++ ["Block".toList] := by
  rw [words_append, words_seam_append, words_block]
  intro x hx
  rw [hx, seam]
  split
  case isTrue hapart => exact continues_of_standsApart x 'B' _ hapart (by decide)
  case isFalse => simp [continues, isWordChar_lowLine]

/-- A suffix that the last word of a name goes on with is written small. -/
theorem pascalChars_append_block_of_continues (init : List (List Char)) (w : List Char)
    (h : ∀ v ∈ init ++ [w], IsSmallWord v)
    (hgo : ∀ x, w.getLast? = some x → continues x "Block".toList = true) :
    pascalChars (List.intercalate ['-'] (init ++ [w]) ++ "Block".toList) =
      pascalChars (List.intercalate ['-'] (init ++ [w])) ++ "block".toList := by
  have hw := h w (by simp)
  obtain ⟨c, u, hcapital⟩ := List.exists_cons_of_ne_nil (hw.isCapitalWord_capitalWord w).ne_nil
  rw [pascalChars, pascalChars, words_append_block_of_continues init w h hgo,
    words_intercalate _ h, List.map_append, List.map_append, List.map_singleton,
    List.map_singleton, capitalWord_append_block w hw, joinWords_append, joinWords_append, hcapital]
  simp [joinWords]

end BemNotation.Naming

namespace BemNotation

open Naming Unicode

/-- Whether the type is named by the name of the block in pascal case and the suffix after
it, with at most a low line in between, and the suffix is the last word of that name. -/
def Block.NamedWithSuffix (b : Block) : Prop :=
  ∃ joint, (joint = "" ∨ joint = "_") ∧
    b.declaration.identifier = pascalCase b.paramName ++ joint ++ "Block" ∧
    words b.declaration.identifier.toList =
      words (pascalCase b.paramName).toList ++ ["Block".toList]

theorem Block.toList_identifier (b : Block) :
    b.declaration.identifier.toList = pascalChars (b.paramName.toList ++ "Block".toList) := by
  rw [declaration, toList_pascalCase, String.toList_append]

theorem Block.namedWithSuffix_of_ends (b : Block)
    (h : endsBeforeCapital b.paramName.toList = true) : b.NamedWithSuffix := by
  have hstop : ∀ x, b.paramName.toList.getLast? = some x →
      continues x "Block".toList = false := by
    intro x hx
    have hends : (isLowercase x || isNumeric x) = true := by simpa [endsBeforeCapital, hx] using h
    rw [continues_block, hends]
    rfl
  have hidentifier := b.toList_identifier
  rw [pascalChars_append_block_of_stop _ hstop] at hidentifier
  obtain ⟨joint, hjoint, hseam⟩ : ∃ joint : String, (joint = "" ∨ joint = "_") ∧
      joint.toList = seam (pascalChars b.paramName.toList).getLast? (some 'B') := by
    rcases seam_eq (pascalChars b.paramName.toList).getLast? 'B' with hseam | hseam
    · exact ⟨"", Or.inl rfl, hseam.symm⟩
    · exact ⟨"_", Or.inr rfl, hseam.symm⟩
  refine ⟨joint, hjoint, ?_, ?_⟩
  · rw [← String.toList_inj, hidentifier, ← hseam, String.toList_append, String.toList_append,
      toList_pascalCase, List.append_assoc]
  · rw [hidentifier, words_append_seam_block, toList_pascalCase]

theorem Block.identifier_of_not_ends (b : Block)
    (h : endsBeforeCapital b.paramName.toList = false) :
    b.declaration.identifier = pascalCase b.paramName ++ "block" := by
  obtain ⟨ws, hws, hname⟩ := b.exists_smallWords
  rcases List.eq_nil_or_concat ws with rfl | ⟨init, w, rfl⟩
  · simp [endsBeforeCapital, hname] at h
  · rw [List.concat_eq_append] at hws hname
    have hw := hws w (by simp)
    have hgo : ∀ x, w.getLast? = some x → continues x "Block".toList = true := by
      intro x hx
      have hplain : (isLowercase x || isNumeric x) = false := by
        rwa [endsBeforeCapital, hname, getLast?_intercalate init w hw.1, hx, Option.all_some] at h
      have hcapital := isCapital_of_isSmall x (hw.2 x (List.mem_of_getLast? hx))
      rw [continues_block, hplain, hcapital]
      rfl
    rw [← String.toList_inj, toList_identifier, hname,
      pascalChars_append_block_of_continues init w hws hgo, String.toList_append,
      toList_pascalCase, hname]

/-- The suffix stays a word of its own, after the name in pascal case, exactly where that
ends in a small letter or a digit as it is read. Otherwise it is the end of the last word. -/
theorem identifier_keeps_suffix_iff (b : Block) :
    (b.NamedWithSuffix ↔ endsBeforeCapital b.paramName.toList = true) ∧
      (endsBeforeCapital b.paramName.toList = false →
        b.declaration.identifier = pascalCase b.paramName ++ "block") := by
  refine ⟨⟨?_, b.namedWithSuffix_of_ends⟩, b.identifier_of_not_ends⟩
  rintro ⟨joint, hjoint, hidentifier, -⟩
  by_contra hends
  rw [b.identifier_of_not_ends (by simpa using hends), String.append_assoc,
    String.append_right_inj] at hidentifier
  rcases hjoint with rfl | rfl
  · exact absurd hidentifier (by decide)
  · exact absurd hidentifier (by decide)

/-- After a letter without case the suffix is not seen to be a word of its own. -/
theorem identifier_of_nihon : ∃ b, Block.parse "日本" = .ok b ∧ b.paramName ≠ "" ∧
    b.declaration.identifier ≠ pascalCase b.paramName ++ "Block" ∧
    b.declaration.identifier ≠ pascalCase b.paramName ++ "_" ++ "Block" :=
  ⟨{ name := "日本" }, by decide +kernel, by decide +kernel, by decide +kernel, by decide +kernel⟩

/-- A single letter takes a low line, and a word of several letters does not. -/
example : ({ name := "a" } : Block).declaration.identifier = "A_Block" ∧
    ({ name := "ab" } : Block).declaration.identifier = "AbBlock" := by
  decide +kernel

end BemNotation
