import BemNotation.Declaration.Printer
import BemNotation.Failure
import BemNotation.Proofs.PascalCase
import Mathlib.Data.List.Basic

/-!
Names of types. The type of a block is named for the block, its words in pascal case and
a suffix after them. Wherever the joined words read back, two types share a name only
when their blocks do, up to letters at the beginning of words that have one capital form.
-/

namespace BemNotation.Naming

open Unicode

/-- The text with the letters at its beginning and after hyphens raised. `begins` tells
whether a word begins with the text. -/
def raiseFrom (begins : Bool) : List Char → List Char
  | [] => []
  | c :: cs => (if begins then raise c else c) :: raiseFrom (c == '-') cs

/-- The name with the first letter of every word raised. -/
def raiseInitials (name : List Char) : List Char :=
  raiseFrom true name

theorem raiseFrom_append (w cs : List Char) (hw : ∀ c ∈ w, isSmall c = true) :
    raiseFrom false (w ++ cs) = w ++ raiseFrom false cs := by
  induction w with
  | nil => rfl
  | cons c w ih =>
    have hc : (c == '-') = false := by simp [ne_hyphen_of_isSmall c (hw c (by simp))]
    rw [List.cons_append, raiseFrom, hc, ih fun d hd => hw d (by simp [hd])]
    rfl

theorem raiseInitials_append (w cs : List Char) (hw : IsSmallWord w) :
    raiseInitials (w ++ cs) = capitalWord w ++ raiseFrom false cs := by
  obtain ⟨hne, hsmall⟩ := hw
  obtain ⟨c, w, rfl⟩ := List.exists_cons_of_ne_nil hne
  have hw : ∀ d ∈ w, isSmall d = true := fun d hd => hsmall d (by simp [hd])
  have hc : (c == '-') = false := by simp [ne_hyphen_of_isSmall c (hsmall c (by simp))]
  rw [capitalWord_of_small c w hw, raiseInitials, List.cons_append, raiseFrom, hc,
    raiseFrom_append w cs hw]
  rfl

/-- Raising the initials of a name puts its words into pascal case. -/
theorem raiseInitials_intercalate (ws : List (List Char)) (h : ∀ w ∈ ws, IsSmallWord w) :
    raiseInitials (List.intercalate ['-'] ws) = List.intercalate ['-'] (ws.map capitalWord) := by
  induction ws with
  | nil => rfl
  | cons w ws ih =>
    cases ws with
    | nil => simpa [raiseFrom] using raiseInitials_append w [] (h w (by simp))
    | cons v ws =>
      rw [List.intercalate_cons_cons, List.append_assoc, raiseInitials_append w _ (h w (by simp)),
        List.map_cons, List.map_cons, List.intercalate_cons_cons, List.append_assoc,
        ← List.map_cons, ← ih fun x hx => h x (by simp [hx])]
      rfl

theorem IsSmallWord.isCapitalWord_capitalWord (w : List Char) (h : IsSmallWord w) :
    IsCapitalWord (capitalWord w) :=
  Naming.isCapitalWord_capitalWord w h.1 fun c hc => ((isSmall_iff c).mp (h.2 c hc)).1

theorem readsBack_append (last : Option Char) (us : List (List Char)) (v : List Char)
    (h : ReadsBack last us) (hv : ∀ c, v.head? = some c → isCapital c = true) :
    ReadsBack last (us ++ [v]) := by
  induction us generalizing last with
  | nil => exact ⟨fun _ c _ hc _ => hv c hc, trivial⟩
  | cons u us ih => exact ⟨h.1, ih _ h.2⟩

/-- How the last word ends plays no part in its reading back. -/
theorem readsBack_extend (last : Option Char) (us : List (List Char)) (u t : List Char)
    (hu : u ≠ []) (h : ReadsBack last (us ++ [u])) : ReadsBack last (us ++ [u ++ t]) := by
  induction us generalizing last with
  | nil =>
    obtain ⟨c, u, rfl⟩ := List.exists_cons_of_ne_nil hu
    exact ⟨h.1, trivial⟩
  | cons v us ih => exact ⟨h.1, ih _ h.2⟩

/-- Whether a capital comes after every hyphen that two words could be joined across
without a low line. -/
def joinsAtCapitals : List Char → Bool
  | x :: y :: c :: cs =>
    (y != '-' || !standsApart x c || isCapital c) && joinsAtCapitals (y :: c :: cs)
  | _ => true

/-- Whether every word of the name that is joined directly to the one before it begins
with a capital there. -/
def hasReadableJoins (name : List Char) : Bool :=
  joinsAtCapitals (raiseInitials name)

theorem joinsAtCapitals_of_append (before cs : List Char)
    (h : joinsAtCapitals (before ++ cs) = true) : joinsAtCapitals cs = true := by
  induction before with
  | nil => exact h
  | cons x before ih =>
    apply ih
    rw [List.cons_append] at h
    generalize before ++ cs = text at h ⊢
    rcases text with _ | ⟨y, _ | ⟨c, text⟩⟩
    · rfl
    · rfl
    · simp only [joinsAtCapitals, Bool.and_eq_true] at h
      exact h.2

theorem readsBack_of_joins (x : Char) (us : List (List Char)) (hus : ∀ u ∈ us, u ≠ [])
    (h : joinsAtCapitals (x :: '-' :: List.intercalate ['-'] us) = true) :
    ReadsBack (some x) us := by
  induction us generalizing x with
  | nil => trivial
  | cons u us ih =>
    obtain ⟨c, w, rfl⟩ := List.exists_cons_of_ne_nil (hus u (by simp))
    obtain ⟨rest, hrest⟩ : ∃ rest, List.intercalate ['-'] ((c :: w) :: us) = c :: rest := by
      cases us with
      | nil => exact ⟨w, by simp⟩
      | cons v us => exact ⟨_, by rw [List.intercalate_cons_cons]; rfl⟩
    constructor
    · rintro _ _ ⟨⟩ ⟨⟩ hapart
      rw [hrest] at h
      simpa [joinsAtCapitals, hapart] using (Bool.and_eq_true_iff.mp h).1
    · cases us with
      | nil => trivial
      | cons v us =>
        obtain ⟨front, y, hword⟩ : ∃ front y, c :: w = front ++ [y] := by
          simpa using List.eq_nil_or_concat (c :: w)
        have hnext : joinsAtCapitals (y :: '-' :: List.intercalate ['-'] (v :: us)) = true := by
          apply joinsAtCapitals_of_append (x :: '-' :: front)
          rw [List.intercalate_cons_cons, hword] at h
          simpa using h
        have hback := ih y (fun u hu => hus u (by simp [hu])) hnext
        rw [hword]
        simpa using hback

/-- Words read back where the name they come from has readable joins. -/
theorem readsBack_of_hasReadableJoins (ws : List (List Char)) (h : ∀ w ∈ ws, IsSmallWord w)
    (hjoins : hasReadableJoins (List.intercalate ['-'] ws) = true) :
    ReadsBack none (ws.map capitalWord) := by
  rw [hasReadableJoins, raiseInitials_intercalate ws h] at hjoins
  have hne : ∀ u ∈ ws.map capitalWord, u ≠ [] := by
    rw [List.forall_mem_map]
    exact fun w hw => ((h w hw).isCapitalWord_capitalWord w).ne_nil
  generalize ws.map capitalWord = us at hjoins hne
  cases us with
  | nil => trivial
  | cons u us =>
    refine ⟨by simp, ?_⟩
    obtain ⟨front, y, rfl⟩ : ∃ front y, u = front ++ [y] := by
      simpa [hne u (by simp)] using List.eq_nil_or_concat u
    cases us with
    | nil => trivial
    | cons v us =>
      rw [List.intercalate_cons_cons, List.append_assoc, List.append_assoc] at hjoins
      have hnext := joinsAtCapitals_of_append front _ hjoins
      simpa using readsBack_of_joins y (v :: us) (fun u hu => hne u (by simp [hu])) hnext

/-- The words of a type: those of the block and the suffix after them. Where nothing
tells the suffix from the last word, the two are one word. -/
inductive Suffixed (us : List (List Char)) : List (List Char) → Prop
  | apart : Suffixed us (us ++ ["Block".toList])
  | merged {init : List (List Char)} {u : List Char} (h : us = init ++ [u]) :
      Suffixed us (init ++ [u ++ "block".toList])

theorem block_toList :
    "Block".toList = ['B', 'l', 'o', 'c', 'k'] ∧ "block".toList = ['b', 'l', 'o', 'c', 'k'] := by
  decide

theorem goesOn_of_mem_block (c : Char) (h : c ∈ ['b', 'l', 'o', 'c', 'k']) : goesOn c = true := by
  have hall : ['b', 'l', 'o', 'c', 'k'].all goesOn = true := by decide
  exact List.all_eq_true.mp hall c h

theorem isCapitalWord_block : IsCapitalWord "Block".toList := by
  rw [block_toList.1]
  exact .mk (by decide) fun c hc => goesOn_of_mem_block c (by simp [hc])

theorem IsCapitalWord.append_block (u : List Char) (h : IsCapitalWord u) :
    IsCapitalWord (u ++ "block".toList) := by
  obtain ⟨hc, hw⟩ := h
  refine .mk hc fun d hd => ?_
  rcases List.mem_append.mp hd with hd | hd
  · exact hw d hd
  · rw [block_toList.2] at hd
    exact goesOn_of_mem_block d hd

theorem Suffixed.isCapitalWord (us xs : List (List Char)) (h : Suffixed us xs)
    (hus : ∀ u ∈ us, IsCapitalWord u) : ∀ x ∈ xs, IsCapitalWord x := by
  intro x hx
  cases h with
  | apart =>
    rcases List.mem_append.mp hx with hx | hx
    · exact hus x hx
    · obtain rfl : x = "Block".toList := by simpa using hx
      exact isCapitalWord_block
  | @merged init u h =>
    subst h
    rcases List.mem_append.mp hx with hx | hx
    · exact hus x (by simp [hx])
    · obtain rfl : x = u ++ "block".toList := by simpa using hx
      exact (hus u (by simp)).append_block

theorem Suffixed.readsBack (us xs : List (List Char)) (h : Suffixed us xs)
    (hus : ∀ u ∈ us, IsCapitalWord u) (hback : ReadsBack none us) : ReadsBack none xs := by
  cases h with
  | apart =>
    refine readsBack_append none us _ hback fun c hc => ?_
    obtain rfl : 'B' = c := by simpa [block_toList.1] using hc
    decide
  | @merged init u h =>
    subst h
    obtain ⟨_, _⟩ := hus u (by simp)
    exact readsBack_extend none init _ _ (by simp) hback

/-- The suffix can be told from what stands before it. -/
theorem Suffixed.unique (us vs xs : List (List Char)) (h : Suffixed us xs) (h' : Suffixed vs xs)
    (hus : ∀ u ∈ us, IsCapitalWord u) (hvs : ∀ v ∈ vs, IsCapitalWord v) : us = vs := by
  have hne (u : List Char) (hu : IsCapitalWord u) : "Block".toList ≠ u ++ "block".toList := by
    obtain ⟨_, _⟩ := hu
    intro heq
    have hlength := congrArg List.length heq
    simp [block_toList] at hlength
  cases h with
  | apart =>
    generalize hxs : us ++ ["Block".toList] = xs at h'
    cases h' with
    | apart => exact (List.append_inj' hxs rfl).1
    | @merged init v h =>
      subst h
      have hlast := (List.append_inj' hxs rfl).2
      exact absurd (List.cons.inj hlast).1 (hne v (hvs v (by simp)))
  | @merged init u h =>
    subst h
    generalize hxs : init ++ [u ++ "block".toList] = xs at h'
    cases h' with
    | apart =>
      have hlast := (List.append_inj' hxs rfl).2
      exact absurd (List.cons.inj hlast).1.symm (hne u (hus u (by simp)))
    | @merged init' v h =>
      subst h
      obtain ⟨hinit, hlast⟩ := List.append_inj' hxs rfl
      rw [hinit, (List.append_left_inj _).mp (List.cons.inj hlast).1]

theorem words_block : words "Block".toList = ["Block".toList] := by
  decide

theorem map_capitalWord_append_block (ws : List (List Char)) :
    (ws ++ ["Block".toList]).map capitalWord = ws.map capitalWord ++ ["Block".toList] := by
  have hblock : capitalWord "Block".toList = "Block".toList := by decide
  rw [List.map_append, List.map_singleton, hblock]

theorem capitalWord_append_block (w : List Char) (h : IsSmallWord w) :
    capitalWord (w ++ "Block".toList) = capitalWord w ++ "block".toList := by
  have hsuffix : ("Block".toList.flatMap lower).filter isWordChar = "block".toList := by
    decide
  rw [capitalWord_append w _ h.1, hsuffix]

/-- After a text that the suffix does not go on with, it is a word of its own. -/
theorem words_append_block_of_stop (cs : List Char)
    (h : ∀ x, cs.getLast? = some x → continues x "Block".toList = false) :
    words (cs ++ "Block".toList) = words cs ++ ["Block".toList] := by
  rw [words_append cs _ h, words_block]

/-- After a small word that it goes on with, the suffix is part of that word. -/
theorem words_append_block_of_continues (init : List (List Char)) (w : List Char)
    (h : ∀ v ∈ init ++ [w], IsSmallWord v)
    (hgo : ∀ x, w.getLast? = some x → continues x "Block".toList = true) :
    words (List.intercalate ['-'] (init ++ [w]) ++ "Block".toList) =
      init ++ [w ++ "Block".toList] := by
  have hw := (h w (by simp)).isCapitalWord
  rw [words_intercalate_append init w _ fun v hv => h v (by simp [hv]),
    hw.words_append_of_continues _ _ _ [] hgo words_block]

/-- The words of a type name are those of the block with the suffix. -/
theorem suffixed_words (ws : List (List Char)) (h : ∀ w ∈ ws, IsSmallWord w) :
    Suffixed (ws.map capitalWord)
      ((words (List.intercalate ['-'] ws ++ "Block".toList)).map capitalWord) := by
  by_cases hstop : ∀ x, (List.intercalate ['-'] ws).getLast? = some x →
      continues x "Block".toList = false
  · rw [words_append_block_of_stop _ hstop, words_intercalate ws h, map_capitalWord_append_block]
    exact .apart
  · rcases List.eq_nil_or_concat ws with rfl | ⟨init, w, rfl⟩
    · simp at hstop
    · rw [List.concat_eq_append] at h hstop ⊢
      have hw := h w (by simp)
      rw [getLast?_intercalate init w hw.1] at hstop
      have hgo : ∀ x, w.getLast? = some x → continues x "Block".toList = true := by
        intro x hx
        by_contra hfalse
        exact hstop fun y hy => by simp_all
      rw [words_append_block_of_continues init w h hgo, List.map_append, List.map_append,
        List.map_singleton, List.map_singleton, capitalWord_append_block w hw]
      exact .merged rfl

theorem isWordChar_of_mem_capitalWord (w : List Char) (h : IsCapitalWord w) :
    ∀ c ∈ w, isWordChar c = true := by
  obtain ⟨hc, hw⟩ := h
  intro d hd
  rcases List.mem_cons.mp hd with rfl | hd
  · exact hc
  · exact isWordChar_of_goesOn d (hw d hd)

end BemNotation.Naming

namespace BemNotation

open Naming Unicode

theorem isIdentifierPart_of_mem_joinWords (last : Option Char) (ws : List (List Char))
    (hws : ∀ w ∈ ws, IsCapitalWord w) : ∀ c ∈ joinWords last ws, isIdentifierPart c = true := by
  induction ws generalizing last with
  | nil => simp [joinWords]
  | cons w ws ih =>
    intro d hd
    obtain ⟨c, w, rfl⟩ : ∃ c rest, w = c :: rest := by
      obtain ⟨_, _⟩ := hws w (by simp)
      exact ⟨_, _, rfl⟩
    rw [joinWords, List.mem_append, List.mem_append] at hd
    rcases hd with (hd | hd) | hd
    · obtain rfl : d = '_' := by
        rcases seam_eq last c with hseam | hseam <;> simp_all
      decide
    · simp [isIdentifierPart, isWordChar_of_mem_capitalWord _ (hws _ (by simp)) d hd]
    · exact ih _ (fun v hv => hws v (by simp [hv])) d hd

theorem typeIdentifier_of_parts (c : Char) (cs : List Char)
    (h : ∀ d ∈ c :: cs, isIdentifierPart d = true) :
    typeIdentifier (c :: cs) = if isIdentifierStart c then c :: cs else '_' :: c :: cs := by
  have hfitted : (c :: cs).map (fun d => if isIdentifierPart d then d else '_') = c :: cs := by
    rw [List.map_congr_left fun d hd => if_pos (h d hd), List.map_id']
  unfold typeIdentifier
  rw [hfitted]

/-- Fitting joined words to be a type name keeps them apart. -/
theorem typeIdentifier_joinWords_inj (us vs : List (List Char)) (hus : ∀ u ∈ us, IsCapitalWord u)
    (hvs : ∀ v ∈ vs, IsCapitalWord v) (hne : us ≠ []) (hne' : vs ≠ [])
    (h : typeIdentifier (joinWords none us) = typeIdentifier (joinWords none vs)) :
    joinWords none us = joinWords none vs := by
  have hstart (ws : List (List Char)) (hws : ∀ w ∈ ws, IsCapitalWord w) (hne : ws ≠ []) :
      ∃ c cs, joinWords none ws = c :: cs ∧ c ≠ '_' := by
    obtain ⟨w, ws, rfl⟩ := List.exists_cons_of_ne_nil hne
    obtain ⟨hc, _⟩ := hws w (by simp)
    exact ⟨_, _, joinWords_cons none _ _ ws, ne_of_isWordChar _ '_' hc isWordChar_lowLine⟩
  have hparts := isIdentifierPart_of_mem_joinWords none us hus
  have hparts' := isIdentifierPart_of_mem_joinWords none vs hvs
  obtain ⟨c, cs, hcs, hc⟩ := hstart us hus hne
  obtain ⟨d, ds, hds, hd⟩ := hstart vs hvs hne'
  rw [hcs] at h hparts ⊢
  rw [hds] at h hparts' ⊢
  rw [typeIdentifier_of_parts c cs hparts, typeIdentifier_of_parts d ds hparts'] at h
  split at h <;> split at h
  case isTrue.isTrue => exact h
  case isTrue.isFalse => exact absurd (List.cons.inj h).1 hc
  case isFalse.isTrue => exact absurd (List.cons.inj h).1.symm hd
  case isFalse.isFalse => exact (List.cons.inj h).2

theorem Block.exists_smallWords (b : Block) :
    ∃ ws, (∀ w ∈ ws, IsSmallWord w) ∧ b.paramName.toList = List.intercalate ['-'] ws := by
  obtain ⟨ws, hws, hname⟩ := Naming.exists_smallWords b.name.toList
  exact ⟨ws, hws, by simpa [paramName, paramCase] using hname⟩

/-- The words of the block and those of its type. -/
theorem Block.exists_typeWords (b : Block) :
    ∃ ws xs, (∀ w ∈ ws, IsSmallWord w) ∧ b.paramName.toList = List.intercalate ['-'] ws ∧
      Suffixed (ws.map capitalWord) xs ∧ b.declaration.identifier.toList = joinWords none xs := by
  obtain ⟨ws, hws, hname⟩ := b.exists_smallWords
  refine ⟨ws, _, hws, hname, suffixed_words ws hws, ?_⟩
  simp [declaration, pascalCase, pascalChars, hname]

/-- Blocks whose names differ once their initials are raised have types of different
names, wherever the words of both names read back. -/
theorem typeIdentifier_ne (a b : Block) (ha : hasReadableJoins a.paramName.toList = true)
    (hb : hasReadableJoins b.paramName.toList = true)
    (h : raiseInitials a.paramName.toList ≠ raiseInitials b.paramName.toList) :
    typeIdentifier a.declaration.identifier.toList ≠
      typeIdentifier b.declaration.identifier.toList := by
  obtain ⟨us, xs, hus, hname, hxs, hidentifier⟩ := a.exists_typeWords
  obtain ⟨vs, ys, hvs, hname', hys, hidentifier'⟩ := b.exists_typeWords
  have hcapital : ∀ u ∈ us.map capitalWord, IsCapitalWord u :=
    List.forall_mem_map.mpr fun w hw => (hus w hw).isCapitalWord_capitalWord w
  have hcapital' : ∀ v ∈ vs.map capitalWord, IsCapitalWord v :=
    List.forall_mem_map.mpr fun w hw => (hvs w hw).isCapitalWord_capitalWord w
  rw [hname] at ha h
  rw [hname'] at hb h
  rw [raiseInitials_intercalate us hus, raiseInitials_intercalate vs hvs] at h
  have hback := hxs.readsBack _ xs hcapital (readsBack_of_hasReadableJoins us hus ha)
  have hback' := hys.readsBack _ ys hcapital' (readsBack_of_hasReadableJoins vs hvs hb)
  intro heq
  rw [hidentifier, hidentifier'] at heq
  have hjoined := typeIdentifier_joinWords_inj xs ys (hxs.isCapitalWord _ _ hcapital)
    (hys.isCapitalWord _ _ hcapital') (by cases hxs <;> simp) (by cases hys <;> simp) heq
  obtain rfl := joinWords_inj none xs ys (hxs.isCapitalWord _ _ hcapital)
    (hys.isCapitalWord _ _ hcapital') hback hback' hjoined
  exact h (by rw [hxs.unique _ _ _ hys hcapital hcapital'])

/-- A digit that is a word of its own makes another type than one inside a word. -/
theorem typeIdentifier_ne_version :
    let a : Block := { name := "version-2" }
    let b : Block := { name := "version2" }
    hasReadableJoins a.paramName.toList = true ∧ hasReadableJoins b.paramName.toList = true ∧
      raiseInitials a.paramName.toList ≠ raiseInitials b.paramName.toList ∧
      typeIdentifier a.declaration.identifier.toList ≠
        typeIdentifier b.declaration.identifier.toList := by
  intro a b
  have ha : hasReadableJoins a.paramName.toList = true := by decide +kernel
  have hb : hasReadableJoins b.paramName.toList = true := by decide +kernel
  have hne : raiseInitials a.paramName.toList ≠ raiseInitials b.paramName.toList := by
    decide +kernel
  exact ⟨ha, hb, hne, typeIdentifier_ne a b ha hb hne⟩

/-- The small letters `s` and `ſ` have one capital form, so raising them joins two names. -/
theorem typeIdentifier_eq_long_s : ∃ a b : Block,
    Block.parse "s" = .ok a ∧ Block.parse "ſ" = .ok b ∧ a.paramName ≠ b.paramName ∧
      typeIdentifier a.declaration.identifier.toList =
        typeIdentifier b.declaration.identifier.toList :=
  ⟨{ name := "s" }, { name := "ſ" }, by decide +kernel, by decide +kernel, by decide +kernel,
    by decide +kernel⟩

/-- A letter without a capital form runs into the word before it. -/
example : hasReadableJoins "ab-中".toList = false ∧
    pascalChars "ab-中".toList = pascalChars "ab中".toList := by
  decide +kernel

end BemNotation
