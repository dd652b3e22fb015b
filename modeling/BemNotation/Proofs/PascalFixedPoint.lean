import BemNotation.Proofs.PascalCase
import BemNotation.Unicode.Titlecase
import Mathlib.Data.List.Chain

/-!
Pascal case as a fixed point. When joined words are read again, each word that begins with
a capital or after a low line is found again. A word that is joined directly and begins with
another letter becomes part of the word before it, and that letter is lowered. Only titlecase
letters have a small form without being capitals. So writing joined words once more changes
nothing exactly where no titlecase letter begins a word that is joined directly.
-/

namespace BemNotation.Unicode

/-- Whether all code points of `s` are among those of `r`, as seen from ends and steps. -/
def Run.includes (r s : Run) : Bool :=
  Nat.ble r.first s.first && Nat.ble s.last r.last && Nat.beq ((s.first - r.first) % r.step) 0 &&
    Nat.beq (s.step % r.step) 0

theorem Run.holds_of_includes (r s : Run) (n : Nat) (h : r.includes s = true)
    (hn : s.holds n = true) : r.holds n = true := by
  simp only [includes, Bool.and_eq_true, Nat.ble_eq, Nat.beq_eq] at h
  obtain ⟨⟨⟨hfirst, hlast⟩, hstart⟩, hstep⟩ := h
  simp only [holds, Bool.and_eq_true, decide_eq_true_eq, beq_iff_eq] at hn ⊢
  obtain ⟨⟨hlow, hhigh⟩, hmod⟩ := hn
  have hwithin : r.step ∣ n - s.first :=
    Nat.dvd_trans (Nat.dvd_of_mod_eq_zero hstep) (Nat.dvd_of_mod_eq_zero hmod)
  have hsum : n - r.first = (n - s.first) + (s.first - r.first) := by omega
  refine ⟨⟨by omega, by omega⟩, ?_⟩
  rw [hsum]
  exact Nat.mod_eq_zero_of_dvd (Nat.dvd_add hwithin (Nat.dvd_of_mod_eq_zero hstart))

/-- A capital form has no other capital form. -/
theorem raise_raise (c : Char) : raise (raise c) = raise c := by
  cases hs : shifted raising c.toNat with
  | none =>
    have hraise : raise c = c := by simp [raise, hs]
    rw [hraise, hraise]
  | some m =>
    have hsettled := shifted_eq_none_of_shifted raising (by decide +kernel) c.toNat m hs
    have hnat := toNat_ofNat_of_covers_alphabetic m (Naming.covers_alphabetic_of_raised _ m hs)
    have hraise : raise c = Char.ofNat m := by simp [raise, hs]
    rw [hraise, raise, hnat, hsettled]

/-- What has a small form is a capital or a titlecase letter. -/
theorem isUppercase_or_isTitlecase (c : Char) (h : lower c ≠ [c]) :
    isUppercase c = true ∨ isTitlecase c = true := by
  have hcased : lowering.all (fun s => (uppercase.runs.any fun r => r.includes s.run) ||
      s.run.points.all fun n => uppercase.covers n || titlecase.covers n) = true := by
    decide +kernel
  by_cases hdotted : c = 'İ'
  · subst hdotted
    exact Or.inl (by decide)
  · cases hs : shifted lowering c.toNat with
    | none => simp [lower, hdotted, lowerOne, hs] at h
    | some m =>
      obtain ⟨s, hmem, hn, -⟩ := exists_shift_of_shifted lowering _ m hs
      rcases Bool.or_eq_true_iff.mp (List.all_eq_true.mp hcased s hmem) with hincluded | hpoints
      · obtain ⟨r, hr, hincludes⟩ := List.any_eq_true.mp hincluded
        exact Or.inl ((uppercase.covers_iff _).mpr ⟨r, hr, r.holds_of_includes _ _ hincludes hn⟩)
      · exact Bool.or_eq_true_iff.mp
          (List.all_eq_true.mp hpoints _ (s.run.mem_points_of_holds _ hn))

/-- Titlecase letters are no capitals, but they have a small form. -/
theorem lower_ne_of_isTitlecase (c : Char) (h : isTitlecase c = true) :
    isUppercase c = false ∧ lower c ≠ [c] := by
  have hpoint := titlecase.of_covers
    (fun n => !uppercase.covers n && lower (Char.ofNat n) != [Char.ofNat n])
    (by decide +kernel) c.toNat h
  simpa [isUppercase] using hpoint

end BemNotation.Unicode

namespace BemNotation.Naming

open Unicode

theorem isCapital_or_isSmall (c : Char) (hc : isWordChar c = true)
    (h : isTitlecase c = false) : isCapital c = true ∨ isSmall c = true := by
  by_cases hlower : lower c = [c]
  · exact Or.inr ((isSmall_iff c).mpr ⟨hc, hlower⟩)
  · have hupper : isUppercase c = true := by simpa [h] using isUppercase_or_isTitlecase c hlower
    exact Or.inl (by simp [isCapital, hupper, hlower])

/-- A word as pascal case writes it. -/
structure IsPascalWord (w : List Char) : Prop where
  isCapitalWord : IsCapitalWord w
  capitalWord_eq : capitalWord w = w

theorem isPascalWord_capitalWord (w : List Char) (hne : w ≠ [])
    (h : ∀ c ∈ w, isWordChar c = true) : IsPascalWord (capitalWord w) := by
  refine ⟨isCapitalWord_capitalWord w hne h, ?_⟩
  obtain ⟨c, w, rfl⟩ := List.exists_cons_of_ne_nil hne
  rw [capitalWord, capitalWord_of_small _ _ fun d hd => isSmall_of_mem_tail w d hd, raise_raise]

theorem IsPascalWord.raise_eq (d : Char) (w : List Char) (h : IsPascalWord (d :: w)) :
    raise d = d :=
  (List.cons.inj h.capitalWord_eq).1

/-- Whether the second of two words is joined to the first directly and begins with a
titlecase letter. -/
def losesInitial (u v : List Char) : Bool :=
  match u.getLast?, v.head? with
  | some x, some d => standsApart x d && isTitlecase d
  | _, _ => false

theorem words_joinWords_cons (last : Option Char) (u : List Char) (us : List (List Char))
    (hu : u ≠ []) :
    words (joinWords last (u :: us)) = words (u ++ joinWords u.getLast? us) := by
  obtain ⟨c, u, rfl⟩ := List.exists_cons_of_ne_nil hu
  rw [joinWords_cons, words_seam_append, List.getLast?_eq_some_getLast (by simp)]
  rfl

theorem joinWords_cons_inj (last : Option Char) (u : List Char) (vs ws : List (List Char))
    (hu : u ≠ []) : joinWords last (u :: vs) = joinWords last (u :: ws) ↔
      joinWords u.getLast? vs = joinWords u.getLast? ws := by
  rw [joinWords, joinWords, List.append_right_inj, List.getLast?_eq_some_getLast hu,
    Option.some_or]

/-- Words that are joined directly are joined as one. -/
theorem joinWords_glued (last : Option Char) (u v : List Char) (ws : List (List Char))
    (hu : u ≠ []) (hv : v ≠ []) (h : seam u.getLast? v.head? = []) :
    joinWords last ((u ++ v) :: ws) = joinWords last (u :: v :: ws) := by
  obtain ⟨c, u, rfl⟩ := List.exists_cons_of_ne_nil hu
  rw [joinWords, joinWords, joinWords, List.getLast?_append, List.getLast?_eq_some_getLast hv,
    List.getLast?_eq_some_getLast hu, Option.some_or, Option.some_or, Option.some_or,
    ← List.getLast?_eq_some_getLast hu, h]
  simp

/-- What a word leaves in small letters begins with one. -/
theorem exists_isSmall_head (d : Char) (w : List Char) (hd : isWordChar d = true) :
    ∃ e rest, ((d :: w).flatMap lower).filter isWordChar = e :: rest ∧ isSmall e = true := by
  obtain ⟨e, he, hword⟩ := exists_isWordChar_mem_lower d hd
  have hmem : e ∈ ((d :: w).flatMap lower).filter isWordChar :=
    List.mem_filter.mpr ⟨List.mem_flatMap.mpr ⟨d, by simp, he⟩, hword⟩
  obtain ⟨first, rest, hcons⟩ := List.exists_cons_of_ne_nil (List.ne_nil_of_mem hmem)
  exact ⟨first, rest, hcons, isSmall_of_mem_tail (d :: w) first (hcons ▸ List.mem_cons_self)⟩

section Rejoined

variable (last : Option Char) (u t : List Char) (x d : Char) (us : List (List Char))
variable (hu : IsPascalWord u) (hx : u.getLast? = some x)

include hu hx

/-- A word goes on into one that is joined to it directly and begins with no capital. -/
theorem exists_words_glued (hd : isWordChar d = true) (hapart : standsApart x d = true)
    (hcapital : isCapital d = false) :
    ∃ w rest, words (joinWords (some x) ((d :: t) :: us)) = (d :: w) :: rest ∧
      words (u ++ joinWords (some x) ((d :: t) :: us)) = (u ++ d :: w) :: rest := by
  have hseam : seam (some x) (some d) = [] := by simp [seam, hapart]
  rw [joinWords_cons, hseam, List.nil_append]
  obtain ⟨w, rest, hwords⟩ := exists_words_cons d
    (t ++ joinWords (some ((d :: t).getLast (by simp))) us) hd
  refine ⟨w, rest, hwords, hu.isCapitalWord.words_append_of_continues u _ _ _ ?_ hwords⟩
  intro y hy
  obtain rfl : x = y := by simpa [hx] using hy
  exact continues_of_goesOn x d _ (by simp [goesOn, hd, hcapital])

theorem words_set_off (h : standsApart x d = true → isCapital d = true) :
    words (u ++ joinWords (some x) ((d :: t) :: us)) =
      u :: words (joinWords (some x) ((d :: t) :: us)) := by
  apply hu.isCapitalWord.words_append_of_stop u
  intro y hy
  obtain rfl : x = y := by simpa [hx] using hy
  rw [joinWords_cons, seam]
  split
  case isTrue hapart => exact continues_of_standsApart x d _ hapart (h hapart)
  case isFalse => simp [continues, isWordChar_lowLine]

/-- Unless the second word loses its initial, the first is written as before, whether or
not the second is still a word of its own. -/
theorem rejoined_of_keeps (hd : isWordChar d = true) (hraise : raise d = d)
    (h : standsApart x d = true → isTitlecase d = false) :
    joinWords last ((words (joinWords last (u :: (d :: t) :: us))).map capitalWord) =
      joinWords last (u :: (words (joinWords (some x) ((d :: t) :: us))).map capitalWord) := by
  have hne := hu.isCapitalWord.ne_nil
  rw [words_joinWords_cons last u _ hne, hx]
  by_cases hset : standsApart x d = true → isCapital d = true
  · rw [words_set_off u t x d us hu hx hset, List.map_cons, hu.capitalWord_eq]
  · obtain ⟨hapart, hcapital⟩ : standsApart x d = true ∧ isCapital d = false := by
      simpa using hset
    have hsmall : isSmall d = true := by
      simpa [hcapital] using isCapital_or_isSmall d hd (h hapart)
    obtain ⟨w, rest, hwords, hall⟩ := exists_words_glued u t x d us hu hx hd hapart hcapital
    -- The initial is small, so it is written in the middle of a word as at its beginning.
    have hglued : capitalWord (u ++ d :: w) = u ++ capitalWord (d :: w) := by
      rw [capitalWord_append u _ hne, hu.capitalWord_eq, capitalWord, hraise, List.flatMap_cons,
        ((isSmall_iff d).mp hsmall).2, List.singleton_append, List.filter_cons_of_pos hd]
    have hseam : seam u.getLast? (capitalWord (d :: w)).head? = [] := by
      simp [hx, capitalWord, hraise, seam, hapart]
    rw [hall, hwords, List.map_cons, List.map_cons, hglued,
      joinWords_glued last u _ _ hne (by simp [capitalWord]) hseam]

/-- Where the second word loses its initial, the text changes there. -/
theorem rejoined_ne_of_loses (hd : isWordChar d = true) (hapart : standsApart x d = true)
    (h : isTitlecase d = true) :
    joinWords last ((words (joinWords last (u :: (d :: t) :: us))).map capitalWord) ≠
      joinWords last (u :: (d :: t) :: us) := by
  have hne := hu.isCapitalWord.ne_nil
  obtain ⟨hupper, hlower⟩ := lower_ne_of_isTitlecase d h
  have hcapital : isCapital d = false := by simp [isCapital, hupper]
  obtain ⟨w, rest, -, hall⟩ := exists_words_glued u t x d us hu hx hd hapart hcapital
  obtain ⟨e, small, hsmall, he⟩ := exists_isSmall_head d w hd
  have hseam : seam (some x) (some d) = [] := by simp [seam, hapart]
  have hhead : (u ++ e :: small).head? = u.head? := by
    rw [List.head?_append, List.head?_eq_some_head hne, Option.some_or]
  rw [words_joinWords_cons last u _ hne, hx, hall, List.map_cons, capitalWord_append u _ hne,
    hu.capitalWord_eq, hsmall, joinWords, joinWords, hx, Option.some_or, joinWords_cons, hseam, hhead]
  intro heq
  rw [List.append_assoc, List.append_assoc, List.append_assoc, List.append_right_inj,
    List.append_right_inj] at heq
  obtain rfl : e = d := (List.cons.inj heq).1
  exact hlower ((isSmall_iff e).mp he).2

end Rejoined

/-- Joined words are written again as they are exactly if none of them loses its initial. -/
theorem rejoined_eq_iff (last : Option Char) (us : List (List Char))
    (hus : ∀ u ∈ us, IsPascalWord u) :
    joinWords last ((words (joinWords last us)).map capitalWord) = joinWords last us ↔
      us.IsChain fun u v => losesInitial u v = false := by
  induction us generalizing last with
  | nil => simp [joinWords, words]
  | cons u us ih =>
    have hu := hus u (by simp)
    have hne := hu.isCapitalWord.ne_nil
    cases us with
    | nil =>
      rw [words_joinWords_cons last u [] hne, joinWords, List.append_nil,
        hu.isCapitalWord.words_eq, List.map_singleton, hu.capitalWord_eq]
      simp
    | cons v us =>
      have hv := hus v (by simp)
      obtain ⟨x, hx⟩ : ∃ x, u.getLast? = some x := ⟨_, List.getLast?_eq_some_getLast hne⟩
      obtain ⟨d, t, rfl⟩ := List.exists_cons_of_ne_nil hv.isCapitalWord.ne_nil
      have hd : isWordChar d = true := by
        obtain ⟨hd, -⟩ := hv.isCapitalWord
        exact hd
      have hloses : losesInitial u (d :: t) = (standsApart x d && isTitlecase d) := by
        simp [losesInitial, hx]
      rw [List.isChain_cons_cons, hloses]
      cases hcase : standsApart x d && isTitlecase d with
      | true =>
        obtain ⟨hapart, htitle⟩ := Bool.and_eq_true_iff.mp hcase
        simpa using rejoined_ne_of_loses last u t x d us hu hx hd hapart htitle
      | false =>
        have hkeeps : standsApart x d = true → isTitlecase d = false := by simpa using hcase
        rw [rejoined_of_keeps last u t x d us hu hx hd hv.raise_eq hkeeps,
          joinWords_cons_inj last u _ _ hne, hx, ih (some x) fun w hw => hus w (by simp [hw])]
        simp

theorem isPascalWord_of_mem_words (cs w : List Char) (hw : w ∈ (words cs).map capitalWord) :
    IsPascalWord w := by
  obtain ⟨v, hv, rfl⟩ := List.mem_map.mp hw
  exact isPascalWord_capitalWord v (ne_nil_of_mem_words hv) (isWordChar_of_mem_words cs v hv)

/-- Pascal case is a fixed point of itself exactly where no word that is joined directly
begins with a titlecase letter. -/
theorem pascalCase_pascalCase_iff (s : String) :
    pascalCase (pascalCase s) = pascalCase s ↔
      ((words s.toList).map capitalWord).IsChain fun u v => losesInitial u v = false := by
  rw [← rejoined_eq_iff none _ (isPascalWord_of_mem_words s.toList), pascalCase, pascalCase,
    String.toList_ofList, String.ofList_inj]
  rfl

/-- The iota letter `ᾈ` has no capital form of one character, and lowering writes it `ᾀ`. -/
theorem pascalCase_pascalCase_ne : pascalCase (pascalCase "ab-ᾈ") ≠ pascalCase "ab-ᾈ" := by
  decide +kernel

/-- Set off by a low line it stays. -/
example : pascalCase "a-ᾈ" = "A_ᾈ" ∧ pascalCase "A_ᾈ" = "A_ᾈ" := by
  decide +kernel

end BemNotation.Naming
