import BemNotation.Naming.Case
import BemNotation.Source.Token

/-!
Facts about single characters that hold over all of Unicode. A run of a table has
finitely many code points, so what a table covers can be checked point by point.
No name character is white space, the classes of the notation are told apart by
those two properties and six characters, and changing the case of a letter or digit
leaves a letter or digit.
-/

namespace BemNotation.Unicode

/-- The code points of a run, one after the other. -/
def Run.points (r : Run) : List Nat :=
  (List.range ((r.last - r.first) / r.step + 1)).map fun k => r.first + r.step * k

theorem Run.mem_points_of_holds (r : Run) (n : Nat) (h : r.holds n = true) : n ∈ r.points := by
  simp only [Run.holds, Bool.and_eq_true, decide_eq_true_eq, beq_iff_eq] at h
  obtain ⟨⟨hfirst, hlast⟩, hstep⟩ := h
  have hle : (n - r.first) / r.step ≤ (r.last - r.first) / r.step :=
    Nat.div_le_div_right (by omega)
  have hback : r.step * ((n - r.first) / r.step) = n - r.first :=
    Nat.mul_div_cancel' (Nat.dvd_of_mod_eq_zero hstep)
  exact List.mem_map.mpr ⟨(n - r.first) / r.step, List.mem_range.mpr (by omega), by omega⟩

/-- What holds at every point of a table holds wherever the table reaches. -/
theorem Table.of_covers (t : Table) (p : Nat → Bool)
    (hall : t.runs.all (fun r => r.points.all p) = true) (n : Nat) (h : t.covers n = true) :
    p n = true := by
  obtain ⟨r, hr, hn⟩ := (t.covers_iff n).mp h
  have hpoints := List.all_eq_true.mp hall r hr
  exact List.all_eq_true.mp hpoints n (r.mem_points_of_holds n hn)

theorem exists_shift_of_shifted (ss : List Shift) (n m : Nat) (h : shifted ss n = some m) :
    ∃ s ∈ ss, s.run.holds n = true ∧ s.target + (n - s.run.first) = m := by
  induction ss with
  | nil => simp [shifted] at h
  | cons s ss ih =>
    unfold shifted at h
    split at h
    · simp at h
    · split at h
      · split at h
        · exact ⟨s, by simp, by simp_all [Run.holds], by simpa using h⟩
        · simp at h
      · obtain ⟨t, ht, hn⟩ := ih h
        exact ⟨t, by simp [ht], hn⟩

/-- Whether the run holds every code point from `low` to `high`. -/
def Run.spans (r : Run) (low high : Nat) : Bool :=
  Nat.ble high r.last && Nat.ble r.first low && Nat.beq r.step 1

theorem Table.covers_of_spans (t : Table) (low high : Nat)
    (hany : t.runs.any (fun r => r.spans low high) = true) (n : Nat) (hlow : low ≤ n)
    (hhigh : n ≤ high) : t.covers n = true := by
  obtain ⟨r, hr, hspans⟩ := List.any_eq_true.mp hany
  simp only [Run.spans, Bool.and_eq_true, Nat.ble_eq, Nat.beq_eq] at hspans
  obtain ⟨⟨hlast, hfirst⟩, hstep⟩ := hspans
  refine (t.covers_iff n).mpr ⟨r, hr, ?_⟩
  simp only [Run.holds, hstep, Nat.mod_one, Bool.and_eq_true, decide_eq_true_eq]
  exact ⟨⟨by omega, by omega⟩, rfl⟩

/-- Whether every run of the first table lies within a run of the second or is exempt.
Both tables are walked side by side. -/
def LiesWithin (exempt : Run → Bool) : List Run → List Run → Bool
  | [], _ => true
  | r :: rs, ss =>
    match ss.dropWhile fun s => Nat.blt s.last r.first with
    | [] => exempt r && LiesWithin exempt rs []
    | s :: rest => (s.spans r.first r.last || exempt r) && LiesWithin exempt rs (s :: rest)

theorem spans_or_exempt_of_liesWithin (exempt : Run → Bool) (rs ss : List Run)
    (h : LiesWithin exempt rs ss = true) :
    ∀ r ∈ rs, (ss.any fun s => s.spans r.first r.last) = true ∨ exempt r = true := by
  induction rs generalizing ss with
  | nil => simp
  | cons t rs ih =>
    have hmem := (ss.dropWhile_sublist fun s => Nat.blt s.last t.first).subset
    unfold LiesWithin at h
    split at h
    case h_1 =>
      rw [Bool.and_eq_true] at h
      intro r hr
      rcases List.mem_cons.mp hr with rfl | hr
      · exact Or.inr h.1
      · rcases ih _ h.2 r hr with hany | hexempt
        · simp at hany
        · exact Or.inr hexempt
    case h_2 s rest hdrop =>
      rw [hdrop] at hmem
      rw [Bool.and_eq_true, Bool.or_eq_true] at h
      intro r hr
      rcases List.mem_cons.mp hr with rfl | hr
      · exact h.1.imp (fun hspans => List.any_eq_true.mpr ⟨s, hmem (by simp), hspans⟩) id
      · refine (ih _ h.2 r hr).imp (fun hany => ?_) id
        obtain ⟨u, hu, hspans⟩ := List.any_eq_true.mp hany
        exact List.any_eq_true.mpr ⟨u, hmem hu, hspans⟩

/-- What one table covers is covered by the other, apart from the exempt runs. -/
theorem Table.covers_or_exempt (t u : Table) (exempt : Run → Bool)
    (h : LiesWithin exempt t.runs u.runs = true) (n : Nat) (hn : t.covers n = true) :
    u.covers n = true ∨ ∃ r, exempt r = true ∧ r.holds n = true := by
  obtain ⟨r, hr, hholds⟩ := (t.covers_iff n).mp hn
  rcases spans_or_exempt_of_liesWithin exempt _ _ h r hr with hspanned | hexempt
  · simp only [Run.holds, Bool.and_eq_true, decide_eq_true_eq] at hholds
    exact Or.inl (u.covers_of_spans _ _ hspanned n hholds.1.1 hholds.1.2)
  · exact Or.inr ⟨r, hexempt, hholds⟩

/-- Where the characters of a shift go. -/
def Shift.image (s : Shift) : Run :=
  ⟨s.target, s.target + (s.run.last - s.run.first), s.run.step⟩

theorem Shift.holds_image (s : Shift) (n : Nat) (h : s.run.holds n = true) :
    s.image.holds (s.target + (n - s.run.first)) = true := by
  simp only [Run.holds, Bool.and_eq_true, decide_eq_true_eq] at h ⊢
  simp only [image, Nat.add_sub_cancel_left]
  exact ⟨⟨Nat.le_add_right _ _, by omega⟩, h.2⟩

/-- Whether all code points of the run are even, or all are odd. -/
def Run.isUniform (r : Run) : Bool :=
  Nat.beq r.step 2 || Nat.beq r.first r.last

theorem Run.mod_two_of_isUniform (r : Run) (n : Nat) (hr : r.isUniform = true)
    (h : r.holds n = true) : n % 2 = r.first % 2 := by
  simp only [isUniform, Bool.or_eq_true, Nat.beq_eq] at hr
  simp only [holds, Bool.and_eq_true, decide_eq_true_eq, beq_iff_eq] at h
  obtain ⟨⟨hfirst, hlast⟩, hstep⟩ := h
  rcases hr with htwo | hone
  · rw [htwo] at hstep
    omega
  · have hn : n = r.first := by omega
    rw [hn]

/-- Whether one run ends before the other begins, or one is even and the other odd. -/
def Run.isApart (r s : Run) : Bool :=
  Nat.blt r.last s.first || Nat.blt s.last r.first ||
    (r.isUniform && s.isUniform && Nat.beq ((r.first + s.first) % 2) 1)

theorem Run.not_holds_of_isApart (r s : Run) (n : Nat) (h : r.isApart s = true)
    (hr : r.holds n = true) : s.holds n = false := by
  rw [← Bool.not_eq_true]
  intro hs
  simp only [isApart, Bool.or_eq_true, Bool.and_eq_true, Nat.blt_eq, Nat.beq_eq] at h
  rcases h with hrange | ⟨⟨hruniform, hsuniform⟩, hparity⟩
  · simp only [holds, Bool.and_eq_true, decide_eq_true_eq] at hr hs
    omega
  · have hrmod := r.mod_two_of_isUniform n hruniform hr
    have hsmod := s.mod_two_of_isUniform n hsuniform hs
    omega

theorem isValidChar_of_covers_alphabetic (n : Nat) (h : alphabetic.covers n = true) :
    n.isValidChar := by
  obtain ⟨r, hr, hn⟩ := (alphabetic.covers_iff n).mp h
  have hall : alphabetic.runs.all (fun r => Nat.ble r.last 0xD7FF ||
      (Nat.ble 0xE000 r.first && Nat.ble r.last 0x10FFFF)) = true := by decide +kernel
  have hrun := List.all_eq_true.mp hall r hr
  simp only [Bool.or_eq_true, Bool.and_eq_true, Nat.ble_eq] at hrun
  simp only [Run.holds, Bool.and_eq_true, decide_eq_true_eq] at hn
  unfold Nat.isValidChar
  omega

theorem toNat_ofNat_of_covers_alphabetic (n : Nat) (h : alphabetic.covers n = true) :
    (Char.ofNat n).toNat = n := by
  unfold Char.ofNat
  rw [dif_pos (isValidChar_of_covers_alphabetic n h)]
  rfl

/-- The character of a letter's code point is that letter. -/
theorem isAlphabetic_ofNat (n : Nat) (h : alphabetic.covers n = true) :
    isAlphabetic (Char.ofNat n) = true := by
  unfold isAlphabetic
  rw [toNat_ofNat_of_covers_alphabetic n h]
  exact h

/-- Whether a text cannot make a run of such characters before it longer. -/
def Stops (p : Char → Bool) (cs : List Char) : Prop := ∀ c rest, cs = c :: rest → p c = false

theorem stops_nil (p : Char → Bool) : Stops p [] := by simp [Stops]

theorem stops_cons (p : Char → Bool) (c : Char) (cs : List Char) (h : p c = false) :
    Stops p (c :: cs) := by
  intro d rest heq
  rwa [← (List.cons.inj heq).1]

/-- A run of such characters ends where the text after it stops. -/
theorem takeWhile_append_of_stops (p : Char → Bool) (run cs : List Char) (hcs : Stops p cs)
    (hrun : ∀ c ∈ run, p c = true) :
    (run ++ cs).takeWhile p = run ∧ (run ++ cs).dropWhile p = cs := by
  rw [List.takeWhile_append_of_pos hrun, List.dropWhile_append_of_pos hrun]
  cases cs with
  | nil => simp
  | cons c cs => simp [hcs c cs rfl]

end BemNotation.Unicode

namespace BemNotation.Naming

open Unicode

theorem ne_of_isWordChar (c d : Char) (hc : isWordChar c = true) (hd : isWordChar d = false) :
    c ≠ d := by
  rintro rfl
  simp [hc] at hd

/-- Whether a table of shifts goes to letters only. Most of them go to a stretch of
letters, which is found faster than each of its letters. -/
def GoesToLetters (ss : List Shift) : Bool :=
  ss.all fun s =>
    (alphabetic.runs.any fun r => r.spans s.target (s.target + (s.run.last - s.run.first))) ||
      s.image.points.all alphabetic.covers

theorem covers_alphabetic_of_goesToLetters (ss : List Shift) (hss : GoesToLetters ss = true)
    (n m : Nat) (h : shifted ss n = some m) : alphabetic.covers m = true := by
  obtain ⟨s, hs, hn, rfl⟩ := exists_shift_of_shifted ss n m h
  have himage := s.image.mem_points_of_holds _ (s.holds_image n hn)
  have hgoes := List.all_eq_true.mp hss s hs
  rw [Bool.or_eq_true, List.all_eq_true] at hgoes
  rcases hgoes with hspanned | hpoints
  · simp only [Run.holds, Bool.and_eq_true, decide_eq_true_eq] at hn
    exact alphabetic.covers_of_spans _ _ hspanned _ (by omega) (by omega)
  · exact hpoints _ himage

/-- Small forms found in the table are letters. -/
theorem covers_alphabetic_of_shifted (n m : Nat) (h : shifted lowering n = some m) :
    alphabetic.covers m = true :=
  covers_alphabetic_of_goesToLetters lowering (by decide +kernel) n m h

/-- So are capital forms. -/
theorem covers_alphabetic_of_raised (n m : Nat) (h : shifted raising n = some m) :
    alphabetic.covers m = true :=
  covers_alphabetic_of_goesToLetters raising (by decide +kernel) n m h

/-- The small form of a letter or digit is one as well. -/
theorem isWordChar_lowerOne (c : Char) (h : isWordChar c = true) :
    isWordChar (lowerOne c) = true := by
  unfold lowerOne
  cases hs : shifted lowering c.toNat with
  | none => exact h
  | some m =>
    have hletter := isAlphabetic_ofNat m (covers_alphabetic_of_shifted c.toNat m hs)
    simp [isWordChar, hletter]

/-- So is its capital form. -/
theorem isWordChar_raise (c : Char) (h : isWordChar c = true) : isWordChar (raise c) = true := by
  unfold raise
  cases hs : shifted raising c.toNat with
  | none => exact h
  | some m =>
    have hletter := isAlphabetic_ofNat m (covers_alphabetic_of_raised c.toNat m hs)
    simp [isWordChar, hletter]

/-- Lowering a letter or digit leaves one behind, whatever marks it adds. -/
theorem exists_isWordChar_mem_lower (c : Char) (h : isWordChar c = true) :
    ∃ d ∈ lower c, isWordChar d = true := by
  unfold lower
  split
  · exact ⟨'i', by simp, by decide +kernel⟩
  · exact ⟨lowerOne c, by simp, isWordChar_lowerOne c h⟩

end BemNotation.Naming

namespace BemNotation.Source

open Naming Unicode

/-- White space that does not end a line. -/
def isSpace (c : Char) : Bool :=
  isWhiteSpace c && c != '\n' && c != '\r'

/-- White space is never part of a name. -/
theorem isNameChar_of_isWhiteSpace (c : Char) (h : isWhiteSpace c = true) :
    isNameChar c = false := by
  have hpoint := whiteSpace.of_covers (fun n => !isNameChar (Char.ofNat n))
    (by decide +kernel) c.toNat h
  simpa using hpoint

theorem charClass_eq_name_iff (c : Char) : charClass c = .name ↔ isNameChar c = true := by
  unfold charClass
  split <;> simp_all
  grind

theorem charClass_eq_blank_iff (c : Char) : charClass c = .blank ↔ isSpace c = true := by
  constructor
  · intro h
    fun_cases charClass c <;> simp_all [isSpace, charClass]
  · intro h
    simp only [isSpace, Bool.and_eq_true, bne_iff_ne, ne_eq] at h
    obtain ⟨⟨hwhite, hfeed⟩, hreturn⟩ := h
    have hname := isNameChar_of_isWhiteSpace c hwhite
    have hopen : c ≠ '[' := by rintro rfl; revert hwhite; decide
    have hclose : c ≠ ']' := by rintro rfl; revert hwhite; decide
    have hcomma : c ≠ ',' := by rintro rfl; revert hwhite; decide
    simp [charClass, hname, hopen, hclose, hcomma, hfeed, hreturn, hwhite]

end BemNotation.Source
