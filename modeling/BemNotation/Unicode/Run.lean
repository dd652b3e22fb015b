/-!
Properties of characters as short tables. A run is an arithmetic progression of
code points, which suits alphabets whose capital and small letters alternate. A
table lists runs from low to high, and a search stops at the first run that
begins past the code point, so the common low characters are found at once.
-/

namespace BemNotation.Unicode

/-- Every `step`-th code point from `first` to `last`, both included. -/
structure Run where
  first : Nat
  last : Nat
  step : Nat
  deriving DecidableEq, Repr

def Run.holds (r : Run) (n : Nat) : Bool :=
  r.first ≤ n && n ≤ r.last && (n - r.first) % r.step == 0

/-- Whether a search from low to high finds a run with the code point. -/
def finds : List Run → Nat → Bool
  | [], _ => false
  | r :: rs, n =>
    if n < r.first then false
    else if n ≤ r.last then (n - r.first) % r.step == 0
    else finds rs n

/-- Each run begins after the one before it has ended. -/
def Ordered : List Run → Bool
  | [] => true
  | [r] => r.first ≤ r.last
  | r :: s :: rs => r.first ≤ r.last && r.last < s.first && Ordered (s :: rs)

structure Table where
  runs : List Run
  ordered : Ordered runs = true

def Table.covers (t : Table) (n : Nat) : Bool :=
  finds t.runs n

private theorem exists_holds_of_finds {rs : List Run} {n : Nat} (h : finds rs n = true) :
    ∃ r ∈ rs, r.holds n = true := by
  induction rs with
  | nil => simp [finds] at h
  | cons r rs ih =>
    unfold finds at h
    split at h
    · simp at h
    · split at h
      · exact ⟨r, by simp, by simp_all [Run.holds]⟩
      · obtain ⟨s, hs, hn⟩ := ih h
        exact ⟨s, by simp [hs], hn⟩

private theorem first_le_of_mem {r s : Run} {rs : List Run}
    (h : Ordered (r :: rs) = true) (hs : s ∈ rs) : r.last < s.first := by
  induction rs generalizing r with
  | nil => simp at hs
  | cons t rs ih =>
    simp only [Ordered, Bool.and_eq_true, decide_eq_true_eq] at h
    rcases List.mem_cons.mp hs with rfl | hs
    · exact h.1.2
    · have ht : t.first ≤ t.last := by
        cases rs with
        | nil => simpa [Ordered] using h.2
        | cons u rs =>
          simp only [Ordered, Bool.and_eq_true, decide_eq_true_eq] at h
          exact h.2.1.1
      have := ih h.2 hs
      omega

private theorem ordered_tail {r : Run} {rs : List Run} (h : Ordered (r :: rs) = true) :
    Ordered rs = true := by
  cases rs with
  | nil => rfl
  | cons s rs =>
    simp only [Ordered, Bool.and_eq_true] at h
    exact h.2

private theorem finds_of_holds {rs : List Run} {n : Nat} (h : Ordered rs = true) {r : Run}
    (hr : r ∈ rs) (hn : r.holds n = true) : finds rs n = true := by
  induction rs with
  | nil => simp at hr
  | cons s rs ih =>
    simp only [Run.holds, Bool.and_eq_true, decide_eq_true_eq] at hn
    unfold finds
    rcases List.mem_cons.mp hr with rfl | hr
    · rw [if_neg (by omega), if_pos hn.1.2]
      exact hn.2
    · have hlt := first_le_of_mem h hr
      have hs : s.first ≤ s.last := by
        cases rs with
        | nil => simp at hr
        | cons t rs =>
          simp only [Ordered, Bool.and_eq_true, decide_eq_true_eq] at h
          exact h.1.1
      rw [if_neg (by omega), if_neg (by omega)]
      exact ih (ordered_tail h) hr

/-- A table covers what its runs hold. -/
theorem Table.covers_iff (t : Table) (n : Nat) :
    t.covers n = true ↔ ∃ r ∈ t.runs, r.holds n = true :=
  ⟨exists_holds_of_finds, fun ⟨_, hr, hn⟩ => finds_of_holds t.ordered hr hn⟩

/-- A run of characters that change case together: the k-th of them goes to the
k-th code point, counted alike, from `target` on. -/
structure Shift where
  run : Run
  target : Nat
  deriving DecidableEq, Repr

def shifted : List Shift → Nat → Option Nat
  | [], _ => none
  | s :: ss, n =>
    if n < s.run.first then none
    else if n ≤ s.run.last then
      if (n - s.run.first) % s.run.step == 0 then some (s.target + (n - s.run.first)) else none
    else shifted ss n

end BemNotation.Unicode
