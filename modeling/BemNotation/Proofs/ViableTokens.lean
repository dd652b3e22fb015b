import BemNotation.Proofs.TokenStages
import Mathlib.Data.List.Induction

/-!
Tokens that some continuation makes acceptable. They are those that lead to a stage,
since from every stage a source can be brought to its end. What the stage tells of
the tokens before it can also be read off the tokens themselves: whether there is a
name, and which list is still open.
-/

namespace BemNotation.Source

/-- Whether some continuation of the tokens is accepted. -/
def Viable (ts : List (Located Token)) : Prop :=
  ∃ more o, readOutline (ts ++ more) = .ok o

/-- The longest beginning of the tokens that is viable. -/
structure IsLongestViable (ts p : List (Located Token)) : Prop where
  begins : p <+: ts
  viable : Viable p
  longest : ∀ q, q <+: ts → Viable q → q.length ≤ p.length

theorem IsLongestViable.unique (ts p q : List (Located Token)) (hp : IsLongestViable ts p)
    (hq : IsLongestViable ts q) : p = q := by
  have hle := hq.longest p hp.begins hp.viable
  have hge := hp.longest q hq.begins hq.viable
  rw [List.prefix_iff_eq_take.mp hp.begins, List.prefix_iff_eq_take.mp hq.begins,
    Nat.le_antisymm hle hge]

/-- Tokens that can be read one by one, and the stage they lead to. -/
inductive Reaches : List (Located Token) → Stage → Prop
  | start : Reaches [] (.lineStart false)
  | snoc {ts : List (Located Token)} {s next : Stage} {t : Located Token} (hts : Reaches ts s)
      (hstep : s.step t = .ok next) : Reaches (ts ++ [t]) next

theorem Reaches.run_append (ts : List (Located Token)) (s : Stage) (h : Reaches ts s)
    (whole : Span) (more : List (Located Token)) :
    (Stage.lineStart false).run whole (ts ++ more) = s.run whole more := by
  induction h generalizing more with
  | start => rfl
  | @snoc ts s next t hts hstep ih =>
    rw [List.append_assoc, ih, List.singleton_append, Stage.run, hstep]

/-- Every source can be read up to its end or up to a token that is a fault. -/
theorem Reaches.exists_stop (ts : List (Located Token)) (s : Stage) (h : Reaches ts s)
    (more : List (Located Token)) :
    (∃ last, Reaches (ts ++ more) last) ∨
      ∃ p t rest last fault, ts ++ more = p ++ t :: rest ∧ Reaches p last ∧
        last.step t = .error fault := by
  induction more generalizing ts s with
  | nil => exact Or.inl ⟨s, by simpa using h⟩
  | cons t more ih =>
    cases hstep : s.step t with
    | error fault => exact Or.inr ⟨ts, t, more, s, fault, rfl, h, hstep⟩
    | ok next =>
      have hrest := ih (ts ++ [t]) next (h.snoc hstep)
      rwa [List.append_assoc, List.singleton_append] at hrest

/-- Tokens that lead from the stage to the end of a source, wherever they stand. -/
def Stage.completion : Stage → List (Located Token)
  | lineStart false => [⟨.name ['a'], .between 0 0⟩]
  | opened _ => [⟨.name ['a'], .between 0 0⟩, ⟨.closeBracket, .between 0 0⟩]
  | listed _ _ => [⟨.closeBracket, .between 0 0⟩]
  | separated _ _ => [⟨.name ['a'], .between 0 0⟩, ⟨.closeBracket, .between 0 0⟩]
  | _ => []

theorem Stage.run_completion (whole : Span) (s : Stage) : s.run whole s.completion = none := by
  cases s with
  | lineStart started => cases started <;> rfl
  | _ => rfl

theorem Reaches.viable (ts : List (Located Token)) (s : Stage) (h : Reaches ts s) : Viable ts := by
  refine ⟨s.completion, (faultOf_eq_none_iff _).mp ?_⟩
  rw [faultOf_readOutline, h.run_append, Stage.run_completion]

/-- No continuation makes up for a fault. -/
theorem Reaches.not_viable (ts : List (Located Token)) (s : Stage) (h : Reaches ts s)
    (t : Located Token) (fault : Fault) (hstep : s.step t = .error fault)
    (rest : List (Located Token)) : ¬ Viable (ts ++ t :: rest) := by
  rintro ⟨more, o, hread⟩
  have hnone := (faultOf_eq_none_iff _).mpr ⟨o, hread⟩
  rw [faultOf_readOutline, List.append_assoc, h.run_append, List.cons_append, Stage.run,
    hstep] at hnone
  simp at hnone

theorem Reaches.isLongestViable_self (ts : List (Located Token)) (s : Stage) (h : Reaches ts s) :
    IsLongestViable ts ts :=
  ⟨List.prefix_refl ts, h.viable, fun _ hq _ => hq.length_le⟩

theorem Reaches.isLongestViable (p : List (Located Token)) (s : Stage) (h : Reaches p s)
    (t : Located Token) (fault : Fault) (hstep : s.step t = .error fault)
    (rest : List (Located Token)) : IsLongestViable (p ++ t :: rest) p := by
  refine ⟨List.prefix_append p _, h.viable, fun q hq hviable => ?_⟩
  by_contra hlonger
  have hstop : p ++ [t] <+: p ++ t :: rest := ⟨rest, by simp⟩
  obtain ⟨others, rfl⟩ := List.prefix_of_prefix_length_le hstop hq (by simp; omega)
  rw [List.append_assoc, List.singleton_append] at hviable
  exact h.not_viable p s t fault hstep others hviable

/-- The bracket that no closing bracket has answered. -/
def stillOpen (ts : List (Located Token)) : Option Span :=
  ts.foldl
    (fun opening t =>
      match t.value with
      | .openBracket => some t.span
      | .closeBracket => none
      | _ => opening)
    none

/-- The last token that is neither white space nor a line break. -/
def lastSolid (ts : List (Located Token)) : Option (Located Token) :=
  ts.reverse.find? (!·.value.isTrivia)

/-- Whether only white space follows the opening bracket. -/
def EndsOpen (ts : List (Located Token)) (opening : Span) : Prop :=
  ∃ before gap, ts = before ++ ⟨.openBracket, opening⟩ :: gap ∧
    ∀ t ∈ gap, t.value.isBlank = true

theorem stillOpen_append_singleton (ts : List (Located Token)) (t : Located Token) :
    stillOpen (ts ++ [t]) =
      match t.value with
      | .openBracket => some t.span
      | .closeBracket => none
      | _ => stillOpen ts := by
  simp [stillOpen]

theorem stillOpen_append_of_ne (ts : List (Located Token)) (t : Located Token)
    (hopen : t.value ≠ .openBracket) (hclose : t.value ≠ .closeBracket) :
    stillOpen (ts ++ [t]) = stillOpen ts := by
  rw [stillOpen_append_singleton]
  split <;> simp_all

theorem lastSolid_append_singleton (ts : List (Located Token)) (t : Located Token) :
    lastSolid (ts ++ [t]) = if t.value.isTrivia then lastSolid ts else some t := by
  simp only [lastSolid, List.reverse_append, List.reverse_singleton, List.singleton_append,
    List.find?_cons]
  cases t.value.isTrivia <;> rfl

theorem not_endsOpen_nil (opening : Span) : ¬ EndsOpen [] opening := by
  rintro ⟨before, gap, h, _⟩
  simp at h

theorem endsOpen_append_singleton (ts : List (Located Token)) (t : Located Token)
    (opening : Span) :
    EndsOpen (ts ++ [t]) opening ↔
      (t.value.isBlank = true ∧ EndsOpen ts opening) ∨ t = ⟨.openBracket, opening⟩ := by
  constructor
  · rintro ⟨before, gap, h, hgap⟩
    rcases List.eq_nil_or_concat gap with rfl | ⟨gap, last, rfl⟩
    · exact Or.inr (List.append_inj_right' h rfl |> List.singleton_inj.mp)
    · rw [List.concat_eq_append, ← List.cons_append, ← List.append_assoc] at h
      obtain rfl : t = last := List.singleton_inj.mp (List.append_inj_right' h rfl)
      exact Or.inl ⟨hgap t (by simp), before, gap, List.append_inj_left' h rfl,
        fun u hu => hgap u (by simp [hu])⟩
  · rintro (⟨ht, before, gap, rfl, hgap⟩ | rfl)
    · refine ⟨before, gap ++ [t], by simp, fun u hu => ?_⟩
      rcases List.mem_append.mp hu with hu | hu
      · exact hgap u hu
      · obtain rfl : u = t := by simpa using hu
        exact ht
    · exact ⟨ts, [], rfl, by simp⟩

/-- What a stage tells of the tokens that lead to it. -/
structure Stage.Fits (s : Stage) (ts : List (Located Token)) : Prop where
  fresh : s = .lineStart false ↔ ∀ t ∈ ts, t.value.isTrivia = true
  listOpen : ∀ opening last, s.openList = some (opening, last) →
    stillOpen ts = some opening ∧ ∃ t, lastSolid ts = some t ∧ t.span = last
  endsOpen : ∀ opening, EndsOpen ts opening ↔ s = .opened opening

theorem Stage.fits_start : (lineStart false).Fits [] where
  fresh := by simp
  listOpen := by simp [openList]
  endsOpen opening := by simpa using not_endsOpen_nil opening

theorem Stage.Fits.blank (s : Stage) (ts : List (Located Token)) (t : Located Token)
    (h : s.Fits ts) (ht : t.value.isBlank = true) : s.Fits (ts ++ [t]) := by
  have htrivia : t.value.isTrivia = true := by simp [Token.isTrivia, ht]
  have hopen : t.value ≠ .openBracket := by
    intro hvalue
    simp [hvalue, Token.isBlank] at ht
  have hclose : t.value ≠ .closeBracket := by
    intro hvalue
    simp [hvalue, Token.isBlank] at ht
  constructor
  · rw [h.fresh]
    simp [or_imp, forall_and, htrivia]
  · intro opening last hlist
    rw [stillOpen_append_of_ne ts t hopen hclose, lastSolid_append_singleton, if_pos htrivia]
    exact h.listOpen opening last hlist
  · intro opening
    rw [endsOpen_append_singleton, ← h.endsOpen opening]
    constructor
    · rintro (⟨_, hends⟩ | rfl)
      · exact hends
      · exact absurd rfl hopen
    · exact fun hends => Or.inl ⟨ht, hends⟩

/-- Between two lines no list is open. -/
theorem Stage.Fits.lineBreak (s : Stage) (ts : List (Located Token)) (t : Located Token)
    (h : s.Fits ts) (ht : t.value.isBreak = true) : s.nextLine.Fits (ts ++ [t]) := by
  have htrivia : t.value.isTrivia = true := by simp [Token.isTrivia, ht]
  have hblank : t.value.isBlank = false := by
    cases hvalue : t.value <;> simp_all [Token.isBlank, Token.isBreak]
  have hopen : t.value ≠ .openBracket := by
    intro hvalue
    simp [hvalue, Token.isBreak] at ht
  constructor
  · have hnext : s.nextLine = .lineStart false ↔ s = .lineStart false := by
      cases s <;> simp [nextLine]
    rw [hnext, h.fresh]
    simp [or_imp, forall_and, htrivia]
  · intro opening last hlist
    cases s <;> simp [nextLine, openList] at hlist
  · intro opening
    rw [endsOpen_append_singleton]
    constructor
    · rintro (⟨hblank', _⟩ | rfl)
      · simp [hblank] at hblank'
      · exact absurd rfl hopen
    · intro hnext
      cases s <;> simp [nextLine] at hnext

theorem Stage.opened_of_solidStep (s next : Stage) (t : Located Token)
    (hstep : s.solidStep t = .ok next) (opening : Span) :
    t = ⟨.openBracket, opening⟩ ↔ next = .opened opening := by
  unfold solidStep at hstep
  split at hstep <;> simp only [Except.ok.injEq, reduceCtorEq] at hstep <;> subst hstep <;>
    simp_all

theorem Stage.openList_of_solidStep (s next : Stage) (t : Located Token)
    (hstep : s.solidStep t = .ok next) (opening last : Span)
    (hlist : next.openList = some (opening, last)) :
    t.span = last ∧
      (t = ⟨.openBracket, opening⟩ ∨
        t.value ≠ .openBracket ∧ t.value ≠ .closeBracket ∧
          ∃ earlier, s.openList = some (opening, earlier)) := by
  unfold solidStep at hstep
  split at hstep <;> simp only [Except.ok.injEq, reduceCtorEq] at hstep <;> subst hstep <;>
    simp [openList] at hlist
  all_goals
    obtain ⟨rfl, rfl⟩ := hlist
    simp [openList]

theorem Stage.Fits.solid (s next : Stage) (ts : List (Located Token)) (t : Located Token)
    (h : s.Fits ts) (ht : t.value.isTrivia = false) (hstep : s.step t = .ok next) :
    next.Fits (ts ++ [t]) := by
  have hnext := ne_lineStart_of_step s next t false ht hstep
  have hblank : t.value.isBlank = false := by simp_all [Token.isTrivia]
  rw [step_solid s t ht] at hstep
  constructor
  · simp only [hnext, false_iff]
    intro hall
    simp [hall t (by simp)] at ht
  · intro opening last hlist
    obtain ⟨hlast, hopening⟩ := openList_of_solidStep s next t hstep opening last hlist
    refine ⟨?_, t, by simp [lastSolid_append_singleton, ht], hlast⟩
    rcases hopening with rfl | ⟨hopen, hclose, earlier, hearlier⟩
    · simp [stillOpen_append_singleton]
    · rw [stillOpen_append_of_ne ts t hopen hclose]
      exact (h.listOpen opening earlier hearlier).1
  · intro opening
    rw [endsOpen_append_singleton, ← opened_of_solidStep s next t hstep opening]
    simp [hblank]

theorem Reaches.fits (ts : List (Located Token)) (s : Stage) (h : Reaches ts s) : s.Fits ts := by
  induction h with
  | start => exact Stage.fits_start
  | @snoc ts s next t hts hstep ih =>
    cases hblank : t.value.isBlank with
    | true =>
      rw [Stage.step_blank s t hblank] at hstep
      obtain rfl : s = next := by simpa using hstep
      exact ih.blank s ts t hblank
    | false =>
      cases hbreak : t.value.isBreak with
      | true =>
        rw [Stage.step_break s t hbreak] at hstep
        cases hopen : s.unclosed with
        | some fault => simp [hopen] at hstep
        | none =>
          obtain rfl : s.nextLine = next := by simpa [hopen] using hstep
          exact ih.lineBreak s ts t hbreak
      | false => exact ih.solid s next ts t (by simp [Token.isTrivia, hblank, hbreak]) hstep

end BemNotation.Source
