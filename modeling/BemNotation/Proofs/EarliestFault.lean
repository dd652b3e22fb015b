import BemNotation.Proofs.TokenPlaces
import BemNotation.Proofs.ViableTokens
import BemNotation.Source.Reading

/-!
The fault of tokens out of order. Reading stops right after the longest beginning of
the tokens that some continuation makes acceptable, and what it reports there depends
on that beginning and the token after it only: a missing name, a list left open, an
empty list, or a token that does not fit.
-/

namespace BemNotation.Source

/-- Whether the diagnostic has the code and a single label, on the bytes from
`start` to `stop`. -/
def Diagnostic.Marks (d : Diagnostic) (code : Code) (start stop : Nat) : Prop :=
  d.code = some code ∧ ∃ label, d.labels = [label] ∧ label.primary = true ∧
    label.span.start = start ∧ label.span.stop = stop

/-- What is to be reported when reading stops after `p`, in front of the token `next`
or at the end of the source. -/
inductive Verdict (source : List Char) (p : List (Located Token)) (next : Option (Located Token))
    (d : Diagnostic) : Prop
  /-- There is no name yet. -/
  | missingBlockName (hp : ∀ t ∈ p, t.value.isTrivia = true)
      (hd : d.Marks .missingBlockName (next.elim 0 (·.span.start))
        (next.elim (byteLength source) (·.span.stop)))
  /-- The line ends within a list. -/
  | unclosedList (opening : Span) (last : Located Token)
      (hp : ∃ t ∈ p, t.value.isTrivia = false)
      (hnext : ∀ t, next = some t → t.value.isBreak = true)
      (hopening : stillOpen p = some opening) (hlast : lastSolid p = some last)
      (hd : d.Marks .unclosedList opening.start last.span.stop)
  /-- Nothing but white space stands between the brackets. -/
  | emptyList (opening : Span) (t : Located Token) (hp : ∃ t ∈ p, t.value.isTrivia = false)
      (hnext : next = some t) (hclose : t.value = .closeBracket)
      (hopening : stillOpen p = some opening) (hgap : EndsOpen p opening)
      (hd : d.Marks .emptyList opening.start t.span.stop)
  /-- The token after `p` is at fault in any other way. -/
  | unexpectedToken (t : Located Token) (text : List Char)
      (hp : ∃ t ∈ p, t.value.isTrivia = false) (hnext : next = some t)
      (hsolid : t.value.isTrivia = false)
      (hfilled : t.value = .closeBracket →
        ∀ opening, ¬ (stillOpen p = some opening ∧ EndsOpen p opening))
      (htext : t.span.Holds source text)
      (hd : d.Marks .unexpectedToken t.span.start t.span.stop)
      (hmessage : d.message = "unexpected `" ++ String.ofList text ++ "`")

theorem Stage.exists_openList_of_unclosed (s : Stage) (fault : Fault)
    (h : s.unclosed = some fault) :
    ∃ opening last, s.openList = some (opening, last) ∧
      fault = .unclosedList (opening.cover last) := by
  obtain ⟨⟨opening, last⟩, hlist, rfl⟩ := Option.map_eq_some_iff.mp h
  exact ⟨opening, last, hlist, rfl⟩

theorem Stage.solidStep_eq_error (s : Stage) (t : Located Token) (fault : Fault)
    (h : s.solidStep t = .error fault) :
    (s = .lineStart false ∧ fault = .missingBlockName t.span) ∨
      (∃ opening, s = .opened opening ∧ t.value = .closeBracket ∧
        fault = .emptyList (opening.cover t.span)) ∨
      (s ≠ .lineStart false ∧ (∀ opening, s = .opened opening → t.value ≠ .closeBracket) ∧
        ∃ expected, fault = .unexpectedToken t expected) := by
  obtain ⟨value, span⟩ := t
  cases s with
  | lineStart started => cases started <;> cases value <;> simp_all [solidStep, noName, eq_comm]
  | _ => cases value <;> simp_all [solidStep, eq_comm]

theorem exists_mem_of_stillOpen (ts : List (Located Token)) (opening : Span)
    (h : stillOpen ts = some opening) : ∃ t ∈ ts, t.span = opening := by
  induction ts using List.reverseRecOn with
  | nil => simp [stillOpen] at h
  | append_singleton ts t ih =>
    rw [stillOpen_append_singleton] at h
    split at h
    · exact ⟨t, by simp, by simpa using h⟩
    · simp at h
    · obtain ⟨u, hu, hspan⟩ := ih h
      exact ⟨u, by simp [hu], hspan⟩

/-- The last token of an open list is not before its bracket. -/
theorem InOrder.list_le (ts : List (Located Token)) (h : InOrder ts) (opening : Span)
    (last : Located Token) (hopening : stillOpen ts = some opening)
    (hlast : lastSolid ts = some last) :
    opening.start ≤ last.span.start ∧ opening.stop ≤ last.span.stop := by
  induction ts using List.reverseRecOn with
  | nil => simp [stillOpen] at hopening
  | append_singleton ts t ih =>
    have hbefore := h.start_le_stop_of_append ts [] t
    rw [stillOpen_append_singleton] at hopening
    rw [lastSolid_append_singleton] at hlast
    split at hlast
    · have hts := (List.pairwise_append.mp h).1
      split at hopening
      case h_1 hvalue => simp_all [Token.isTrivia, Token.isBlank, Token.isBreak]
      case h_2 => simp at hopening
      case h_3 => exact ih hts hopening hlast
    · obtain rfl : t = last := by simpa using hlast
      split at hopening
      · obtain rfl : t.span = opening := by simpa using hopening
        exact ⟨Nat.le_refl _, Nat.le_refl _⟩
      · simp at hopening
      · obtain ⟨u, hu, rfl⟩ := exists_mem_of_stillOpen ts opening hopening
        have hstop := hbefore u hu
        have hspan := u.span.start_le_stop
        have hspan' := t.span.start_le_stop
        omega

theorem Span.cover_of_le (s t : Span) (hstart : s.start ≤ t.start) (hstop : s.stop ≤ t.stop) :
    (s.cover t).start = s.start ∧ (s.cover t).stop = t.stop := by
  rw [start_cover, stop_cover]
  omega

theorem mem_of_lastSolid (ts : List (Located Token)) (last : Located Token)
    (h : lastSolid ts = some last) : last ∈ ts ∧ last.value.isTrivia = false := by
  unfold lastSolid at h
  exact ⟨by simpa using List.mem_of_find?_eq_some h, by simpa using List.find?_some h⟩

theorem Stage.Fits.verdict_unclosed (s : Stage) (p : List (Located Token)) (h : s.Fits p)
    (horder : InOrder p) (source : List Char) (next : Option (Located Token))
    (hnext : ∀ t, next = some t → t.value.isBreak = true) (fault : Fault)
    (hfault : s.unclosed = some fault) : Verdict source p next fault.diagnostic := by
  obtain ⟨opening, last, hlist, rfl⟩ := s.exists_openList_of_unclosed fault hfault
  obtain ⟨hopening, t, hlast, rfl⟩ := h.listOpen opening last hlist
  obtain ⟨hmem, hsolid⟩ := mem_of_lastSolid p t hlast
  obtain ⟨hstart, hstop⟩ := horder.list_le p opening t hopening hlast
  exact Verdict.unclosedList opening t ⟨t, hmem, hsolid⟩ hnext hopening hlast
    ⟨rfl, _, rfl, rfl, opening.cover_of_le t.span hstart hstop⟩

theorem Stage.Fits.exists_solid (s : Stage) (p : List (Located Token)) (h : s.Fits p)
    (hs : s ≠ .lineStart false) : ∃ t ∈ p, t.value.isTrivia = false := by
  simpa [h.fresh] using hs

theorem Reaches.verdict_end (source : List Char) (p : List (Located Token)) (s : Stage)
    (h : Reaches p s) (horder : InOrder p) (whole : Span) (hstart : whole.start = 0)
    (hstop : whole.stop = byteLength source) (fault : Fault)
    (hfault : s.endFault whole = some fault) : Verdict source p none fault.diagnostic := by
  have hfits := h.fits
  by_cases hs : s = .lineStart false
  · subst hs
    obtain rfl : Fault.missingBlockName whole = fault := by simpa [Stage.endFault] using hfault
    exact Verdict.missingBlockName (hfits.fresh.mp rfl) ⟨rfl, _, rfl, rfl, hstart, hstop⟩
  · have hunclosed : s.unclosed = some fault := by
      unfold Stage.endFault at hfault
      split at hfault
      · exact absurd rfl hs
      · exact hfault
    exact hfits.verdict_unclosed s p horder source none (by simp) fault hunclosed

theorem Reaches.verdict_step (source : List Char) (p : List (Located Token)) (s : Stage)
    (h : Reaches p s) (t : Located Token) (rest : List (Located Token))
    (horder : InOrder (p ++ t :: rest)) (htext : t.span.Holds source t.value.text) (fault : Fault)
    (hstep : s.step t = .error fault) : Verdict source p (some t) fault.diagnostic := by
  have hfits := h.fits
  have hbefore := horder.start_le_stop_of_append p rest t
  cases hblank : t.value.isBlank with
  | true => simp [Stage.step_blank s t hblank] at hstep
  | false =>
    cases hbreak : t.value.isBreak with
    | true =>
      rw [Stage.step_break s t hbreak] at hstep
      have hunclosed : s.unclosed = some fault := by
        split at hstep <;> simp_all
      exact hfits.verdict_unclosed s p (List.pairwise_append.mp horder).1 source (some t)
        (by simpa using hbreak) fault hunclosed
    | false =>
      have hsolid : t.value.isTrivia = false := by simp [Token.isTrivia, hblank, hbreak]
      rw [Stage.step_solid s t hsolid] at hstep
      rcases s.solidStep_eq_error t fault hstep with
        ⟨rfl, rfl⟩ | ⟨opening, rfl, hclose, rfl⟩ | ⟨hs, hother, expected, rfl⟩
      · exact Verdict.missingBlockName (hfits.fresh.mp rfl) ⟨rfl, _, rfl, rfl, rfl, rfl⟩
      · obtain ⟨hopening, _⟩ := hfits.listOpen opening opening rfl
        obtain ⟨u, hu, rfl⟩ := exists_mem_of_stillOpen p opening hopening
        have hstop := hbefore u hu
        have hspan := u.span.start_le_stop
        have hspan' := t.span.start_le_stop
        exact Verdict.emptyList u.span t (hfits.exists_solid _ p (by simp)) rfl hclose hopening
          ((hfits.endsOpen u.span).mpr rfl)
          ⟨rfl, _, rfl, rfl, u.span.cover_of_le t.span (by omega) (by omega)⟩
      · refine Verdict.unexpectedToken t t.value.text (hfits.exists_solid s p hs) rfl hsolid ?_ htext
          ⟨rfl, _, rfl, rfl, rfl, rfl⟩ rfl
        rintro hclose opening ⟨_, hends⟩
        exact hother opening ((hfits.endsOpen opening).mp hends) hclose

theorem ofSource_eq_misordered (source : String) (ts : List (Located Token)) (fault : Fault)
    (h : Reading.ofSource source = .misordered ts fault) :
    strays (place 0 (lexemes source.toList)) = [] ∧
      ts = tokens (place 0 (lexemes source.toList)) ∧ readOutline ts = .error fault := by
  unfold Reading.ofSource at h
  cases hstrays : strays (place 0 (lexemes source.toList)) with
  | cons c cs => simp [hstrays] at h
  | nil =>
    cases hread : readOutline (tokens (place 0 (lexemes source.toList))) with
    | ok o =>
      simp only [hstrays, Reading.ofTokens, hread] at h
      split at h <;> simp at h
    | error found =>
      obtain ⟨rfl, rfl⟩ : tokens (place 0 (lexemes source.toList)) = ts ∧ found = fault := by
        simpa [hstrays, Reading.ofTokens, hread] using h
      exact ⟨rfl, rfl, hread⟩

/-- The tokens out of order stop right after their longest viable beginning, and what
is reported follows from that beginning and the token after it. -/
theorem verdict_of_misordered (source : String) (ts : List (Located Token)) (fault : Fault)
    (h : Reading.ofSource source = .misordered ts fault) :
    (∃ p, IsLongestViable ts p) ∧
      ∀ p, IsLongestViable ts p → Verdict source.toList p ts[p.length]? fault.diagnostic := by
  obtain ⟨hstrays, rfl, hread⟩ := ofSource_eq_misordered source ts fault h
  obtain ⟨hstart, hstop⟩ := spanOf_tokens source.toList hstrays
  have horder := inOrder_tokens source.toList
  have htexts := holds_of_mem_tokens source.toList
  have hrun := (faultOf_eq_some_iff _ fault).mpr hread
  rw [faultOf_readOutline] at hrun
  generalize tokens (place 0 (lexemes source.toList)) = ts at *
  rcases Reaches.exists_stop [] _ .start ts with
    ⟨s, hs⟩ | ⟨p, t, rest, s, found, hts, hs, hstep⟩
  · rw [List.nil_append] at hs
    have hend : s.endFault (spanOf ts) = some fault := by
      rw [← hrun, ← List.append_nil ts, hs.run_append, List.append_nil, Stage.run]
    have hlongest := hs.isLongestViable_self ts s
    refine ⟨⟨ts, hlongest⟩, fun p hp => ?_⟩
    obtain rfl := hp.unique ts p ts hlongest
    simpa using hs.verdict_end source.toList p s horder (spanOf p) hstart hstop fault hend
  · rw [List.nil_append] at hts
    subst hts
    obtain rfl : found = fault := by
      simpa [hs.run_append, Stage.run, hstep] using hrun
    have hlongest := hs.isLongestViable p s t found hstep rest
    refine ⟨⟨p, hlongest⟩, fun q hq => ?_⟩
    obtain rfl := hq.unique _ q p hlongest
    simpa using hs.verdict_step source.toList q s t rest horder (htexts t (by simp)) found hstep

/-- After a name in a list comes a comma or the closing bracket. -/
theorem verdict_of_misordered_names :
    let ts : List (Located Token) :=
      [⟨.name ['a'], { start := 0, stop := 1 }⟩, ⟨.openBracket, { start := 1, stop := 2 }⟩,
        ⟨.name ['é'], { start := 2, stop := 4 }⟩, ⟨.blank [' '], { start := 4, stop := 5 }⟩,
        ⟨.name ['b'], { start := 5, stop := 6 }⟩]
    let fault := Fault.unexpectedToken ⟨.name ['b'], { start := 5, stop := 6 }⟩ .commaOrBracket
    Reading.ofSource "a[é b" = .misordered ts fault ∧ (∃ p, IsLongestViable ts p) ∧
      ∀ p, IsLongestViable ts p → Verdict "a[é b".toList p ts[p.length]? fault.diagnostic := by
  intro ts fault
  have hread : Reading.ofSource "a[é b" = .misordered ts fault := by decide +kernel
  exact ⟨hread, verdict_of_misordered "a[é b" ts fault hread⟩

end BemNotation.Source
