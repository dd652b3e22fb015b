import BemNotation.Failure
import BemNotation.Proofs.EarliestFault
import BemNotation.Proofs.OutlineNames

/-!
Sources that are rejected. All diagnostics of a rejection come from one part of reading,
the first that fails. They follow the order of the source, their labels stand on whole
characters of it, and what a mistake clashes with stands before the mistake.
-/

namespace BemNotation.Source

/-- A part of reading. -/
inductive Part where
  | characters
  | order
  | names

/-- The part of reading that gives the code. -/
def Code.part : Code → Part
  | strayCharacter => .characters
  | unexpectedToken => .order
  | unclosedList => .order
  | missingBlockName => .order
  | emptyList => .order
  | repeatedElement => .names
  | repeatedModifier => .names
  | emptyName => .names

def Diagnostic.part (d : Diagnostic) : Option Part :=
  d.code.map Code.part

/-- The first label of the diagnostic is the primary one. Labels stand on whole characters
of the source, and those that are not primary end before the primary one starts. -/
structure Diagnostic.WellPlaced (d : Diagnostic) (source : List Char) : Prop where
  primary : ∃ label others, d.labels = label :: others ∧ label.primary = true ∧
    ∀ l ∈ others, l.primary = false ∧ l.span.stop < label.span.start
  inside : ∀ l ∈ d.labels,
    l.span.start ≤ l.span.stop ∧ l.span.stop ≤ byteLength source ∧ l.span.LiesIn source

/-- Whether the primary label of the one stands before that of the other. -/
def Diagnostic.Precedes (d e : Diagnostic) : Prop :=
  ∀ l ∈ d.labels, ∀ m ∈ e.labels, l.primary = true → m.primary = true →
    l.span.start < m.span.start ∧ l.span.stop ≤ m.span.start

/-- All diagnostics of the first part of reading that fails, and no others. Only one is
given on the order of tokens. -/
inductive OfOnePart (source : String) (ds : List Diagnostic) : Prop
  | characters (hstrays : strays (place 0 (lexemes source.toList)) ≠ [])
      (hds : ds = ((strays (place 0 (lexemes source.toList))).map Fault.strayCharacter).map
        Fault.diagnostic)
      (hpart : ∀ d ∈ ds, d.part = some .characters)
  | order (hstrays : strays (place 0 (lexemes source.toList)) = []) (fault : Fault)
      (hread : readOutline (tokens (place 0 (lexemes source.toList))) = .error fault)
      (hds : ds = [fault.diagnostic]) (hpart : ∀ d ∈ ds, d.part = some .order)
  | names (hstrays : strays (place 0 (lexemes source.toList)) = []) (o : Outline)
      (hread : readOutline (tokens (place 0 (lexemes source.toList))) = .ok o)
      (hds : ds = o.nameFaults.map Fault.diagnostic) (hpart : ∀ d ∈ ds, d.part = some .names)

/-- What a source that is rejected comes back with. -/
structure WellReported (source : String) (ds : List Diagnostic) : Prop where
  ne_nil : ds ≠ []
  onePart : OfOnePart source ds
  wellPlaced : ∀ d ∈ ds, d.WellPlaced source.toList
  inOrder : ds.Pairwise Diagnostic.Precedes

/-- What a fault points back to. -/
def Fault.first : Fault → Option Span
  | repeatedElement _ first => some first
  | repeatedModifier _ first => some first
  | _ => none

/-- A fault is shown by one primary label, and by one that is not if it points back. -/
theorem Fault.exists_labels (f : Fault) : ∃ label others, f.diagnostic.labels = label :: others ∧
    label.primary = true ∧ label.span = f.span ∧
      ∀ l ∈ others, l.primary = false ∧ f.first = some l.span := by
  cases f <;> exact ⟨_, _, rfl, rfl, rfl, by simp [Fault.first]⟩

theorem Fault.span_of_primary (f : Fault) (l : Label) (hl : l ∈ f.diagnostic.labels)
    (h : l.primary = true) : l.span = f.span := by
  obtain ⟨label, others, hlabels, -, hspan, hothers⟩ := f.exists_labels
  rw [hlabels] at hl
  rcases List.mem_cons.mp hl with rfl | hl
  · exact hspan
  · simp [(hothers l hl).1] at h

theorem Fault.wellPlaced (f : Fault) (source : List Char) (h : f.span.LiesIn source)
    (hfirst : ∀ first, f.first = some first →
      first.LiesIn source ∧ first.stop < f.span.start) : f.diagnostic.WellPlaced source := by
  obtain ⟨label, others, hlabels, hprimary, hspan, hothers⟩ := f.exists_labels
  constructor
  · refine ⟨label, others, hlabels, hprimary, fun l hl => ?_⟩
    obtain ⟨hsecondary, hback⟩ := hothers l hl
    rw [hspan]
    exact ⟨hsecondary, (hfirst _ hback).2⟩
  · intro l hl
    have hlies : l.span.LiesIn source := by
      rw [hlabels] at hl
      rcases List.mem_cons.mp hl with rfl | hl
      · rwa [hspan]
      · exact (hfirst _ (hothers l hl).2).1
    exact ⟨l.span.start_le_stop, hlies.stop_boundary.le_byteLength, hlies⟩

theorem precedes_of_spans (faults : List Fault)
    (h : (faults.map Fault.span).Pairwise fun s t => s.start < t.start ∧ s.stop ≤ t.start) :
    (faults.map Fault.diagnostic).Pairwise Diagnostic.Precedes := by
  rw [List.pairwise_map] at h ⊢
  refine h.imp fun hspans l hl m hm hprimary hprimary' => ?_
  rwa [Fault.span_of_primary _ l hl hprimary, Fault.span_of_primary _ m hm hprimary']

/-- Characters that belong to no token are reported one by one. -/
theorem wellReported_strays (source : String)
    (h : strays (place 0 (lexemes source.toList)) ≠ []) :
    WellReported source
      (((strays (place 0 (lexemes source.toList))).map Fault.strayCharacter).map
        Fault.diagnostic) := by
  have hlies := liesIn_of_mem_strays source.toList
  have horder := inOrder_strays source.toList
  have hsource : source.toList ≠ [] := by
    intro hnil
    simp [hnil, lexemes, place, strays] at h
  refine ⟨by simpa using h,
    .characters h rfl (by simp [Fault.diagnostic, Diagnostic.part, Code.part]), ?_,
    precedes_of_spans _ ?_⟩
  · simp only [List.map_map, List.forall_mem_map]
    intro c hc
    exact Fault.wellPlaced _ _ (hlies c hc) (by simp [Fault.first])
  · rw [List.pairwise_map, List.pairwise_map]
    refine horder.imp_of_mem fun {c d} hc _ hle => ?_
    have hlt := (hlies c hc).start_lt_stop hsource
    exact ⟨Nat.lt_of_lt_of_le hlt hle, hle⟩

/-- A fault in the order of tokens that is marked on whole characters of the source. -/
structure Fault.IsMisorder (f : Fault) (source : List Char) : Prop where
  part : f.diagnostic.part = some .order
  first : f.first = none
  span : f.span.LiesIn source

/-- Whether an open list stands on whole characters of the source. -/
def Stage.OpensIn (s : Stage) (source : List Char) : Prop :=
  ∀ opening last, s.openList = some (opening, last) →
    opening.LiesIn source ∧ last.LiesIn source

section Steps

variable (source : List Char) (s : Stage)

theorem Stage.OpensIn.nextLine : s.nextLine.OpensIn source := by
  intro opening last hlist
  cases s <;> simp [Stage.nextLine, openList] at hlist

theorem Stage.OpensIn.unclosed (h : s.OpensIn source) (fault : Fault)
    (hfault : s.unclosed = some fault) : fault.IsMisorder source := by
  obtain ⟨opening, last, hlist, rfl⟩ := s.exists_openList_of_unclosed fault hfault
  obtain ⟨hopening, hlast⟩ := h opening last hlist
  exact ⟨rfl, rfl, hopening.cover _ _ _ hlast⟩

theorem Stage.OpensIn.solidStep (h : s.OpensIn source) (t : Located Token)
    (ht : t.span.LiesIn source) :
    match s.solidStep t with
    | .ok next => next.OpensIn source
    | .error fault => fault.IsMisorder source := by
  cases hstep : s.solidStep t with
  | ok next =>
    intro opening last hlist
    obtain ⟨rfl, rfl | ⟨-, -, earlier, hearlier⟩⟩ :=
      Stage.openList_of_solidStep s next t hstep opening last hlist
    · exact ⟨ht, ht⟩
    · exact ⟨(h opening earlier hearlier).1, ht⟩
  | error fault =>
    rcases s.solidStep_eq_error t fault hstep with
      ⟨-, rfl⟩ | ⟨opening, rfl, -, rfl⟩ | ⟨-, -, expected, rfl⟩
    · exact ⟨rfl, rfl, ht⟩
    · exact ⟨rfl, rfl, (h opening opening rfl).1.cover _ _ _ ht⟩
    · exact ⟨rfl, rfl, ht⟩

/-- A token leads to a stage whose list stands in the source, or to a fault there. -/
theorem Stage.OpensIn.step (h : s.OpensIn source) (t : Located Token)
    (ht : t.span.LiesIn source) :
    match s.step t with
    | .ok next => next.OpensIn source
    | .error fault => fault.IsMisorder source := by
  cases hblank : t.value.isBlank with
  | true =>
    rw [step_blank s t hblank]
    exact h
  | false =>
    cases hbreak : t.value.isBreak with
    | true =>
      rw [step_break s t hbreak]
      cases hfault : s.unclosed with
      | none => exact nextLine source s
      | some fault => exact h.unclosed source s fault hfault
    | false =>
      rw [step_solid s t (by simp [Token.isTrivia, hblank, hbreak])]
      exact h.solidStep source s t ht

/-- Wherever reading stops, it stops with a fault in the source. -/
theorem Stage.OpensIn.run (whole : Span) (hwhole : whole.LiesIn source) (h : s.OpensIn source)
    (ts : List (Located Token)) (hts : ∀ t ∈ ts, t.span.LiesIn source) (fault : Fault)
    (hfault : s.run whole ts = some fault) : fault.IsMisorder source := by
  -- The stage changes with every token; that its list stands in the source is kept.
  induction ts generalizing s with
  | nil =>
    unfold Stage.run endFault at hfault
    split at hfault
    · obtain rfl : Fault.missingBlockName whole = fault := by simpa using hfault
      exact ⟨rfl, rfl, hwhole⟩
    · exact h.unclosed source s fault hfault
  | cons t ts ih =>
    have hstep := h.step source s t (hts t (by simp))
    unfold Stage.run at hfault
    split at hfault
    case h_1 found hfound =>
      obtain rfl : found = fault := by simpa using hfault
      rwa [hfound] at hstep
    case h_2 next hnext =>
      rw [hnext] at hstep
      exact ih next hstep (fun u hu => hts u (by simp [hu])) hfault

end Steps

theorem isMisorder_of_readOutline (source : List Char)
    (hstrays : strays (place 0 (lexemes source)) = []) (fault : Fault)
    (h : readOutline (tokens (place 0 (lexemes source))) = .error fault) :
    fault.IsMisorder source := by
  have hrun := (faultOf_eq_some_iff _ fault).mpr h
  rw [faultOf_readOutline] at hrun
  obtain ⟨hstart, hstop⟩ := spanOf_tokens source hstrays
  have hopen : (Stage.lineStart false).OpensIn source := by simp [Stage.OpensIn, Stage.openList]
  exact hopen.run source _ _ (Span.liesIn_whole _ source hstart hstop) _
    (liesIn_of_mem_tokens source) fault hrun

theorem wellReported_misorder (source : String)
    (hstrays : strays (place 0 (lexemes source.toList)) = []) (fault : Fault)
    (h : readOutline (tokens (place 0 (lexemes source.toList))) = .error fault) :
    WellReported source [fault.diagnostic] := by
  have hfault := isMisorder_of_readOutline _ hstrays fault h
  refine ⟨by simp, .order hstrays fault h rfl (by simpa using hfault.part), ?_,
    List.pairwise_singleton _ _⟩
  intro d hd
  obtain rfl := List.mem_singleton.mp hd
  exact fault.wellPlaced _ hfault.span (by simp [hfault.first])

theorem liesIn_of_mem_nameTokens (source : List Char) (n : Located String)
    (h : n ∈ nameTokens (tokens (place 0 (lexemes source)))) : n.span.LiesIn source := by
  obtain ⟨text, ht⟩ := exists_token_of_mem_nameTokens _ n h
  exact liesIn_of_mem_tokens source _ ht

theorem NameFault.wellPlaced (source : List Char) (names : List (Located String)) (f : Fault)
    (h : NameFault names f) (hnames : ∀ n ∈ names, n.span.LiesIn source) :
    f.diagnostic.part = some .names ∧ f.diagnostic.WellPlaced source := by
  cases h with
  | emptyName role hname => exact ⟨rfl, Fault.wellPlaced _ _ (hnames _ hname) (by simp [Fault.first])⟩
  | repeatedElement hname hfirst hlt =>
    refine ⟨rfl, Fault.wellPlaced _ _ (hnames _ hname) ?_⟩
    rintro _ ⟨⟩
    exact ⟨hnames _ hfirst, hlt⟩
  | repeatedModifier hname hfirst hlt =>
    refine ⟨rfl, Fault.wellPlaced _ _ (hnames _ hname) ?_⟩
    rintro _ ⟨⟩
    exact ⟨hnames _ hfirst, hlt⟩

theorem wellReported_names (source : String)
    (hstrays : strays (place 0 (lexemes source.toList)) = []) (o : Outline)
    (hread : readOutline (tokens (place 0 (lexemes source.toList))) = .ok o)
    (h : o.nameFaults ≠ []) : WellReported source (o.nameFaults.map Fault.diagnostic) := by
  have hnames := names_eq_of_readOutline _ o hread
  have hapart : NamesApart o.names := by
    rw [hnames]
    exact namesApart_nameTokens source.toList
  have hlies : ∀ n ∈ o.names, n.span.LiesIn source.toList := by
    rw [hnames]
    exact liesIn_of_mem_nameTokens source.toList
  have hfaults (f : Fault) (hf : f ∈ o.nameFaults) :=
    (nameFault_of_mem_nameFaults o hapart f hf).wellPlaced _ _ f hlies
  refine ⟨by simpa using h, .names hstrays o hread rfl ?_, ?_, precedes_of_spans _ ?_⟩
  · simpa using fun f hf => (hfaults f hf).1
  · simpa using fun f hf => (hfaults f hf).2
  · have hspans : (o.names.map (·.span)).Pairwise fun s t => s.start < t.start ∧ s.stop ≤ t.start := by
      rw [List.pairwise_map]
      refine hapart.imp fun {n m} hlt => ?_
      have hle := n.span.start_le_stop
      omega
    exact hspans.sublist (sublist_nameFaults o)

/-- Every source is read, or is rejected with diagnostics of the first part of reading
that fails. -/
theorem readBlock_eq_ok_or_wellReported (source : String) :
    (∃ b, readBlock source = .ok b) ∨
      ∃ faults, readBlock source = .error faults ∧
        WellReported source (faults.map Fault.diagnostic) := by
  cases hstrays : strays (place 0 (lexemes source.toList)) with
  | cons c cs =>
    have hreported := wellReported_strays source (by simp [hstrays])
    rw [hstrays] at hreported
    exact Or.inr ⟨_, by simp [readBlock, Reading.ofSource, hstrays, Reading.result], hreported⟩
  | nil =>
    cases hread : readOutline (tokens (place 0 (lexemes source.toList))) with
    | error fault =>
      refine Or.inr ⟨[fault], ?_, wellReported_misorder source hstrays fault hread⟩
      simp [readBlock, Reading.ofSource, hstrays, Reading.ofTokens, hread, Reading.result]
    | ok o =>
      cases hfaults : o.nameFaults with
      | nil =>
        refine Or.inl ⟨o.toBlock, ?_⟩
        simp [readBlock, Reading.ofSource, hstrays, Reading.ofTokens, hread, hfaults, Reading.result]
      | cons f fs =>
        have hreported := wellReported_names source hstrays o hread (by simp [hfaults])
        rw [hfaults] at hreported
        refine Or.inr ⟨_, ?_, hreported⟩
        simp [readBlock, Reading.ofSource, hstrays, Reading.ofTokens, hread, hfaults, Reading.result]

end BemNotation.Source

namespace BemNotation

open Source

/-- Every source is a block or is rejected, well reported and with one report for each
diagnostic, in order and with its labels. -/
theorem parse_eq_ok_or_wellReported (source : String) :
    (∃ b, Block.parse source = .ok b) ∨
      ∃ ds, Block.parse source = .error (.source ds source) ∧ WellReported source ds ∧
        (Failure.source ds source).reports.map (·.labels) = ds.map (·.labels) := by
  rcases readBlock_eq_ok_or_wellReported source with ⟨b, h⟩ | ⟨faults, h, hreported⟩
  · exact Or.inl ⟨b, by simp [Block.parse, h, Except.mapError]⟩
  · refine Or.inr ⟨_, by simp [Block.parse, h, Except.mapError], hreported, ?_⟩
    rw [Failure.reports, List.map_map]
    rfl

end BemNotation
