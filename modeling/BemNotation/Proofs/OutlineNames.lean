import BemNotation.Proofs.EntryTokens
import BemNotation.Proofs.SourceSpans
import BemNotation.Source.Names

/-!
The names of an outline are the names among the tokens, in the order of the source. So
the names that are found at fault stand one after another there, and the first use that
a fault points back to stands before the name that repeats it.
-/

namespace BemNotation.Source

/-- The names among the tokens. -/
def nameTokens (ts : List (Located Token)) : List (Located String) :=
  ts.filterMap fun t =>
    match t.value with
    | .name text => some ⟨String.ofList text, t.span⟩
    | _ => none

def Entry.names (e : Entry) : List (Located String) :=
  e.name :: e.modifiers

def Outline.names (o : Outline) : List (Located String) :=
  (o.block :: o.elements).flatMap Entry.names

theorem nameTokens_name (text : List Char) (span : Span) (ts : List (Located Token)) :
    nameTokens (⟨.name text, span⟩ :: ts) = ⟨String.ofList text, span⟩ :: nameTokens ts := rfl

theorem nameTokens_cons (t : Located Token) (ts : List (Located Token)) :
    nameTokens (t :: ts) = nameTokens [t] ++ nameTokens ts := by
  rw [← List.singleton_append, nameTokens, List.filterMap_append]
  rfl

theorem nameTokens_of_readNames (opening last : Span) (ts rest : List (Located Token))
    (names : List (Located String)) (h : readNames opening last ts = .ok (names, rest)) :
    nameTokens ts = names ++ nameTokens rest := by
  fun_induction readNames opening last ts generalizing names rest with
  | case1 => simp at h
  | case2 => simp at h
  | case3 last text span comma ts ih =>
    obtain ⟨⟨others, tail⟩, hread, hreturn⟩ := exists_of_bind_eq_ok _ _ _ h
    obtain ⟨rfl, rfl⟩ : ⟨String.ofList text, span⟩ :: others = names ∧ tail = rest := by
      simpa [pure, Except.pure] using hreturn
    exact congrArg _ (ih tail others hread)
  | case4 last text span closing ts =>
    obtain ⟨rfl, rfl⟩ : [⟨String.ofList text, span⟩] = names ∧ ts = rest := by simpa using h
    rfl
  | case5 => simp at h
  | case6 => simp at h

theorem nameTokens_of_readModifiers (ts rest : List (Located Token))
    (names : List (Located String)) (h : readModifiers ts = .ok (names, rest)) :
    nameTokens ts = names ++ nameTokens rest := by
  unfold readModifiers at h
  split at h
  · simp at h
  · have hnames := nameTokens_of_readNames _ _ _ _ _ h
    exact hnames
  · obtain ⟨rfl, rfl⟩ : [] = names ∧ ts = rest := by simpa using h
    rfl

theorem nameTokens_of_readEntry (noName : Located Token → Fault) (t : Located Token)
    (ts : List (Located Token)) (e : Entry) (h : readEntry noName t ts = .ok e) :
    nameTokens (t :: ts) = e.names := by
  unfold readEntry at h
  split at h
  case h_2 => simp at h
  case h_1 text span =>
    obtain ⟨⟨modifiers, rest⟩, hread, hreturn⟩ := exists_of_bind_eq_ok _ _ _ h
    cases rest with
    | cons t rest => simp at hreturn
    | nil =>
      obtain rfl : Entry.mk ⟨String.ofList text, span⟩ modifiers = e := by
        simpa [pure, Except.pure] using hreturn
      rw [nameTokens_name, nameTokens_of_readModifiers ts [] modifiers hread, nameTokens,
        List.filterMap_nil, List.append_nil]
      rfl

theorem nameTokens_of_readElements (lines : List (List (Located Token))) (es : List Entry)
    (h : readElements lines = .ok es) : lines.flatMap nameTokens = es.flatMap Entry.names := by
  fun_induction readElements lines generalizing es with
  | case1 =>
    obtain rfl : [] = es := by simpa using h
    rfl
  | case2 lines ih => exact ih es h
  | case3 t ts lines ih =>
    obtain ⟨entry, hentry, h⟩ := exists_of_bind_eq_ok _ _ _ h
    obtain ⟨others, hrest, h⟩ := exists_of_bind_eq_ok _ _ _ h
    obtain rfl : entry :: others = es := by simpa [pure, Except.pure] using h
    rw [List.flatMap_cons, List.flatMap_cons, nameTokens_of_readEntry _ t ts entry hentry,
      ih others hrest]

theorem nameTokens_of_readLines (whole : Span) (lines : List (List (Located Token)))
    (o : Outline) (h : readLines whole lines = .ok o) : lines.flatMap nameTokens = o.names := by
  induction lines with
  | nil => simp [readLines] at h
  | cons line lines ih =>
    cases line with
    | nil => exact ih h
    | cons t ts =>
      unfold readLines at h
      obtain ⟨entry, hentry, h⟩ := exists_of_bind_eq_ok _ _ _ h
      obtain ⟨others, hrest, h⟩ := exists_of_bind_eq_ok _ _ _ h
      obtain rfl : Outline.mk entry others = o := by simpa [pure, Except.pure] using h
      rw [List.flatMap_cons, nameTokens_of_readEntry _ t ts entry hentry,
        nameTokens_of_readElements lines others hrest]
      rfl

theorem flatMap_nameTokens_extendFirst (t : Located Token) (lines : List (List (Located Token))) :
    (Naming.extendFirst t lines).flatMap nameTokens = nameTokens [t] ++ lines.flatMap nameTokens := by
  cases lines with
  | nil => rfl
  | cons line lines =>
    change nameTokens (t :: line) ++ lines.flatMap nameTokens = _
    rw [nameTokens_cons, List.append_assoc]
    rfl

/-- No name is lost where the tokens are cut into lines. -/
theorem flatMap_nameTokens_tokenLines (ts : List (Located Token)) :
    (tokenLines ts).flatMap nameTokens = nameTokens ts := by
  induction ts with
  | nil => rfl
  | cons t ts ih =>
    obtain ⟨value, span⟩ := t
    rw [nameTokens_cons, ← ih]
    cases value with
    | blank text => rfl
    | lineBreak returns => rfl
    | name text => exact flatMap_nameTokens_extendFirst _ _
    | openBracket => exact flatMap_nameTokens_extendFirst _ _
    | closeBracket => exact flatMap_nameTokens_extendFirst _ _
    | comma => exact flatMap_nameTokens_extendFirst _ _

/-- The names of the outline, in the order of the source. -/
theorem names_eq_of_readOutline (ts : List (Located Token)) (o : Outline)
    (h : readOutline ts = .ok o) : o.names = nameTokens ts := by
  rw [← flatMap_nameTokens_tokenLines, nameTokens_of_readLines _ _ o h]

/-- Names that stand one after another, each pair with something in between. -/
def NamesApart (names : List (Located String)) : Prop :=
  names.Pairwise fun x y => x.span.stop < y.span.start

theorem exists_token_of_mem_nameTokens (ts : List (Located Token)) (n : Located String)
    (h : n ∈ nameTokens ts) : ∃ text, ⟨.name text, n.span⟩ ∈ ts := by
  obtain ⟨⟨value, span⟩, ht, hname⟩ := List.mem_filterMap.mp h
  cases value with
  | name text =>
    obtain rfl : ⟨String.ofList text, span⟩ = n := by simpa using hname
    exact ⟨text, ht⟩
  | _ => simp at hname

theorem namesApart_nameTokens (source : List Char) :
    NamesApart (nameTokens (tokens (place 0 (lexemes source)))) := by
  have hplaced := stop_lt_start_of_place 0 (lexemes source) (isChain_lexemes source)
    (text_ne_nil_of_mem_lexemes source)
  apply (pairwise_tokens _ _ hplaced).filterMap
  rintro ⟨_ | _, span⟩ ⟨_ | _, span'⟩ hlt n hn m hm <;> simp_all
  obtain rfl := hn
  obtain rfl := hm
  exact hlt rfl rfl

/-- The place that a fault marks as the mistake. -/
def Fault.span : Fault → Span
  | strayCharacter c => c.span
  | unexpectedToken found _ => found.span
  | unclosedList span => span
  | missingBlockName span => span
  | emptyList span => span
  | emptyName _ name => name.span
  | repeatedElement name _ => name.span
  | repeatedModifier name _ => name.span

/-- A fault of one of the names, where what it points back to is a name before it. -/
inductive NameFault (names : List (Located String)) : Fault → Prop
  | emptyName {name : Located String} (role : Role) (h : name ∈ names) :
      NameFault names (.emptyName role name)
  | repeatedElement {name first : Located String} (h : name ∈ names) (hfirst : first ∈ names)
      (hlt : first.span.stop < name.span.start) :
      NameFault names (.repeatedElement name first.span)
  | repeatedModifier {name first : Located String} (h : name ∈ names) (hfirst : first ∈ names)
      (hlt : first.span.stop < name.span.start) :
      NameFault names (.repeatedModifier name first.span)

/-- Whether every name in the scope is one of these. -/
def Scope.From (scope : Scope) (names : List (Located String)) : Prop :=
  ∀ use ∈ scope, ∃ name ∈ names, name.span = use.2

theorem Scope.from_nil (names : List (Located String)) : Scope.From [] names := by
  simp [From]

theorem Scope.From.mono (scope : Scope) (names more : List (Located String))
    (h : scope.From names) : scope.From (names ++ more) := by
  intro use huse
  obtain ⟨name, hname, hspan⟩ := h use huse
  exact ⟨name, by simp [hname], hspan⟩

theorem Scope.From.enter (scope : Scope) (names : List (Located String)) (name : Located String)
    (h : scope.From names) : (scope.enter name).From (names ++ [name]) := by
  intro use huse
  rcases List.mem_append.mp huse with huse | huse
  · exact h.mono _ _ _ use huse
  · obtain rfl : use = (Naming.paramCase name.value, name.span) := by simpa using huse
    exact ⟨name, by simp, rfl⟩

/-- What is found in a scope is a fault of the name or none. -/
theorem Scope.faults_eq (scope : Scope) (role : Role) (clash : Located String → Span → Fault)
    (name : Located String) :
    scope.faults role clash name = [] ∨ scope.faults role clash name = [.emptyName role name] ∨
      ∃ use ∈ scope, scope.faults role clash name = [clash name use.2] := by
  by_cases hempty : Naming.paramCase name.value = ""
  · exact Or.inr (Or.inl (by simp [faults, hempty]))
  · cases hlookup : List.lookup (Naming.paramCase name.value) scope with
    | none => exact Or.inl (by simp [faults, hempty, hlookup])
    | some first =>
      obtain ⟨earlier, later, hscope, -⟩ := List.lookup_eq_some_iff.mp hlookup
      have huse : (Naming.paramCase name.value, first) ∈ scope := by simp [hscope]
      exact Or.inr (Or.inr ⟨_, huse, by simp [faults, hempty, hlookup]⟩)

theorem Scope.sublist_faults (scope : Scope) (role : Role) (clash : Located String → Span → Fault)
    (name : Located String) (hclash : ∀ first, (clash name first).span = name.span) :
    ((scope.faults role clash name).map Fault.span).Sublist [name.span] := by
  rcases scope.faults_eq role clash name with h | h | ⟨use, -, h⟩ <;> rw [h]
  · exact List.nil_sublist _
  · exact .refl _
  · simp [hclash]

theorem sublist_modifierFaults (scope : Scope) (ms : List (Located String)) :
    ((modifierFaults scope ms).map Fault.span).Sublist (ms.map (·.span)) := by
  induction ms generalizing scope with
  | nil => exact .refl _
  | cons m ms ih =>
    rw [modifierFaults, List.map_append, ← List.singleton_append, List.map_append]
    exact (scope.sublist_faults _ _ m fun _ => rfl).append (ih _)

theorem sublist_elementFaults (scope : Scope) (es : List Entry) :
    ((elementFaults scope es).map Fault.span).Sublist
      ((es.flatMap Entry.names).map (·.span)) := by
  induction es generalizing scope with
  | nil => exact .refl _
  | cons e es ih =>
    have hname := scope.sublist_faults .element .repeatedElement e.name fun _ => rfl
    have hentry := hname.append (sublist_modifierFaults [] e.modifiers)
    rw [elementFaults, List.map_append, List.map_append, List.flatMap_cons, List.map_append]
    exact hentry.append (ih _)

/-- Faults come in the order of the names, at most one for each. -/
theorem sublist_nameFaults (o : Outline) :
    (o.nameFaults.map Fault.span).Sublist (o.names.map (·.span)) := by
  have hname : ((blockNameFaults o.block.name).map Fault.span).Sublist [o.block.name.span] := by
    unfold blockNameFaults
    split
    · exact .refl _
    · exact List.nil_sublist _
  have hentry := hname.append (sublist_modifierFaults [] o.block.modifiers)
  rw [Outline.nameFaults, Outline.names, List.map_append, List.map_append, List.flatMap_cons,
    List.map_append]
  exact hentry.append (sublist_elementFaults [] o.elements)

section Apart

variable (names : List (Located String)) (hapart : NamesApart names)

include hapart

theorem nameFault_of_mem_faults (before after : List (Located String)) (name : Located String)
    (hnames : names = before ++ name :: after) (scope : Scope) (hscope : scope.From before)
    (role : Role) (clash : Located String → Span → Fault)
    (hclash : ∀ first ∈ names, first.span.stop < name.span.start →
      NameFault names (clash name first.span)) :
    ∀ fault ∈ scope.faults role clash name, NameFault names fault := by
  have hname : name ∈ names := by simp [hnames]
  rcases scope.faults_eq role clash name with h | h | ⟨use, huse, h⟩ <;> rw [h]
  · simp
  · intro fault hfault
    obtain rfl := List.mem_singleton.mp hfault
    exact .emptyName role hname
  · obtain ⟨first, hfirst, hspan⟩ := hscope use huse
    rw [hnames] at hapart
    have hlt := (List.pairwise_append.mp hapart).2.2 first hfirst name (by simp)
    intro fault hfault
    obtain rfl := List.mem_singleton.mp hfault
    rw [← hspan]
    exact hclash first (by simp [hnames, hfirst]) hlt

/-- The names of the scope are among those before the modifiers. -/
theorem nameFault_of_mem_modifierFaults (before ms after : List (Located String))
    (hnames : names = before ++ (ms ++ after)) (scope : Scope) (hscope : scope.From before) :
    ∀ fault ∈ modifierFaults scope ms, NameFault names fault := by
  -- Each step moves a modifier over to the names before, as it enters the scope.
  induction ms generalizing before scope with
  | nil => simp [modifierFaults]
  | cons m ms ih =>
    intro fault hfault
    rcases List.mem_append.mp hfault with hfault | hfault
    · exact nameFault_of_mem_faults names hapart before (ms ++ after) m hnames scope hscope _ _
        (fun first hfirst hlt => .repeatedModifier (by simp [hnames]) hfirst hlt) fault hfault
    · exact ih (before ++ [m]) (by simp [hnames]) _ (hscope.enter _ _ m) fault hfault

theorem nameFault_of_mem_elementFaults (before : List (Located String)) (es : List Entry)
    (hnames : names = before ++ es.flatMap Entry.names) (scope : Scope)
    (hscope : scope.From before) : ∀ fault ∈ elementFaults scope es, NameFault names fault := by
  induction es generalizing before scope with
  | nil => simp [elementFaults]
  | cons e es ih =>
    have hsplit : names = before ++ e.name :: (e.modifiers ++ es.flatMap Entry.names) := by
      simp [hnames, Entry.names]
    intro fault hfault
    rw [elementFaults, List.mem_append, List.mem_append] at hfault
    rcases hfault with (hfault | hfault) | hfault
    · exact nameFault_of_mem_faults names hapart before _ e.name hsplit scope hscope _ _
        (fun first hfirst hlt => .repeatedElement (by simp [hsplit]) hfirst hlt) fault hfault
    · exact nameFault_of_mem_modifierFaults names hapart (before ++ [e.name]) e.modifiers
        (es.flatMap Entry.names) (by simp [hsplit]) [] (Scope.from_nil _) fault hfault
    · have hentered := (hscope.enter _ _ e.name).mono _ _ e.modifiers
      exact ih _ (by simp [hsplit]) _ hentered fault hfault

end Apart

theorem nameFault_of_mem_nameFaults (o : Outline) (h : NamesApart o.names) :
    ∀ fault ∈ o.nameFaults, NameFault o.names fault := by
  intro fault hfault
  rw [Outline.nameFaults, List.mem_append, List.mem_append] at hfault
  rcases hfault with (hfault | hfault) | hfault
  · unfold blockNameFaults at hfault
    split at hfault
    · obtain rfl := List.mem_singleton.mp hfault
      exact .emptyName _ (by simp [Outline.names, Entry.names])
    · simp at hfault
  · exact nameFault_of_mem_modifierFaults _ h [o.block.name] o.block.modifiers
      (o.elements.flatMap Entry.names) rfl [] (Scope.from_nil _) fault hfault
  · exact nameFault_of_mem_elementFaults _ h o.block.names o.elements rfl [] (Scope.from_nil _)
      fault hfault

end BemNotation.Source
