import BemNotation.Proofs.NormalNames

/-!
Which names of a source are refused. A name is used in a scope: all elements share one,
and each list of modifiers has one of its own. It is at fault if param case leaves
nothing of it, or if an earlier name of its scope is the same in param case, and then the
first of those is pointed at. Every name at fault is reported once, in the order of the
source, and no other name is.
-/

namespace BemNotation.Source

open Naming (paramCase)

/-- A name, by what it is the name of, and the names before it in its scope. The name of
the block is in no scope. -/
inductive Use where
  | block (name : Located String)
  | element (earlier : List (Located String)) (name : Located String)
  | modifier (earlier : List (Located String)) (name : Located String)

/-- The modifiers of a list that comes after others of the same scope. -/
def modifierUses (earlier ms : List (Located String)) : List Use :=
  ms.mapIdx fun i m => .modifier (earlier ++ ms.take i) m

/-- The names of each line and the modifiers after it. -/
def elementUses (earlier : List (Located String)) (es : List Entry) : List Use :=
  (es.mapIdx fun i e =>
    .element (earlier ++ (es.take i).map Entry.name) e.name :: modifierUses [] e.modifiers).flatten

/-- The names of a block in the order of the source. -/
def Outline.uses (o : Outline) : List Use :=
  .block o.block.name :: modifierUses [] o.block.modifiers ++ elementUses [] o.elements

namespace Use

def role : Use → Role
  | block _ => .block
  | element _ _ => .element
  | modifier _ _ => .modifier

def name : Use → Located String
  | block n => n
  | element _ n => n
  | modifier _ n => n

def earlier : Use → List (Located String)
  | block _ => []
  | element ns _ => ns
  | modifier ns _ => ns

def key (u : Use) : String :=
  paramCase u.name.value

/-- The first of the names before this one that is the same in param case. -/
def first? (u : Use) : Option (Located String) :=
  u.earlier.find? fun n => paramCase n.value = u.key

def isAtFault (u : Use) : Bool :=
  u.key = "" || u.first?.isSome

/-- Whether the diagnostic reports the name. -/
inductive ReportedBy (u : Use) (d : Diagnostic) : Prop
  | empty (hkey : u.key = "") (hcode : d.code.map Code.text = some "E202")
      (hlabels : d.labels.map (fun l => (l.span, l.primary)) = [(u.name.span, true)])
      (hmessage : d.message = u.role.text ++ " `" ++ u.name.value ++ "` has no letters or digits")
  | repeatedElement (first : Located String) (hrole : u.role = .element) (hkey : u.key ≠ "")
      (hfirst : u.first? = some first) (hcode : d.code.map Code.text = some "E200")
      (hlabels : d.labels.map (fun l => (l.span, l.primary)) =
        [(u.name.span, true), (first.span, false)])
      (hmessage : d.message = "element `" ++ u.name.value ++ "` is declared multiple times")
  | repeatedModifier (first : Located String) (hrole : u.role = .modifier) (hkey : u.key ≠ "")
      (hfirst : u.first? = some first) (hcode : d.code.map Code.text = some "E201")
      (hlabels : d.labels.map (fun l => (l.span, l.primary)) =
        [(u.name.span, true), (first.span, false)])
      (hmessage : d.message = "modifier `" ++ u.name.value ++ "` is listed multiple times")

/-- What is wrong with the name if an earlier one is the same. -/
def clash? : Use → Span → Option Fault
  | block _, _ => none
  | element _ n, first => some (.repeatedElement n first)
  | modifier _ n, first => some (.repeatedModifier n first)

/-- What is wrong with the name, if anything is. -/
def fault? (u : Use) : Option Fault :=
  if u.key = "" then some (.emptyName u.role u.name)
  else u.first?.bind fun first => u.clash? first.span

theorem isSome_fault? (u : Use) : u.fault?.isSome = u.isAtFault := by
  by_cases hkey : u.key = ""
  · simp [isAtFault, fault?, hkey]
  · cases u with
    | block n => simp [isAtFault, fault?, hkey, first?, earlier]
    | element ns n =>
      cases hfirst : first? (element ns n) <;> simp [isAtFault, fault?, hkey, hfirst, clash?]
    | modifier ns n =>
      cases hfirst : first? (modifier ns n) <;> simp [isAtFault, fault?, hkey, hfirst, clash?]

theorem reportedBy_of_fault? (u : Use) (f : Fault) (h : u.fault? = some f) :
    u.ReportedBy f.diagnostic := by
  unfold fault? at h
  split at h
  case isTrue hkey =>
    obtain rfl := Option.some.inj h
    exact .empty hkey rfl rfl rfl
  case isFalse hkey =>
    obtain ⟨first, hfirst, hclash⟩ := Option.bind_eq_some_iff.mp h
    cases u with
    | block n => simp [clash?] at hclash
    | element ns n =>
      obtain rfl := Option.some.inj hclash
      exact .repeatedElement first rfl hkey hfirst rfl rfl rfl
    | modifier ns n =>
      obtain rfl := Option.some.inj hclash
      exact .repeatedModifier first rfl hkey hfirst rfl rfl rfl

end Use

/-- The scope that the names have entered. -/
def scopeOf (names : List (Located String)) : Scope :=
  names.map fun n => (paramCase n.value, n.span)

theorem scopeOf_enter (names : List (Located String)) (name : Located String) :
    (scopeOf names).enter name = scopeOf (names ++ [name]) := by
  simp [scopeOf, Scope.enter]

/-- A scope finds the first name that has the key. -/
theorem lookup_scopeOf (names : List (Located String)) (key : String) :
    (scopeOf names).lookup key =
      (names.find? fun n => paramCase n.value = key).map (·.span) := by
  induction names with
  | nil => rfl
  | cons n names ih =>
    rw [scopeOf, List.map_cons, ← scopeOf, List.find?_cons]
    by_cases hkey : paramCase n.value = key
    · simp [hkey]
    · have hne : (key == paramCase n.value) = false := by simpa using Ne.symm hkey
      simp [List.lookup_cons, hkey, hne, ih]

/-- A name is checked against the scope of the names before it. -/
theorem faults_scopeOf (u : Use) (clash : Located String → Span → Fault)
    (hclash : ∀ first, u.clash? first = some (clash u.name first)) :
    (scopeOf u.earlier).faults u.role clash u.name = u.fault?.toList := by
  by_cases hkey : paramCase u.name.value = ""
  · simp [Scope.faults, Use.fault?, Use.key, hkey]
  · have hlookup : (scopeOf u.earlier).lookup (paramCase u.name.value) =
        u.first?.map (·.span) := lookup_scopeOf u.earlier u.key
    cases hfirst : u.first? <;>
      simp [Scope.faults, Use.fault?, Use.key, hkey, hlookup, hfirst, hclash]

theorem modifierUses_cons (earlier : List (Located String)) (m : Located String)
    (ms : List (Located String)) :
    modifierUses earlier (m :: ms) = .modifier earlier m :: modifierUses (earlier ++ [m]) ms := by
  simp [modifierUses, List.mapIdx_cons]

theorem elementUses_cons (earlier : List (Located String)) (e : Entry) (es : List Entry) :
    elementUses earlier (e :: es) =
      .element earlier e.name :: modifierUses [] e.modifiers ++
        elementUses (earlier ++ [e.name]) es := by
  simp [elementUses, List.mapIdx_cons]

theorem filterMap_fault?_cons (u : Use) (us : List Use) :
    (u :: us).filterMap Use.fault? = u.fault?.toList ++ us.filterMap Use.fault? := by
  cases h : u.fault? <;> simp [h]

/-- The modifiers are checked one after another, and each enters the scope of the next. -/
theorem modifierFaults_scopeOf (earlier ms : List (Located String)) :
    modifierFaults (scopeOf earlier) ms = (modifierUses earlier ms).filterMap Use.fault? := by
  induction ms generalizing earlier with
  | nil => rfl
  | cons m ms ih =>
    rw [modifierUses_cons, filterMap_fault?_cons, ← ih, ← scopeOf_enter,
      ← faults_scopeOf (.modifier earlier m) .repeatedModifier fun _ => rfl]
    rfl

/-- The names of the elements share a scope, which the modifiers between them do not
enter. -/
theorem elementFaults_scopeOf (earlier : List (Located String)) (es : List Entry) :
    elementFaults (scopeOf earlier) es = (elementUses earlier es).filterMap Use.fault? := by
  induction es generalizing earlier with
  | nil => rfl
  | cons e es ih =>
    have hmodifiers := modifierFaults_scopeOf [] e.modifiers
    rw [elementUses_cons, List.cons_append, filterMap_fault?_cons, List.filterMap_append, ← ih,
      ← scopeOf_enter, ← hmodifiers, ← List.append_assoc,
      ← faults_scopeOf (.element earlier e.name) .repeatedElement fun _ => rfl]
    rfl

theorem blockNameFaults_eq (name : Located String) :
    blockNameFaults name = (Use.fault? (.block name)).toList := by
  by_cases hkey : paramCase name.value = "" <;>
    simp [blockNameFaults, Use.fault?, Use.key, Use.name, Use.role, Use.first?, Use.earlier, hkey]

theorem nameFaults_eq (o : Outline) : o.nameFaults = o.uses.filterMap Use.fault? := by
  have hmodifiers := modifierFaults_scopeOf [] o.block.modifiers
  have helements := elementFaults_scopeOf [] o.elements
  rw [Outline.uses, List.cons_append, filterMap_fault?_cons, List.filterMap_append, ← hmodifiers,
    ← helements, ← blockNameFaults_eq, ← List.append_assoc]
  rfl

/-- The faults are those of the names at fault, one for each. -/
theorem forall₂_reportedBy (us : List Use) :
    List.Forall₂ Use.ReportedBy (us.filter Use.isAtFault)
      ((us.filterMap Use.fault?).map Fault.diagnostic) := by
  induction us with
  | nil => exact .nil
  | cons u us ih =>
    have hfault := u.isSome_fault?
    cases h : u.fault? with
    | none =>
      rw [List.filter_cons_of_neg (by simp [← hfault, h]), List.filterMap_cons_none h]
      exact ih
    | some f =>
      rw [List.filter_cons_of_pos (by simp [← hfault, h]), List.filterMap_cons_some h]
      exact .cons (u.reportedBy_of_fault? f h) ih

theorem map_name_modifierUses (earlier ms : List (Located String)) :
    (modifierUses earlier ms).map Use.name = ms := by
  induction ms generalizing earlier with
  | nil => rfl
  | cons m ms ih => rw [modifierUses_cons, List.map_cons, ih, Use.name]

theorem map_name_elementUses (earlier : List (Located String)) (es : List Entry) :
    (elementUses earlier es).map Use.name = es.flatMap Entry.names := by
  induction es generalizing earlier with
  | nil => rfl
  | cons e es ih =>
    rw [elementUses_cons, List.map_append, List.map_cons, map_name_modifierUses, ih]
    rfl

theorem map_name_uses (o : Outline) : o.uses.map Use.name = o.names := by
  rw [Outline.uses, List.map_append, List.map_cons, map_name_modifierUses, map_name_elementUses]
  rfl

/-- The outline of a source whose tokens are in order. -/
def Reading.outline? : Reading → Option Outline
  | unscanned _ => none
  | misordered _ _ => none
  | misnamed _ o _ => some o
  | complete _ o => some o

theorem readBlock_of_outline? (source : String) (o : Outline)
    (h : (Reading.ofSource source).outline? = some o) :
    readOutline (tokens (place 0 (lexemes source.toList))) = .ok o ∧
      faultsOf source = o.nameFaults ∧ (readBlock source = .ok o.toBlock ↔ o.nameFaults = []) := by
  unfold faultsOf readBlock
  unfold Reading.ofSource at h ⊢
  cases hstrays : strays (place 0 (lexemes source.toList)) with
  | cons c cs => simp [hstrays, Reading.outline?] at h
  | nil =>
    simp only [hstrays, Reading.ofTokens] at h ⊢
    cases hread : readOutline (tokens (place 0 (lexemes source.toList))) with
    | error fault => simp [hread, Reading.outline?] at h
    | ok outline =>
      cases hfaults : outline.nameFaults with
      | nil =>
        obtain rfl : outline = o := by simpa [hread, hfaults, Reading.outline?] using h
        simp [hfaults, Reading.result]
      | cons f fs =>
        obtain rfl : outline = o := by simpa [hread, hfaults, Reading.outline?] using h
        simp [hfaults, Reading.result]

end BemNotation.Source

namespace BemNotation

open Source

/-- The names of a source whose tokens are in order, each reported if it is at fault and
in no other case. -/
theorem reportedBy_diagnosticsOf (source : String) (o : Outline)
    (h : (Reading.ofSource source).outline? = some o) :
    o.uses.map Use.name = nameTokens (tokens (place 0 (lexemes source.toList))) ∧
      List.Forall₂ Use.ReportedBy (o.uses.filter Use.isAtFault) (diagnosticsOf source) ∧
      (Block.parse source = .ok o.toBlock ↔ ∀ u ∈ o.uses, u.isAtFault = false) := by
  obtain ⟨hread, hfaults, hblock⟩ := readBlock_of_outline? source o h
  refine ⟨?_, ?_, ?_⟩
  · rw [map_name_uses, names_eq_of_readOutline _ o hread]
  · rw [diagnosticsOf_eq, hfaults, nameFaults_eq]
    exact forall₂_reportedBy o.uses
  · have hparse : Block.parse source = .ok o.toBlock ↔ readBlock source = .ok o.toBlock := by
      unfold Block.parse
      cases readBlock source <;> simp [Except.mapError]
    rw [hparse, hblock, nameFaults_eq, List.filterMap_eq_nil_iff]
    simp [← Use.isSome_fault?]

/-- The third `icon` is reported with the first, and the repeated element is no reason to
skip its modifiers. -/
theorem reportedBy_diagnosticsOf_icon :
    let source := "icon[_,b,B,-b]\n-[b]\nicon[x]\nICON[x,X]\nicon"
    ∃ o, (Reading.ofSource source).outline? = some o ∧
      (o.uses.filter Use.isAtFault).map
          (fun u => (u.name.span.start, u.first?.map (·.span.start))) =
        [(5, none), (9, some 7), (11, some 7), (15, none), (28, some 20), (35, some 33),
          (38, some 20)] ∧
      List.Forall₂ Use.ReportedBy (o.uses.filter Use.isAtFault) (diagnosticsOf source) := by
  intro source
  have hread : (Reading.ofSource source).outline?.isSome = true := by decide +kernel
  have hfaulty : ((Reading.ofSource source).outline?.map fun o =>
      (o.uses.filter Use.isAtFault).map
        fun u => (u.name.span.start, u.first?.map (·.span.start))) =
      some [(5, none), (9, some 7), (11, some 7), (15, none), (28, some 20), (35, some 33),
        (38, some 20)] := by decide +kernel
  obtain ⟨o, ho⟩ := Option.isSome_iff_exists.mp hread
  rw [ho, Option.map_some, Option.some.injEq] at hfaulty
  exact ⟨o, ho, hfaulty, (reportedBy_diagnosticsOf _ o ho).2.1⟩

end BemNotation
