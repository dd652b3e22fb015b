import BemNotation.Proofs.SmallForms
import BemNotation.Proofs.Rejections

/-!
Param case as a normal form. The texts that it leaves alone are small words with a hyphen
between each two, and it makes such a text of every identifier. It makes the empty text of
identifiers without letters and digits only, so a source whose tokens are in order is told
of an empty name once for each such name in it, and for no other.
-/

namespace BemNotation.Naming

def hasWordChar (s : String) : Bool :=
  s.toList.any isWordChar

/-- Small words with a hyphen between each two, and no other character. -/
structure IsNormalName (s : String) : Prop where
  joined : ∃ ws, (∀ w ∈ ws, IsSmallWord w) ∧ s.toList = List.intercalate ['-'] ws
  chars : ∀ c ∈ s.toList, c = '-' ∨ isSmall c = true
  noLeading : s.toList.head? ≠ some '-'
  noTrailing : s.toList.getLast? ≠ some '-'
  noDoubled : ¬ ['-', '-'] <:+: s.toList

theorem head?_intercalate (w : List Char) (ws : List (List Char)) (hw : w ≠ []) :
    (List.intercalate ['-'] (w :: ws)).head? = w.head? := by
  obtain ⟨c, w, rfl⟩ := List.exists_cons_of_ne_nil hw
  cases ws <;> simp [List.intercalate_cons_cons]

/-- Of two characters next to each other, one is no hyphen. -/
theorem isChain_intercalate (ws : List (List Char)) (h : ∀ w ∈ ws, IsSmallWord w) :
    (List.intercalate ['-'] ws).IsChain fun c d => c ≠ '-' ∨ d ≠ '-' := by
  induction ws with
  | nil => simp
  | cons w ws ih =>
    obtain ⟨hne, hsmall⟩ := h w (by simp)
    have hword : w.IsChain fun c d => c ≠ '-' ∨ d ≠ '-' := by
      refine List.Pairwise.isChain (List.pairwise_of_forall_mem_list fun c hc d _ => ?_)
      exact Or.inl (ne_hyphen_of_isSmall c (hsmall c hc))
    cases ws with
    | nil => simpa using hword
    | cons v ws =>
      obtain ⟨hvne, hvsmall⟩ := h v (by simp)
      rw [List.intercalate_cons_cons, List.append_assoc]
      refine hword.append ((ih fun u hu => h u (by simp [hu])).cons ?_) ?_
      · rw [head?_intercalate v ws hvne]
        exact fun d hd => Or.inr (ne_hyphen_of_isSmall d (hvsmall d (List.mem_of_head? hd)))
      · exact fun c hc d _ => Or.inl (ne_hyphen_of_isSmall c (hsmall c (List.mem_of_getLast? hc)))

theorem isNormalName_of_joined (s : String) (ws : List (List Char)) (h : ∀ w ∈ ws, IsSmallWord w)
    (hs : s.toList = List.intercalate ['-'] ws) : IsNormalName s := by
  constructor
  case joined => exact ⟨ws, h, hs⟩
  case chars =>
    intro c hc
    rw [hs] at hc
    rcases mem_intercalate c _ _ hc with hc | ⟨w, hw, hc⟩
    · exact Or.inl (by simpa using hc)
    · exact Or.inr ((h w hw).2 c hc)
  case noLeading =>
    rw [hs]
    cases ws with
    | nil => simp
    | cons w ws =>
      obtain ⟨hne, hsmall⟩ := h w (by simp)
      rw [head?_intercalate w ws hne]
      exact fun hc => ne_hyphen_of_isSmall _ (hsmall _ (List.mem_of_head? hc)) rfl
  case noTrailing =>
    rw [hs]
    rcases List.eq_nil_or_concat ws with rfl | ⟨init, w, rfl⟩
    · simp
    · rw [List.concat_eq_append] at h ⊢
      obtain ⟨hne, hsmall⟩ := h w (by simp)
      rw [getLast?_intercalate init w hne]
      exact fun hc => ne_hyphen_of_isSmall _ (hsmall _ (List.mem_of_getLast? hc)) rfl
  case noDoubled =>
    -- Two hyphens side by side would break the chain wherever they stand.
    rintro ⟨before, after, hsplit⟩
    have hchain := isChain_intercalate ws h
    rw [← hs, ← hsplit] at hchain
    simpa using hchain.left_of_append.right_of_append

/-- The normal names are those that param case leaves alone. -/
theorem paramCase_eq_self_iff (s : String) : paramCase s = s ↔ IsNormalName s := by
  constructor
  · intro h
    obtain ⟨ws, hws, hchars⟩ := exists_smallWords s.toList
    refine isNormalName_of_joined s ws hws ?_
    rw [← hchars, ← h]
    simp [paramCase, paramChars_paramChars]
  · rintro ⟨⟨ws, hws, hs⟩, -⟩
    rw [paramCase, hs, paramChars_intercalate ws hws, ← hs, String.ofList_toList]

theorem paramCase_eq_empty_iff (s : String) : paramCase s = "" ↔ hasWordChar s = false := by
  rw [paramCase, ← String.toList_inj, String.toList_ofList, hasWordChar, List.any_eq_false]
  simpa using paramChars_eq_nil_iff s.toList

end BemNotation.Naming

namespace BemNotation.Source

open Naming (hasWordChar paramCase)

/-- The name of a line and the modifiers after it, each with what it is the name of. -/
def Entry.roles (role : Role) (e : Entry) : List (Role × Located String) :=
  (role, e.name) :: e.modifiers.map (Prod.mk .modifier)

def Outline.roles (o : Outline) : List (Role × Located String) :=
  o.block.roles .block ++ o.elements.flatMap (Entry.roles .element)

/-- The names of a source whose tokens are in order. -/
def Reading.roles : Reading → List (Role × Located String)
  | unscanned _ => []
  | misordered _ _ => []
  | misnamed _ o _ => o.roles
  | complete _ o => o.roles

def Fault.isEmptyName (f : Fault) : Bool :=
  f.diagnostic.code = some .emptyName

/-- A fault for each of the names that has no letter or digit. -/
def emptyNames (names : List (Role × Located String)) : List Fault :=
  (names.filter fun n => !hasWordChar n.2.value).map fun n => .emptyName n.1 n.2

theorem emptyNames_cons (n : Role × Located String) (names : List (Role × Located String)) :
    emptyNames (n :: names) = emptyNames [n] ++ emptyNames names := by
  rw [← List.singleton_append, emptyNames, List.filter_append, List.map_append]
  rfl

theorem emptyNames_append (names more : List (Role × Located String)) :
    emptyNames (names ++ more) = emptyNames names ++ emptyNames more := by
  rw [emptyNames, List.filter_append, List.map_append]
  rfl

theorem emptyNames_singleton (role : Role) (name : Located String) :
    emptyNames [(role, name)] =
      if (paramCase name.value).isEmpty then [.emptyName role name] else [] := by
  have hiff := Naming.paramCase_eq_empty_iff name.value
  by_cases hempty : paramCase name.value = ""
  · simp [emptyNames, hempty, hiff.mp hempty]
  · have hword : hasWordChar name.value = true := by simpa [hiff] using hempty
    simp [emptyNames, hempty, hword]

/-- A clash of names is not reported as an empty name. -/
theorem Scope.filter_faults (scope : Scope) (role : Role) (clash : Located String → Span → Fault)
    (name : Located String) (hclash : ∀ first, (clash name first).isEmptyName = false) :
    (scope.faults role clash name).filter Fault.isEmptyName = emptyNames [(role, name)] := by
  rw [emptyNames_singleton]
  by_cases hempty : paramCase name.value = ""
  · simp [faults, hempty, Fault.isEmptyName, Fault.diagnostic]
  · cases hlookup : List.lookup (paramCase name.value) scope <;>
      simp [faults, hempty, hlookup, hclash]

theorem filter_modifierFaults (scope : Scope) (ms : List (Located String)) :
    (modifierFaults scope ms).filter Fault.isEmptyName =
      emptyNames (ms.map (Prod.mk .modifier)) := by
  -- The scope grows with every name, but whether a name is empty does not depend on it.
  induction ms generalizing scope with
  | nil => rfl
  | cons m ms ih =>
    rw [modifierFaults, List.filter_append, scope.filter_faults _ _ m fun _ => rfl, ih, List.map_cons,
      emptyNames_cons _ (ms.map _)]

theorem filter_elementFaults (scope : Scope) (es : List Entry) :
    (elementFaults scope es).filter Fault.isEmptyName =
      emptyNames (es.flatMap (Entry.roles .element)) := by
  induction es generalizing scope with
  | nil => rfl
  | cons e es ih =>
    rw [elementFaults, List.filter_append, List.filter_append,
      scope.filter_faults _ _ e.name fun _ => rfl, filter_modifierFaults, ih, List.flatMap_cons,
      emptyNames_append, Entry.roles, emptyNames_cons _ (e.modifiers.map _)]

/-- Of the names of a block, those are reported as empty that have no letter or digit. -/
theorem filter_nameFaults (o : Outline) :
    o.nameFaults.filter Fault.isEmptyName = emptyNames o.roles := by
  have hname : (blockNameFaults o.block.name).filter Fault.isEmptyName =
      emptyNames [(.block, o.block.name)] := by
    rw [emptyNames_singleton, blockNameFaults]
    split <;> rfl
  rw [Outline.nameFaults, List.filter_append, List.filter_append, hname, filter_modifierFaults,
    filter_elementFaults, Outline.roles, emptyNames_append, Entry.roles,
    emptyNames_cons _ (o.block.modifiers.map _)]

theorem isEmptyName_of_part (f : Fault) (h : f.diagnostic.part ≠ some .names) :
    f.isEmptyName = false := by
  cases f <;> first | rfl | exact absurd rfl h

/-- What is reported on a source. -/
def faultsOf (source : String) : List Fault :=
  match readBlock source with
  | .ok _ => []
  | .error faults => faults

/-- No part of reading before that of the names reports one as empty. -/
theorem filter_faultsOf (source : String) :
    (faultsOf source).filter Fault.isEmptyName = emptyNames (Reading.ofSource source).roles := by
  unfold faultsOf readBlock
  cases hstrays : strays (place 0 (lexemes source.toList)) with
  | cons c cs =>
    simp only [Reading.ofSource, hstrays, Reading.result, Reading.roles]
    rw [List.filter_eq_nil_iff.mpr]
    · rfl
    · simp [Fault.isEmptyName, Fault.diagnostic]
  | nil =>
    cases hread : readOutline (tokens (place 0 (lexemes source.toList))) with
    | error fault =>
      have hfault := isMisorder_of_readOutline _ hstrays fault hread
      have hempty := isEmptyName_of_part fault (by simp [hfault.part])
      simp [Reading.ofSource, hstrays, Reading.ofTokens, hread, Reading.result, Reading.roles, hempty,
        emptyNames]
    | ok o =>
      have hnames := filter_nameFaults o
      cases hfaults : o.nameFaults <;>
        simpa [Reading.ofSource, hstrays, Reading.ofTokens, hread, hfaults, Reading.result,
          Reading.roles] using hnames

end BemNotation.Source

namespace BemNotation

open Naming Source

/-- What a source is rejected with, if it is. -/
def diagnosticsOf (source : String) : List Diagnostic :=
  match Block.parse source with
  | .error (.source diagnostics _) => diagnostics
  | _ => []

theorem diagnosticsOf_eq (source : String) :
    diagnosticsOf source = (faultsOf source).map Fault.diagnostic := by
  unfold diagnosticsOf faultsOf Block.parse
  cases readBlock source <;> rfl

/-- Param case takes every text to a normal name and leaves that alone. The name is empty
where the text has no letter or digit, and each name of a source for which this holds is
reported, in order. -/
theorem isNormalName_paramCase :
    (∀ s, paramCase (paramCase s) = paramCase s ∧ IsNormalName (paramCase s) ∧
      (paramCase s = "" ↔ hasWordChar s = false)) ∧
    ∀ source, (diagnosticsOf source).filter (·.code = some .emptyName) =
      (((Reading.ofSource source).roles.filter fun n => !hasWordChar n.2.value).map fun n =>
        (Fault.emptyName n.1 n.2).diagnostic) := by
  constructor
  · intro s
    have hfixed := paramCase_paramCase s
    exact ⟨hfixed, (paramCase_eq_self_iff _).mp hfixed, paramCase_eq_empty_iff s⟩
  · intro source
    have hfaults := congrArg (List.map Fault.diagnostic) (filter_faultsOf source)
    rw [emptyNames, List.map_map] at hfaults
    rw [diagnosticsOf_eq, List.filter_map]
    exact hfaults

end BemNotation
