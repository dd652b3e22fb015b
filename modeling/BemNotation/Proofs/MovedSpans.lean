import BemNotation.Proofs.NotationReading
import Mathlib.Order.Hom.Basic
import Mathlib.Order.MinMax

/-!
Reading with all offsets moved. Spans are carried along by reading and only compared, so a
map that keeps the order of offsets can be applied to the tokens before they are read, or
to the names and faults afterwards.
-/

namespace BemNotation.Source

open Naming (extendFirst paramCase)

section Moved

variable (f : Nat →o Nat)

def Span.moved (s : Span) : Span where
  start := f s.start
  stop := f s.stop
  start_le_stop := f.monotone s.start_le_stop

def Located.moved {α : Type} (x : Located α) : Located α where
  value := x.value
  span := x.span.moved f

def Entry.moved (e : Entry) : Entry where
  name := e.name.moved f
  modifiers := e.modifiers.map (·.moved f)

def Outline.moved (o : Outline) : Outline where
  block := o.block.moved f
  elements := o.elements.map (·.moved f)

def Fault.moved : Fault → Fault
  | strayCharacter c => strayCharacter (c.moved f)
  | unexpectedToken found expected => unexpectedToken (found.moved f) expected
  | unclosedList span => unclosedList (span.moved f)
  | missingBlockName span => missingBlockName (span.moved f)
  | emptyList span => emptyList (span.moved f)
  | emptyName role name => emptyName role (name.moved f)
  | repeatedElement name first => repeatedElement (name.moved f) (first.moved f)
  | repeatedModifier name first => repeatedModifier (name.moved f) (first.moved f)

def Label.moved (l : Label) : Label :=
  { l with span := l.span.moved f }

/-- What was read, with its spans moved as `move` says, or the fault with its own moved. -/
def movedResult {α : Type} (move : α → α) : Except Fault α → Except Fault α
  | .ok a => .ok (move a)
  | .error fault => .error (fault.moved f)

theorem Fault.diagnostic_moved (fault : Fault) :
    (fault.moved f).diagnostic =
      { fault.diagnostic with labels := fault.diagnostic.labels.map (·.moved f) } := by
  cases fault <;> rfl

theorem Span.moved_cover (s t : Span) : (s.cover t).moved f = (s.moved f).cover (t.moved f) := by
  simp [Span.moved, Span.cover, Monotone.map_min f.monotone, Monotone.map_max f.monotone]

theorem Span.moved_coverAll (s : Span) (ts : List Span) :
    (s.coverAll ts).moved f = (s.moved f).coverAll (ts.map (·.moved f)) := by
  induction ts generalizing s with
  | nil => rfl
  | cons t ts ih => exact (ih (s.cover t)).trans (by rw [moved_cover]; rfl)

/-- Steps in a row can be moved one by one. -/
theorem movedResult_bind {α β : Type} (move : α → α) (moveNext : β → β) (result : Except Fault α)
    (next next' : α → Except Fault β) (h : ∀ a, next' (move a) = movedResult f moveNext (next a)) :
    movedResult f move result >>= next' = movedResult f moveNext (result >>= next) := by
  cases result with
  | error fault => rfl
  | ok a => exact h a

/-- Names and the tokens after them, moved. -/
def movedNames (r : List (Located String) × List (Located Token)) :
    List (Located String) × List (Located Token) :=
  (r.1.map (·.moved f), r.2.map (·.moved f))

theorem readNames_moved (opening last : Span) (ts : List (Located Token)) :
    readNames (opening.moved f) (last.moved f) (ts.map (·.moved f)) =
      movedResult f (movedNames f) (readNames opening last ts) := by
  fun_induction readNames opening last ts with
  | case1 => simp [readNames, movedResult, Fault.moved, Span.moved_cover]
  | case2 => simp [readNames, movedResult, Fault.moved, Span.moved_cover, Located.moved]
  | case3 last text span comma rest ih =>
    change readNames (opening.moved f) (comma.moved f) (rest.map (·.moved f)) >>= _ = _
    rw [ih]
    apply movedResult_bind
    intro _
    rfl
  | case4 => rfl
  | case5 _ _ _ t _ hcomma hclose =>
    rcases t with ⟨t, span⟩
    cases t with
    | comma => exact absurd rfl (hcomma _)
    | closeBracket => exact absurd rfl (hclose _)
    | _ => rfl
  | case6 _ t rest hend _ _ hmore =>
    rcases t with ⟨t, span⟩
    cases t with
    | name text =>
      -- A name is one of the cases before this one, whatever follows it.
      cases rest with
      | nil => exact absurd rfl (hend _ _ rfl)
      | cons t rest => exact absurd rfl (hmore _ _ _ _ rfl)
    | _ => rfl

theorem readModifiers_moved (ts : List (Located Token)) :
    readModifiers (ts.map (·.moved f)) = movedResult f (movedNames f) (readModifiers ts) := by
  fun_cases readModifiers ts with
  | case1 => simp [readModifiers, movedResult, Fault.moved, Span.moved_cover, Located.moved]
  | case2 opening rest hempty =>
    rw [← readNames_moved]
    cases rest with
    | nil => rfl
    | cons t rest =>
      rcases t with ⟨t, span⟩
      cases t with
      | closeBracket => exact absurd rfl (hempty _ _)
      | _ => rfl
  | case3 _ _ hlist =>
    cases ts with
    | nil => rfl
    | cons t ts =>
      rcases t with ⟨t, span⟩
      cases t with
      | openBracket => exact absurd rfl (hlist _ _)
      | _ => rfl

theorem readEntry_moved (noName noName' : Located Token → Fault) (t : Located Token)
    (ts : List (Located Token)) (h : ∀ u, noName' (u.moved f) = (noName u).moved f) :
    readEntry noName' (t.moved f) (ts.map (·.moved f)) =
      movedResult f (·.moved f) (readEntry noName t ts) := by
  rcases t with ⟨t, span⟩
  cases t with
  | name text =>
    change readModifiers (ts.map (·.moved f)) >>= _ = _
    rw [readModifiers_moved]
    apply movedResult_bind
    rintro ⟨modifiers, _ | ⟨t, rest⟩⟩ <;> rfl
  | _ => exact congrArg Except.error (h _)

theorem readElements_moved (lines : List (List (Located Token))) :
    readElements (lines.map (·.map (·.moved f))) =
      movedResult f (·.map (·.moved f)) (readElements lines) := by
  fun_induction readElements lines with
  | case1 => rfl
  | case2 rest ih => exact ih
  | case3 t ts rest ih =>
    change readEntry _ (t.moved f) (ts.map (·.moved f)) >>= _ = _
    rw [readEntry_moved f (.unexpectedToken · .elementName) _ t ts fun _ => rfl]
    apply movedResult_bind
    intro element
    rw [ih]
    apply movedResult_bind
    intro _
    rfl

theorem readLines_moved (whole : Span) (lines : List (List (Located Token))) :
    readLines (whole.moved f) (lines.map (·.map (·.moved f))) =
      movedResult f (·.moved f) (readLines whole lines) := by
  fun_induction readLines whole lines with
  | case1 => rfl
  | case2 rest ih => exact ih
  | case3 t ts rest =>
    change readEntry _ (t.moved f) (ts.map (·.moved f)) >>= _ = _
    rw [readEntry_moved f (fun t => .missingBlockName t.span) _ t ts fun _ => rfl]
    apply movedResult_bind
    intro block
    rw [readElements_moved]
    apply movedResult_bind
    intro _
    rfl

theorem tokenLines_moved (ts : List (Located Token)) :
    tokenLines (ts.map (·.moved f)) = (tokenLines ts).map (·.map (·.moved f)) := by
  induction ts with
  | nil => rfl
  | cons t ts ih =>
    rcases t with ⟨t, span⟩
    cases t with
    | blank text => exact ih
    | lineBreak returns => exact congrArg ([] :: ·) ih
    | _ =>
      refine (congrArg (extendFirst _) ih).trans ?_
      exact (map_extendFirst (·.map (·.moved f)) _ _ rfl (fun _ => rfl) (tokenLines ts)).symm

theorem spanOf_moved (hzero : f 0 = 0) (ts : List (Located Token)) :
    spanOf (ts.map (·.moved f)) = (spanOf ts).moved f := by
  cases ts with
  | nil => simp [spanOf, Span.moved, hzero]
  | cons t ts =>
    change (t.span.moved f).coverAll _ = (t.span.coverAll _).moved f
    rw [Span.moved_coverAll, List.map_map, List.map_map]
    rfl

theorem readOutline_moved (hzero : f 0 = 0) (ts : List (Located Token)) :
    readOutline (ts.map (·.moved f)) = movedResult f (·.moved f) (readOutline ts) := by
  unfold readOutline
  rw [tokenLines_moved, spanOf_moved f hzero, readLines_moved]

/-- A scope with the spans of its names moved. -/
def Scope.moved (scope : Scope) : Scope :=
  scope.map fun entry => (entry.1, entry.2.moved f)

theorem Scope.moved_enter (scope : Scope) (name : Located String) :
    (scope.enter name).moved f = (scope.moved f).enter (name.moved f) := by
  simp [Scope.moved, Scope.enter, Located.moved]

theorem Scope.lookup_moved (scope : Scope) (key : String) :
    (scope.moved f).lookup key = (scope.lookup key).map (·.moved f) := by
  induction scope with
  | nil => rfl
  | cons entry scope ih =>
    change List.lookup key ((entry.1, entry.2.moved f) :: Scope.moved f scope) = _
    rw [List.lookup_cons, List.lookup_cons, ih]
    split <;> rfl

theorem Scope.faults_moved (scope : Scope) (role : Role)
    (clash : Located String → Span → Fault) (name : Located String)
    (h : ∀ n s, clash (n.moved f) (s.moved f) = (clash n s).moved f) :
    (scope.moved f).faults role clash (name.moved f) =
      (scope.faults role clash name).map (·.moved f) := by
  have hvalue : (name.moved f).value = name.value := rfl
  simp only [faults, hvalue, lookup_moved]
  split
  · rfl
  · cases List.lookup (paramCase name.value) scope with
    | none => rfl
    | some first => exact congrArg (fun fault => [fault]) (h name first)

theorem modifierFaults_moved (scope : Scope) (ms : List (Located String)) :
    modifierFaults (scope.moved f) (ms.map (·.moved f)) =
      (modifierFaults scope ms).map (·.moved f) := by
  induction ms generalizing scope with
  | nil => rfl
  | cons m ms ih =>
    rw [List.map_cons, modifierFaults, modifierFaults, ← Scope.moved_enter, ih,
      Scope.faults_moved f scope .modifier .repeatedModifier m fun _ _ => rfl, List.map_append]

theorem elementFaults_moved (scope : Scope) (es : List Entry) :
    elementFaults (scope.moved f) (es.map (·.moved f)) =
      (elementFaults scope es).map (·.moved f) := by
  induction es generalizing scope with
  | nil => rfl
  | cons e es ih =>
    have hname : (e.moved f).name = e.name.moved f := rfl
    rw [List.map_cons, elementFaults, elementFaults, hname, ← Scope.moved_enter, ih,
      Scope.faults_moved f scope .element .repeatedElement e.name fun _ _ => rfl]
    change _ ++ modifierFaults (Scope.moved f []) (e.modifiers.map (·.moved f)) ++ _ = _
    rw [modifierFaults_moved, List.map_append, List.map_append]

theorem Outline.nameFaults_moved (o : Outline) :
    (o.moved f).nameFaults = o.nameFaults.map (·.moved f) := by
  have hblock : blockNameFaults (o.block.name.moved f) =
      (blockNameFaults o.block.name).map (·.moved f) := by
    have hvalue : (o.block.name.moved f).value = o.block.name.value := rfl
    simp only [blockNameFaults, hvalue]
    split <;> rfl
  unfold nameFaults
  change blockNameFaults (o.block.name.moved f) ++
    modifierFaults (Scope.moved f []) (o.block.modifiers.map (·.moved f)) ++
    elementFaults (Scope.moved f []) (o.elements.map (·.moved f)) = _
  rw [hblock, modifierFaults_moved, elementFaults_moved, List.map_append, List.map_append]

theorem Outline.toBlock_moved (o : Outline) : (o.moved f).toBlock = o.toBlock := by
  have hnames (e : Entry) : (e.moved f).modifierNames = e.modifierNames := by
    change (e.modifiers.map (·.moved f)).map (·.value) = e.modifiers.map (·.value)
    rw [List.map_map]
    rfl
  simp only [toBlock, moved, List.map_map, Function.comp_def, hnames]
  rfl

/-- Tokens that give the same outline with other spans give the same block, or the same
faults with other spans. -/
theorem Reading.result_ofTokens_eq (ts us : List (Located Token))
    (h : readOutline ts = movedResult f (·.moved f) (readOutline us)) :
    (Reading.ofTokens ts).result =
      (Reading.ofTokens us).result.mapError (·.map (·.moved f)) := by
  unfold ofTokens
  rw [h]
  cases readOutline us with
  | error fault => rfl
  | ok o =>
    have hfaults := o.nameFaults_moved f
    have hblock := o.toBlock_moved f
    dsimp only [movedResult]
    cases hnames : o.nameFaults with
    | nil =>
      rw [hnames, List.map_nil] at hfaults
      rw [hfaults]
      exact congrArg Except.ok hblock
    | cons fault faults =>
      rw [hnames, List.map_cons] at hfaults
      rw [hfaults]
      rfl

end Moved

end BemNotation.Source
