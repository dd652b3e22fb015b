import BemNotation.Proofs.EntryTokens
import BemNotation.Source.Names

/-!
Scopes of names. The names of an outline are free of faults exactly when each of
them keeps a letter or digit in param case and none is used twice in its scope.
-/

namespace BemNotation

open Naming (paramCase)

/-- Names that stay apart in param case: none is lost, and the elements differ, as
do the modifiers of each entry. The block may share its name with an element. -/
structure Block.WellNamed (b : Block) : Prop where
  name_ne : ∀ e ∈ b.entries, paramCase e.name ≠ ""
  modifier_ne : ∀ e ∈ b.entries, ∀ m ∈ e.modifiers, paramCase m ≠ ""
  elements_nodup : (b.elements.map fun e => paramCase e.name).Nodup
  modifiers_nodup : ∀ e ∈ b.entries, (e.modifiers.map paramCase).Nodup

namespace Source

/-- The names of a scope in param case. -/
def Scope.keys (scope : Scope) : List String :=
  scope.map Prod.fst

theorem Scope.keys_enter (scope : Scope) (name : Located String) :
    (scope.enter name).keys = scope.keys ++ [paramCase name.value] := by
  simp [keys, enter]

theorem Scope.faults_eq_nil_iff (scope : Scope) (role : Role)
    (clash : Located String → Span → Fault) (name : Located String) :
    scope.faults role clash name = [] ↔
      paramCase name.value ≠ "" ∧ paramCase name.value ∉ scope.keys := by
  have hkeys : paramCase name.value ∈ scope.keys ↔
      ∃ first, List.lookup (paramCase name.value) scope = some first := by
    rw [← Option.isSome_iff_exists, List.lookup_isSome_iff]
    simp [keys]
  by_cases hempty : paramCase name.value = ""
  · simp [faults, hempty]
  · cases hlookup : List.lookup (paramCase name.value) scope with
    | none => simp [faults, hempty, hkeys, hlookup]
    | some first => simp [faults, hempty, hkeys, hlookup]

/-- Whether further names can enter the scope one after the other. -/
def Scope.Admits (scope : Scope) (names : List (Located String)) : Prop :=
  (∀ n ∈ names, paramCase n.value ≠ "" ∧ paramCase n.value ∉ scope.keys) ∧
    (names.map fun n => paramCase n.value).Nodup

theorem Scope.admits_cons (scope : Scope) (name : Located String) (names : List (Located String)) :
    scope.Admits (name :: names) ↔
      (paramCase name.value ≠ "" ∧ paramCase name.value ∉ scope.keys) ∧
        (scope.enter name).Admits names := by
  simp only [Admits, keys_enter, List.forall_mem_cons, List.map_cons, List.nodup_cons,
    List.mem_map, List.mem_append, List.mem_singleton, not_or, not_exists]
  constructor
  · rintro ⟨⟨hname, hnames⟩, hfresh, hnodup⟩
    exact ⟨hname, fun n hn => ⟨(hnames n hn).1, (hnames n hn).2, fun heq => hfresh n ⟨hn, heq⟩⟩, hnodup⟩
  · rintro ⟨hname, hnames, hnodup⟩
    exact ⟨⟨hname, fun n hn => ⟨(hnames n hn).1, (hnames n hn).2.1⟩⟩,
      fun n hn => (hnames n hn.1).2.2 hn.2, hnodup⟩

theorem Scope.admits_nil (names : List (Located String)) :
    Scope.Admits [] names ↔
      (∀ n ∈ names, paramCase n.value ≠ "") ∧ (names.map fun n => paramCase n.value).Nodup := by
  simp [Admits, keys]

theorem modifierFaults_eq_nil_iff (scope : Scope) (ms : List (Located String)) :
    modifierFaults scope ms = [] ↔ scope.Admits ms := by
  induction ms generalizing scope with
  | nil => simp [modifierFaults, Scope.Admits]
  | cons m ms ih =>
    rw [modifierFaults, List.append_eq_nil_iff, Scope.faults_eq_nil_iff, ih, Scope.admits_cons]

theorem elementFaults_eq_nil_iff (scope : Scope) (es : List Entry) :
    elementFaults scope es = [] ↔
      scope.Admits (es.map Entry.name) ∧ ∀ e ∈ es, Scope.Admits [] e.modifiers := by
  induction es generalizing scope with
  | nil => simp [elementFaults, Scope.Admits]
  | cons e es ih =>
    rw [elementFaults, List.append_eq_nil_iff, List.append_eq_nil_iff, Scope.faults_eq_nil_iff,
      modifierFaults_eq_nil_iff, ih, List.map_cons, Scope.admits_cons, List.forall_mem_cons]
    constructor
    · rintro ⟨⟨hname, hmodifiers⟩, hnames, hothers⟩
      exact ⟨⟨hname, hnames⟩, hmodifiers, hothers⟩
    · rintro ⟨⟨hname, hnames⟩, hmodifiers, hothers⟩
      exact ⟨⟨hname, hmodifiers⟩, hnames, hothers⟩

theorem blockNameFaults_eq_nil_iff (name : Located String) :
    blockNameFaults name = [] ↔ paramCase name.value ≠ "" := by
  by_cases hempty : paramCase name.value = "" <;> simp [blockNameFaults, hempty]

/-- No fault is reported exactly when all names of the block stay apart. -/
theorem nameFaults_eq_nil_iff (o : Outline) : o.nameFaults = [] ↔ o.toBlock.WellNamed := by
  have hmodifiers (e : Entry) : (∀ m ∈ e.toElement.modifiers, paramCase m ≠ "") ∧
      (e.toElement.modifiers.map paramCase).Nodup ↔ Scope.Admits [] e.modifiers := by
    rw [Scope.admits_nil]
    simp [Entry.toElement, Entry.modifierNames, Function.comp_def]
  have helements : (∀ e ∈ o.elements, paramCase e.toElement.name ≠ "") ∧
      (o.toBlock.elements.map fun e => paramCase e.name).Nodup ↔
        Scope.Admits [] (o.elements.map Entry.name) := by
    rw [Scope.admits_nil]
    simp [Entry.toElement, Outline.toBlock, Function.comp_def]
  rw [Outline.nameFaults, List.append_eq_nil_iff, List.append_eq_nil_iff,
    blockNameFaults_eq_nil_iff, modifierFaults_eq_nil_iff, elementFaults_eq_nil_iff,
    ← helements, ← hmodifiers]
  simp only [← hmodifiers]
  constructor
  · rintro ⟨⟨hname, hblock⟩, ⟨hnames, hnodup⟩, hothers⟩
    constructor
    · rw [Outline.entries_toBlock, List.forall_mem_cons, List.forall_mem_map]
      exact ⟨hname, hnames⟩
    · rw [Outline.entries_toBlock, List.forall_mem_cons, List.forall_mem_map]
      exact ⟨hblock.1, fun e he => (hothers e he).1⟩
    · exact hnodup
    · rw [Outline.entries_toBlock, List.forall_mem_cons, List.forall_mem_map]
      exact ⟨hblock.2, fun e he => (hothers e he).2⟩
  · rintro ⟨hname, hmodifier, hnodup, hapart⟩
    rw [Outline.entries_toBlock, List.forall_mem_cons, List.forall_mem_map] at hname hmodifier hapart
    exact ⟨⟨hname.1, hmodifier.1, hapart.1⟩, ⟨hname.2, hnodup⟩,
      fun e he => ⟨hmodifier.2 e he, hapart.2 e he⟩⟩

end Source

end BemNotation
