import BemNotation.Command.FileTree
import Mathlib.Data.List.Basic

/-!
What writing a file changes. A file is written into a directory that is there, and at no
place where a directory stands. So every other file and directory stays what it was, the
way to the file is the same as before, and what is read there is what was written.
-/

namespace BemNotation.Command.FileTree

theorem lookup_filter_ne {α : Type} (entries : List (Location × α)) (location other : Location)
    (h : other ≠ location) :
    (entries.filter (·.1 != location)).lookup other = entries.lookup other := by
  induction entries with
  | nil => rfl
  | cons entry rest ih =>
    obtain ⟨key, node⟩ := entry
    by_cases hkey : key = location
    · rw [List.filter_cons_of_neg (by simp [hkey]), ih, List.lookup_cons,
        beq_false_of_ne (by rw [hkey]; exact h)]
    · rw [List.filter_cons_of_pos (by simp [hkey]), List.lookup_cons, List.lookup_cons, ih]

theorem node?_set_self (t : FileTree) (location : Location) (bytes : ByteArray) :
    (t.set location bytes).node? location = some (.file bytes) := by
  simp [node?, set]

/-- Whether the location is on the way to a place in the tree. -/
def Leads (t : FileTree) (location : Location) : Prop :=
  location <+: t.here ∨ ∃ entry ∈ t.entries, location <+: entry.1

theorem node?_of_lookup_eq_none (t : FileTree) (location : Location)
    (h : t.entries.lookup location = none) :
    (t.Leads location → t.node? location = some .directory) ∧
      (¬t.Leads location → t.node? location = none) := by
  have hleads : (location.isPrefixOf t.here || t.entries.any fun e => location.isPrefixOf e.1) =
      true ↔ t.Leads location := by
    simp [Leads]
  unfold node?
  rw [h]
  constructor
  · exact fun hlocation => if_pos (hleads.mpr hlocation)
  · exact fun hlocation => if_neg fun hcase => hlocation (hleads.mp hcase)

/-- What is around a place with a node leads to it. -/
theorem leads_of_node?_eq_some (t : FileTree) (location : Location) (node : Node)
    (h : t.node? location = some node) : t.Leads location := by
  cases hlookup : t.entries.lookup location with
  | some found =>
    obtain ⟨before, after, hentries, -⟩ := List.lookup_eq_some_iff.mp hlookup
    exact Or.inr ⟨(location, found), by simp [hentries], List.prefix_refl location⟩
  | none =>
    by_cases hleads : t.Leads location
    · exact hleads
    · rw [(t.node?_of_lookup_eq_none location hlookup).2 hleads] at h
      simp at h

theorem Leads.of_prefix (t : FileTree) (location other : Location) (h : t.Leads location)
    (hother : other <+: location) : t.Leads other := by
  rcases h with h | ⟨entry, hentry, h⟩
  · exact Or.inl (hother.trans h)
  · exact Or.inr ⟨entry, hentry, hother.trans h⟩

/-- A new file leads nowhere but through the directory that it is in. -/
theorem leads_set_iff (t : FileTree) (directory : Location) (name : String) (bytes : ByteArray)
    (h : t.Leads directory) (other : Location) (hother : other ≠ directory ++ [name]) :
    (t.set (directory ++ [name]) bytes).Leads other ↔ t.Leads other := by
  have haround : other <+: directory ++ [name] → t.Leads other := by
    intro hprefix
    exact h.of_prefix _ _ _ ((List.prefix_concat_iff.mp hprefix).resolve_left hother)
  constructor
  · rintro (hhere | ⟨entry, hentry, hprefix⟩)
    · exact Or.inl hhere
    · rcases List.mem_cons.mp hentry with rfl | hentry
      · exact haround hprefix
      · exact Or.inr ⟨entry, (List.mem_filter.mp hentry).1, hprefix⟩
  · rintro (hhere | ⟨entry, hentry, hprefix⟩)
    · exact Or.inl hhere
    · by_cases hkey : entry.1 = directory ++ [name]
      · exact Or.inr ⟨(directory ++ [name], .file bytes), by simp [set], hkey ▸ hprefix⟩
      · exact Or.inr ⟨entry, by simp [set, hentry, hkey], hprefix⟩

theorem node?_set_of_ne (t : FileTree) (directory : Location) (name : String) (bytes : ByteArray)
    (h : t.Leads directory) (other : Location) (hother : other ≠ directory ++ [name]) :
    (t.set (directory ++ [name]) bytes).node? other = t.node? other := by
  have hleads := t.leads_set_iff directory name bytes h other hother
  have hlookup : (t.set (directory ++ [name]) bytes).entries.lookup other =
      t.entries.lookup other := by
    rw [set, List.lookup_cons, beq_false_of_ne hother]
    exact lookup_filter_ne _ _ _ hother
  cases hcase : t.entries.lookup other with
  | some node =>
    rw [hcase] at hlookup
    simp [node?, hlookup, hcase]
  | none =>
    rw [hcase] at hlookup
    have hbefore := t.node?_of_lookup_eq_none other hcase
    have hafter := node?_of_lookup_eq_none _ other hlookup
    by_cases hother : t.Leads other
    · rw [hbefore.1 hother, hafter.1 (hleads.mpr hother)]
    · rw [hbefore.2 hother, hafter.2 (fun h => hother (hleads.mp h))]

/-- Where all directories of the one tree are directories of the other too. -/
def KeepsDirectories (t u : FileTree) : Prop :=
  ∀ location, t.node? location = some .directory → u.node? location = some .directory

/-- Where a name leads to from a directory. -/
def next (base : Location) (name : String) : Except FileFault Location :=
  if name = "." then .ok base
  else if name = ".." then .ok base.dropLast
  else if longestName < name.utf8ByteSize then .error .nameTooLong
  else .ok (base ++ [name])

/-- A way goes from directory to directory. -/
theorem walk_cons (t : FileTree) (base : Location) (name : String) (names : List String)
    (h : t.node? base = some .directory) :
    t.walk base (name :: names) = next base name >>= fun location => t.walk location names := by
  rw [walk, h, next]
  dsimp only
  split
  · rfl
  · split
    · rfl
    · split <;> rfl

theorem node?_of_walk_cons (t : FileTree) (base location : Location) (name : String)
    (names : List String) (h : t.walk base (name :: names) = .ok location) :
    t.node? base = some .directory := by
  unfold walk at h
  split at h
  case h_1 => simp at h
  case h_2 => simp at h
  case h_3 hnode => exact hnode

theorem exists_of_walk_cons (t : FileTree) (base location : Location) (name : String)
    (names : List String) (h : t.walk base (name :: names) = .ok location) :
    t.node? base = some .directory ∧
      ∃ between, next base name = .ok between ∧ t.walk between names = .ok location := by
  have hnode := t.node?_of_walk_cons base location name names h
  rw [t.walk_cons base name names hnode] at h
  cases hnext : next base name with
  | error fault => simp [hnext, bind, Except.bind] at h
  | ok between =>
    rw [hnext] at h
    exact ⟨hnode, between, rfl, h⟩

/-- A dot at the end of a way makes sure that a directory is there. -/
theorem node?_of_walk_dot (t : FileTree) (base directory : Location) (names : List String)
    (h : t.walk base (names ++ ["."]) = .ok directory) : t.node? directory = some .directory := by
  induction names generalizing base with
  | nil =>
    obtain ⟨hnode, between, hnext, hwalk⟩ := t.exists_of_walk_cons _ _ _ _ h
    obtain rfl : base = between := by simpa [next] using hnext
    obtain rfl : base = directory := by simpa [walk] using hwalk
    exact hnode
  | cons name names ih =>
    obtain ⟨-, between, -, hwalk⟩ := t.exists_of_walk_cons _ _ _ _ h
    exact ih between hwalk

/-- The way to a directory is the same where the directories are kept, and it can go on. -/
theorem walk_append_of_walk_dot (t u : FileTree) (hkeeps : t.KeepsDirectories u)
    (base directory : Location) (names more : List String)
    (h : t.walk base (names ++ ["."]) = .ok directory) :
    u.walk base (names ++ more) = u.walk directory more := by
  induction names generalizing base with
  | nil =>
    obtain ⟨-, between, hnext, hwalk⟩ := t.exists_of_walk_cons _ _ _ _ h
    obtain rfl : base = between := by simpa [next] using hnext
    obtain rfl : base = directory := by simpa [walk] using hwalk
    rfl
  | cons name names ih =>
    obtain ⟨hnode, between, hnext, hwalk⟩ := t.exists_of_walk_cons _ _ _ _ h
    rw [List.cons_append, u.walk_cons base name _ (hkeeps base hnode), hnext]
    exact ih between hwalk

/-- What is known of a path that a file can be written at: it ends in a name that is free
or that of a file, after the way to a directory. -/
theorem exists_of_target_eq_ok (t : FileTree) (path : String) (location : Location)
    (h : t.target path = .ok location) :
    ∃ names directory name, pathNames path = .ok (names ++ [name]) ∧
      t.walk (t.start path) (names ++ ["."]) = .ok directory ∧ location = directory ++ [name] ∧
      name ≠ "." ∧ name ≠ ".." ∧ endsInSlash path = false ∧ ¬longestName < name.utf8ByteSize ∧
      t.node? location ≠ some .directory := by
  unfold target at h
  cases hnames : pathNames path with
  | error fault => simp [hnames, bind, Except.bind] at h
  | ok names =>
    simp only [hnames, bind, Except.bind] at h
    split at h
    case h_1 => simp at h
    case h_2 name hlast =>
      cases hwalk : t.walk (t.start path) (names.dropLast ++ ["."]) with
      | error fault => simp [hwalk] at h
      | ok directory =>
        simp only [hwalk] at h
        split at h
        case isTrue => simp at h
        case isFalse hplain =>
          split at h
          case isTrue => simp at h
          case isFalse hlong =>
            split at h
            case h_1 => simp at h
            case h_2 hfree =>
              obtain rfl : directory ++ [name] = location := by simpa [pure, Except.pure] using h
              simp only [Bool.or_eq_true, decide_eq_true_eq, not_or, Bool.not_eq_true] at hplain
              refine ⟨names.dropLast, directory, name, ?_, hwalk, rfl, hplain.1.1, hplain.1.2,
                hplain.2, hlong, hfree⟩
              rw [List.dropLast_append_getLast? name hlast]

/-- Whether the second tree is the first with a file at the path replaced or made new. -/
structure Replaces (t u : FileTree) (path : String) (bytes : ByteArray) : Prop where
  here : u.here = t.here
  read : u.read path = .ok bytes
  others : ∃ location, t.target path = .ok location ∧ u.node? location = some (.file bytes) ∧
    ∀ other, other ≠ location → u.node? other = t.node? other

/-- Writing replaces one file and changes nothing else. -/
theorem replaces_of_target_eq_ok (t : FileTree) (path : String) (location : Location)
    (bytes : ByteArray) (h : t.target path = .ok location) :
    t.Replaces (t.set location bytes) path bytes := by
  obtain ⟨names, directory, name, hnames, hwalk, rfl, hdot, hup, hslash, hlong, hfree⟩ :=
    t.exists_of_target_eq_ok path location h
  have hdirectory := t.node?_of_walk_dot _ _ _ hwalk
  have hothers := t.node?_set_of_ne directory name bytes
    (t.leads_of_node?_eq_some _ _ hdirectory)
  have hkeeps : t.KeepsDirectories (t.set (directory ++ [name]) bytes) := by
    intro other hother
    rw [hothers other (fun heq => hfree (heq ▸ hother)), hother]
  have hlocate : (t.set (directory ++ [name]) bytes).locate path = .ok (directory ++ [name]) := by
    have hstart : (t.set (directory ++ [name]) bytes).start path = t.start path := rfl
    unfold locate
    rw [hnames]
    change walk _ _ (if _ then _ else _) = _
    rw [hslash, hstart, if_neg (by simp), walk_append_of_walk_dot t _ hkeeps _ _ _ _ hwalk, walk,
      hkeeps _ hdirectory]
    simp [hdot, hup, hlong, walk]
  refine ⟨rfl, ?_, directory ++ [name], h, t.node?_set_self _ bytes, hothers⟩
  simp only [read, hlocate, bind, Except.bind, t.node?_set_self]
  rfl

end BemNotation.Command.FileTree
