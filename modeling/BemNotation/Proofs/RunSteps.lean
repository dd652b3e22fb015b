import BemNotation.Command.Run

/-!
The steps of a run in a workspace. Looking up the layout, reading the input and parsing it
leave nothing but records in the journal, and what they come to is decided by the files. So
a run has at most one effect: a text that it prints, or a file that it writes.
-/

namespace BemNotation.Command

open Data (DocumentFormat)

namespace FileTree

/-- The file at a path as text. -/
def text (t : FileTree) (path : String) : Except Failure String :=
  (t.read path >>= decode).mapError .file

/-- A file that holds a text is read as that text. -/
theorem text_of_read_eq (t : FileTree) (path : String) (s : String)
    (h : t.read path = .ok s.toUTF8) : t.text path = .ok s := by
  have hdecode : decode s.toUTF8 = .ok s := by
    unfold decode String.fromUTF8?
    rw [String.toUTF8_eq_toByteArray, dif_pos s.isValidUTF8]
    rfl
  unfold text
  rw [h]
  change (decode _).mapError _ = _
  rw [hdecode]
  rfl

/-- The configuration file that decides: the one that the user named, else the first that
exists of those of the project and of the system. -/
def configFile (t : FileTree) (systemConfig explicit : Option String) : Option String :=
  explicit.or ((projectConfig :: systemConfig.toList).find? t.exists?)

/-- The layout that a configuration file asks for, or the default without one. -/
def layout (t : FileTree) (format : DocumentFormat) : Option String → Except Failure Layout
  | none => .ok {}
  | some path =>
    if t.exists? path then t.text path >>= configuredLayout format path
    else .error (.configuration (ConfigFault.missing path).message)

end FileTree

/-- What a run that succeeds leaves behind. -/
inductive Effect where
  | print (out : String)
  | write (location : Location) (out : String)

/-- What becomes of the text of a run: it is printed, or takes the place of a file. -/
def FileTree.deliver (t : FileTree) (a : Arguments) (out : String) : Except Failure Effect :=
  match a.output with
  | none => .ok (.print out)
  | some path => (t.target path).mapError .file >>= fun location => .ok (.write location out)

/-- The effect of a run, or the failure of the first step that fails. -/
def FileTree.effect (t : FileTree) (format : DocumentFormat) (systemConfig : Option String)
    (a : Arguments) : Except Failure Effect := do
  let layout ← t.layout format (t.configFile systemConfig a.config)
  let text ← t.text a.input
  let b ← Block.parse text
  t.deliver a (← a.form.render format layout b)

namespace Workspace

variable {α : Type}

/-- What a step comes to, and what it leaves. -/
def outcome (w : Workspace) (step : Step (StateM Workspace) α) : Except Failure α × Workspace :=
  StateT.run (ExceptT.run step) w

/-- The workspace with more records in its journal. -/
def noting (w : Workspace) (records : List Record) : Workspace :=
  { w with journal := w.journal ++ records }

def perform (w : Workspace) : Effect → Workspace
  | .print out => { w with printed := w.printed ++ out }
  | .write location out => { w with files := w.files.set location out.toUTF8 }

theorem noting_noting (w : Workspace) (records more : List Record) :
    (w.noting records).noting more = w.noting (records ++ more) := by
  simp [noting]

theorem noting_nil (w : Workspace) : w.noting [] = w := by
  simp [noting]

theorem perform_noting (w : Workspace) (records : List Record) (e : Effect) :
    (w.noting records).perform e = (w.perform e).noting records := by
  cases e <;> rfl

theorem outcome_bind {β : Type} (w : Workspace) (step : Step (StateM Workspace) α)
    (next : α → Step (StateM Workspace) β) :
    w.outcome (step >>= next) =
      match w.outcome step with
      | (.ok a, after) => after.outcome (next a)
      | (.error failure, after) => (.error failure, after) := by
  unfold outcome
  rw [ExceptT.run_bind, StateT.run_bind]
  obtain ⟨result, after⟩ := StateT.run (ExceptT.run step) w
  cases result <;> rfl

end Workspace

section Steps

variable {α β : Type}

/-- Whether a step gives an answer that the files alone decide, and leaves nothing but
records. -/
def Consults (step : Step (StateM Workspace) α) (answer : FileTree → Except Failure α) : Prop :=
  ∀ w : Workspace, ∃ records, w.outcome step = (answer w.files, w.noting records)

/-- Whether a step has an effect that the files alone decide, apart from records. -/
def Performs (step : Step (StateM Workspace) Unit) (effect : FileTree → Except Failure Effect) :
    Prop :=
  ∀ w : Workspace, ∃ records, w.outcome step =
    match effect w.files with
    | .ok e => (.ok (), (w.perform e).noting records)
    | .error failure => (.error failure, w.noting records)

/-- What follows a step that consults the files goes on with its answer. -/
theorem Consults.exists_outcome_bind (step : Step (StateM Workspace) α)
    (answer : FileTree → Except Failure α) (h : Consults step answer)
    (next : α → Step (StateM Workspace) β) (w : Workspace) :
    ∃ records, w.outcome (step >>= next) =
      match answer w.files with
      | .ok a => (w.noting records).outcome (next a)
      | .error failure => (.error failure, w.noting records) := by
  obtain ⟨records, hrecords⟩ := h w
  refine ⟨records, ?_⟩
  rw [Workspace.outcome_bind, hrecords]
  cases answer w.files <;> rfl

theorem Consults.bind (step : Step (StateM Workspace) α) (next : α → Step (StateM Workspace) β)
    (answer : FileTree → Except Failure α) (more : α → FileTree → Except Failure β)
    (h : Consults step answer) (hnext : ∀ a, Consults (next a) (more a)) :
    Consults (step >>= next) fun t => answer t >>= fun a => more a t := by
  intro w
  obtain ⟨records, hrecords⟩ := h.exists_outcome_bind _ _ next w
  rw [hrecords]
  dsimp only
  cases answer w.files with
  | error failure => exact ⟨records, rfl⟩
  | ok a =>
    obtain ⟨others, hothers⟩ := hnext a (w.noting records)
    rw [Workspace.noting_noting] at hothers
    exact ⟨records ++ others, hothers⟩

theorem Consults.bind_performs (step : Step (StateM Workspace) α)
    (next : α → Step (StateM Workspace) Unit) (answer : FileTree → Except Failure α)
    (effect : α → FileTree → Except Failure Effect) (h : Consults step answer)
    (hnext : ∀ a, Performs (next a) (effect a)) :
    Performs (step >>= next) fun t => answer t >>= fun a => effect a t := by
  intro w
  obtain ⟨records, hrecords⟩ := h.exists_outcome_bind _ _ next w
  rw [hrecords]
  dsimp only
  cases answer w.files with
  | error failure => exact ⟨records, rfl⟩
  | ok a =>
    obtain ⟨others, hothers⟩ := hnext a (w.noting records)
    have hfiles : (w.noting records).files = w.files := rfl
    refine ⟨records ++ others, hothers.trans ?_⟩
    change _ = match effect a w.files with | .ok e => _ | .error failure => _
    rw [hfiles]
    cases effect a w.files with
    | error failure => simp only [Workspace.noting_noting]
    | ok e => simp only [Workspace.perform_noting, Workspace.noting_noting]

theorem Consults.congr (step : Step (StateM Workspace) α) (answer other : FileTree → Except Failure α)
    (h : Consults step answer) (heq : ∀ t, answer t = other t) : Consults step other := by
  obtain rfl : answer = other := funext heq
  exact h

theorem consults_ofResult (result : Except Failure α) : Consults (ofResult result) fun _ => result :=
  fun w => ⟨[], by rw [w.noting_nil]; rfl⟩

theorem consults_pure (a : α) : Consults (pure a) fun _ => .ok a :=
  fun w => ⟨[], by rw [w.noting_nil]; rfl⟩

theorem consults_note (r : Record) :
    Consults (liftM (Workspace.host.note r)) fun _ => .ok () :=
  fun _ => ⟨[r], rfl⟩

theorem consults_exists (path : String) :
    Consults (liftM (Workspace.host.exists? path)) fun t => .ok (t.exists? path) :=
  fun w => ⟨[], by rw [w.noting_nil]; rfl⟩

/-- Records in front of a step do not change its answer. -/
theorem Consults.note_bind (r : Record) (step : Step (StateM Workspace) α)
    (answer : FileTree → Except Failure α) (h : Consults step answer) :
    Consults (liftM (Workspace.host.note r) >>= fun _ => step) answer :=
  (consults_note r).bind _ _ _ _ fun _ => h

theorem consults_notes (records : List Record) :
    Consults (records.forM fun r => liftM (Workspace.host.note r)) fun _ => .ok () := by
  induction records with
  | nil => exact consults_pure ()
  | cons r records ih => exact ih.note_bind r _ _

/-- A look at the files that changes nothing. -/
theorem consults_orFile (action : StateM Workspace (Except FileFault α))
    (answer : FileTree → Except FileFault α)
    (h : ∀ w : Workspace, StateT.run action w = (answer w.files, w)) :
    Consults (orFile action) fun t => (answer t).mapError .file := by
  intro w
  refine ⟨[], ?_⟩
  rw [w.noting_nil, Workspace.outcome, orFile, ExceptT.run_mk, StateT.run_bind, h]
  dsimp only
  cases answer w.files <;> rfl

theorem consults_readText (path : String) :
    Consults (readText Workspace.host path) fun t => t.text path := by
  have hread := consults_orFile (Workspace.host.read path) (·.read path) fun _ => rfl
  have hdecode (bytes : ByteArray) :=
    consults_orFile (pure (FileTree.decode bytes)) (fun _ => FileTree.decode bytes) fun _ => rfl
  apply (hread.bind _ _ _ _ hdecode).congr
  intro t
  unfold FileTree.text
  cases t.read path <;> rfl

theorem consults_loadFile (format : DocumentFormat) (path : String) :
    Consults (loadFile format Workspace.host path) fun t => t.layout format (some path) := by
  apply (consults_exists path).bind _ _ _ fun found t =>
    if found then t.text path >>= configuredLayout format path
    else .error (.configuration (ConfigFault.missing path).message)
  intro found
  cases found with
  | true => exact (consults_readText path).bind _ _ _ _ fun text => consults_ofResult _
  | false => exact consults_ofResult _

theorem consults_loadLayout (format : DocumentFormat) (systemConfig explicit : Option String) :
    Consults (loadLayout format Workspace.host systemConfig explicit) fun t =>
      t.layout format (t.configFile systemConfig explicit) := by
  have hdefault : Consults (pure ({} : Layout)) fun t => t.layout format none := consults_pure _
  unfold loadLayout
  cases explicit with
  | some path => exact (consults_loadFile format path).note_bind _ _ _
  | none =>
    apply Consults.congr
    · apply (consults_exists projectConfig).bind _ _ _ fun found t =>
        if found then t.layout format (some projectConfig)
        else t.layout format (systemConfig.toList.find? t.exists?)
      intro found
      cases found with
      | true => exact (consults_loadFile format projectConfig).note_bind _ _ _
      | false =>
        cases systemConfig with
        | none => exact (hdefault.note_bind _ _ _).note_bind _ _ _
        | some path =>
          apply Consults.congr
          · apply (consults_exists path).bind _ _ _ fun found t =>
              if found then t.layout format (some path) else t.layout format none
            intro found
            cases found with
            | true => exact (consults_loadFile format path).note_bind _ _ _
            | false => exact (hdefault.note_bind _ _ _).note_bind _ _ _
          · intro t
            change (if t.exists? path then _ else _) = _
            cases hpath : t.exists? path <;> simp [hpath]
    · intro t
      change (if t.exists? projectConfig then _ else _) = _
      cases hpath : t.exists? projectConfig <;> simp [FileTree.configFile, hpath]

theorem Performs.congr (step : Step (StateM Workspace) Unit)
    (effect other : FileTree → Except Failure Effect) (h : Performs step effect)
    (heq : ∀ t, effect t = other t) : Performs step other := by
  obtain rfl : effect = other := funext heq
  exact h

theorem performs_print (out : String) :
    Performs (liftM (Workspace.host.print out)) fun _ => .ok (.print out) :=
  fun w => ⟨[], by dsimp only; rw [Workspace.noting_nil]; rfl⟩

theorem performs_write (path out : String) (r : Record) :
    Performs (do
      orFile (Workspace.host.write path out.toUTF8)
      liftM (Workspace.host.note r)) fun t =>
        (t.target path).mapError .file >>= fun location => .ok (.write location out) := by
  intro w
  have hrun (result : Except FileFault Unit) (after : Workspace)
      (h : w.writeFile path out.toUTF8 = (result, after)) :
      w.outcome (orFile (Workspace.host.write path out.toUTF8)) =
        (result.mapError .file, after) := by
    have hwrite : StateT.run (Workspace.host.write path out.toUTF8) w = (result, after) := h
    rw [Workspace.outcome, orFile, ExceptT.run_mk, StateT.run_bind, hwrite]
    cases result <;> rfl
  rw [Workspace.outcome_bind]
  cases htarget : w.files.target path with
  | error fault =>
    have hwrite : w.writeFile path out.toUTF8 = (.error fault, w) := by
      simp only [Workspace.writeFile, FileTree.write, htarget]
      rfl
    refine ⟨[], ?_⟩
    dsimp only
    rw [hrun _ _ hwrite, htarget, w.noting_nil]
    rfl
  | ok location =>
    have hwrite : w.writeFile path out.toUTF8 = (.ok (), w.perform (.write location out)) := by
      simp only [Workspace.writeFile, FileTree.write, htarget]
      rfl
    refine ⟨[r], ?_⟩
    dsimp only
    rw [hrun _ _ hwrite, htarget]
    rfl

theorem performs_output (a : Arguments) (out : String) (written : String → Record) :
    Performs
      (match a.output with
        | none => liftM (Workspace.host.print out)
        | some path => do
          orFile (Workspace.host.write path out.toUTF8)
          liftM (Workspace.host.note (written path)))
      fun t => t.deliver a out := by
  unfold FileTree.deliver
  cases a.output with
  | none => exact performs_print out
  | some path => exact performs_write path out (written path)

/-- A run has the effect that the files decide. -/
theorem performs_run (format : DocumentFormat) (systemConfig : Option String) (a : Arguments) :
    Performs (run format Workspace.host systemConfig a) fun t =>
      t.effect format systemConfig a := by
  unfold run
  apply Performs.congr
  · apply (consults_note _).bind_performs
    intro _
    apply (consults_loadLayout format systemConfig a.config).bind_performs
    intro layout
    apply (consults_readText a.input).bind_performs
    intro text
    apply (consults_notes _).bind_performs
    intro _
    apply (consults_ofResult (Block.parse text)).bind_performs
    intro b
    apply (consults_notes _).bind_performs
    intro _
    apply (consults_ofResult (a.form.render format layout b)).bind_performs
    intro out
    exact performs_output a out _
  · intro t
    rfl

end Steps

end BemNotation.Command
