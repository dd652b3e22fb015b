import BemNotation.Proofs.BlockRecord
import BemNotation.Proofs.DocumentWriting
import BemNotation.Proofs.FileReplacement
import BemNotation.Proofs.RunSteps

/-!
What a run comes to. A run that fails anywhere changes nothing and reports the first thing
that went wrong. One that succeeds prints its text or replaces one file by it. Nothing but
the file of the configuration, the input and the place of the output has a part in that,
apart from the format of documents, which is any that the program is given.
-/

namespace BemNotation.Command

open Data (DocumentFormat)

/-- The steps of a run that can fail, in their order. -/
inductive Stage where
  | configuration
  | input
  | source
  | rendering
  | output

section Outcome

variable (format : DocumentFormat) (t : FileTree) (systemConfig : Option String) (a : Arguments)

/-- The layout and the block that a run comes to: the layout of the configuration file that
decides, and the block of the input. -/
inductive Loads : Layout → Block → Prop
  | mk {layout : Layout} {text : String} {b : Block}
      (hlayout : t.layout format (t.configFile systemConfig a.config) = .ok layout)
      (htext : t.text a.input = .ok text) (hparse : Block.parse text = .ok b) : Loads layout b

/-- The text that a run comes to: the block in the form asked for. -/
inductive Prepares : String → Prop
  | mk {layout : Layout} {b : Block} {out : String}
      (hload : Loads format t systemConfig a layout b)
      (hrender : a.form.render format layout b = .ok out) : Prepares out

/-- The failure of the first step that fails. -/
inductive Fails : Stage → Failure → Prop
  | configuration {failure : Failure}
      (hlayout : t.layout format (t.configFile systemConfig a.config) = .error failure) :
      Fails .configuration failure
  | input {layout : Layout} {failure : Failure}
      (hlayout : t.layout format (t.configFile systemConfig a.config) = .ok layout)
      (htext : t.text a.input = .error failure) : Fails .input failure
  | source {layout : Layout} {text : String} {failure : Failure}
      (hlayout : t.layout format (t.configFile systemConfig a.config) = .ok layout)
      (htext : t.text a.input = .ok text) (hparse : Block.parse text = .error failure) :
      Fails .source failure
  | rendering {layout : Layout} {b : Block} {failure : Failure}
      (hload : Loads format t systemConfig a layout b)
      (hrender : a.form.render format layout b = .error failure) : Fails .rendering failure
  | output {out path : String} {fault : FileFault} (hout : Prepares format t systemConfig a out)
      (houtput : a.output = some path) (htarget : t.target path = .error fault) :
      Fails .output (.file fault)

/-- What becomes of the text that a run comes to. -/
inductive Delivered (out : String) : Effect → Prop
  | print (houtput : a.output = none) : Delivered out (.print out)
  | write {path : String} {location : Location} (houtput : a.output = some path)
      (htarget : t.target path = .ok location) : Delivered out (.write location out)

theorem fails_or_loads : (∃ stage failure, Fails format t systemConfig a stage failure) ∨
    ∃ layout b, Loads format t systemConfig a layout b := by
  cases hlayout : t.layout format (t.configFile systemConfig a.config) with
  | error failure => exact Or.inl ⟨_, failure, .configuration hlayout⟩
  | ok layout =>
    cases htext : t.text a.input with
    | error failure => exact Or.inl ⟨_, failure, .input hlayout htext⟩
    | ok text =>
      cases hparse : Block.parse text with
      | error failure => exact Or.inl ⟨_, failure, .source hlayout htext hparse⟩
      | ok b => exact Or.inr ⟨layout, b, .mk hlayout htext hparse⟩

theorem fails_or_delivered : (∃ stage failure, Fails format t systemConfig a stage failure) ∨
    ∃ out e, Prepares format t systemConfig a out ∧ Delivered t a out e := by
  rcases fails_or_loads format t systemConfig a with hfails | ⟨layout, b, hload⟩
  · exact Or.inl hfails
  · cases hrender : a.form.render format layout b with
    | error failure => exact Or.inl ⟨_, failure, .rendering hload hrender⟩
    | ok out =>
      have hout : Prepares format t systemConfig a out := .mk hload hrender
      cases houtput : a.output with
      | none => exact Or.inr ⟨out, _, hout, .print houtput⟩
      | some path =>
        cases htarget : t.target path with
        | error fault => exact Or.inl ⟨_, _, .output hout houtput htarget⟩
        | ok location => exact Or.inr ⟨out, _, hout, .write houtput htarget⟩

theorem Loads.effect_eq (layout : Layout) (b : Block) (h : Loads format t systemConfig a layout b) :
    t.effect format systemConfig a = a.form.render format layout b >>= t.deliver a := by
  obtain ⟨hlayout, htext, hparse⟩ := h
  unfold FileTree.effect
  rw [hlayout, htext]
  change Block.parse _ >>= _ = _
  rw [hparse]
  rfl

theorem Prepares.effect_eq (out : String) (h : Prepares format t systemConfig a out) :
    t.effect format systemConfig a = t.deliver a out := by
  obtain ⟨hload, hrender⟩ := h
  rw [hload.effect_eq, hrender]
  rfl

theorem Delivered.effect_eq (out : String) (e : Effect) (h : Delivered t a out e)
    (hout : Prepares format t systemConfig a out) : t.effect format systemConfig a = .ok e := by
  rw [hout.effect_eq, FileTree.deliver]
  cases h with
  | print houtput => rw [houtput]
  | write houtput htarget =>
    rw [houtput]
    dsimp only
    rw [htarget]
    rfl

theorem Fails.effect_eq (stage : Stage) (failure : Failure)
    (h : Fails format t systemConfig a stage failure) :
    t.effect format systemConfig a = .error failure := by
  cases h with
  | configuration hlayout =>
    rw [FileTree.effect, hlayout]
    rfl
  | input hlayout htext =>
    rw [FileTree.effect, hlayout, htext]
    rfl
  | source hlayout htext hparse =>
    rw [FileTree.effect, hlayout, htext]
    change Block.parse _ >>= _ = _
    rw [hparse]
    rfl
  | rendering hload hrender =>
    rw [hload.effect_eq, hrender]
    rfl
  | output hout houtput htarget =>
    rw [hout.effect_eq, FileTree.deliver, houtput]
    dsimp only
    rw [htarget]
    rfl

/-- No block is refused by a format that writes every record. -/
theorem not_fails_rendering (h : Toml.WritesRecords format) (failure : Failure) :
    ¬Fails format t systemConfig a .rendering failure := by
  intro hfails
  cases hfails with
  | @rendering layout b _ _ hrender =>
    obtain ⟨text, hwrite⟩ := h b.record (Toml.isRecord_record b)
    cases hform : a.form with
    | types => simp [hform, Form.render] at hrender
    | bem => simp [hform, Form.render] at hrender
    | snapshot => simp [hform, Form.render, Block.toValue, hwrite, Except.mapError] at hrender

end Outcome

/-- Whether the text is printed, or is what the output file is replaced by, and nothing
else changes but the journal. -/
def Workspace.Delivers (w after : Workspace) (a : Arguments) (out : String) : Prop :=
  ∃ records,
    match a.output with
    | none => after = { w with printed := w.printed ++ out, journal := w.journal ++ records }
    | some path => ∃ files, w.files.Replaces files path out.toUTF8 ∧
      after = { w with files := files, journal := w.journal ++ records }

theorem Delivered.delivers (w : Workspace) (a : Arguments) (out : String) (e : Effect)
    (h : Delivered w.files a out e) (records : List Record) :
    w.Delivers ((w.perform e).noting records) a out := by
  refine ⟨records, ?_⟩
  cases h with
  | print houtput =>
    rw [houtput]
    rfl
  | write houtput htarget =>
    rw [houtput]
    exact ⟨_, w.files.replaces_of_target_eq_ok _ _ _ htarget, rfl⟩

theorem Fails.exists_outcome_eq (format : DocumentFormat) (w : Workspace)
    (systemConfig : Option String) (a : Arguments) (stage : Stage) (failure : Failure)
    (h : Fails format w.files systemConfig a stage failure) :
    ∃ records, w.outcome (run format Workspace.host systemConfig a) =
      (.error failure, w.noting records) := by
  obtain ⟨records, hrun⟩ := performs_run format systemConfig a w
  dsimp only at hrun
  rw [h.effect_eq] at hrun
  exact ⟨records, hrun⟩

theorem Delivered.exists_outcome_eq (format : DocumentFormat) (w : Workspace)
    (systemConfig : Option String) (a : Arguments) (out : String) (e : Effect)
    (h : Delivered w.files a out e) (hout : Prepares format w.files systemConfig a out) :
    ∃ after, w.outcome (run format Workspace.host systemConfig a) = (.ok (), after) ∧
      w.Delivers after a out := by
  obtain ⟨records, hrun⟩ := performs_run format systemConfig a w
  dsimp only at hrun
  rw [h.effect_eq _ _ _ _ _ _ hout] at hrun
  exact ⟨_, hrun, h.delivers w a out e records⟩

theorem outcome_eq_error_iff (format : DocumentFormat) (w : Workspace)
    (systemConfig : Option String) (a : Arguments) (failure : Failure) :
    (w.outcome (run format Workspace.host systemConfig a)).1 = .error failure ↔
      ∃ stage, Fails format w.files systemConfig a stage failure := by
  constructor
  · intro h
    rcases fails_or_delivered format w.files systemConfig a with
      ⟨stage, other, hother⟩ | ⟨out, e, hout, he⟩
    · obtain ⟨_, hrun⟩ := hother.exists_outcome_eq
      obtain rfl : other = failure := by simpa [hrun] using h
      exact ⟨stage, hother⟩
    · obtain ⟨_, hrun, -⟩ := he.exists_outcome_eq format w systemConfig a out e hout
      simp [hrun] at h
  · rintro ⟨_, h⟩
    obtain ⟨_, hrun⟩ := h.exists_outcome_eq
    rw [hrun]

theorem exists_of_outcome_eq_ok (format : DocumentFormat) (w : Workspace)
    (systemConfig : Option String) (a : Arguments)
    (h : (w.outcome (run format Workspace.host systemConfig a)).1 = .ok ()) :
    ∃ out e, Prepares format w.files systemConfig a out ∧ Delivered w.files a out e ∧
      w.Delivers (w.outcome (run format Workspace.host systemConfig a)).2 a out := by
  rcases fails_or_delivered format w.files systemConfig a with
    ⟨_, _, hfails⟩ | ⟨out, e, hout, he⟩
  · obtain ⟨_, hrun⟩ := hfails.exists_outcome_eq
    simp [hrun] at h
  · obtain ⟨after, hrun, hdelivers⟩ := he.exists_outcome_eq format w systemConfig a out e hout
    rw [hrun]
    exact ⟨out, e, hout, he, hdelivers⟩

/-- Two trees that a run cannot tell apart: the same configuration file decides, it and the
input are the same in both, and the output file can be written in both or fails alike. -/
structure SameInputs (systemConfig : Option String) (a : Arguments) (t u : FileTree) : Prop where
  configFile : t.configFile systemConfig a.config = u.configFile systemConfig a.config
  configuration : ∀ path, t.configFile systemConfig a.config = some path →
    t.exists? path = u.exists? path ∧ t.read path = u.read path
  input : t.read a.input = u.read a.input
  output : ∀ path, a.output = some path →
    (t.target path).map (fun _ => ()) = (u.target path).map fun _ => ()

section Same

variable {format : DocumentFormat} {systemConfig : Option String} {a : Arguments} {t u : FileTree}
  (h : SameInputs systemConfig a t u)

include h

theorem SameInputs.layout_eq :
    t.layout format (t.configFile systemConfig a.config) =
      u.layout format (u.configFile systemConfig a.config) := by
  rw [← h.configFile]
  cases hpath : t.configFile systemConfig a.config with
  | none => rfl
  | some path =>
    obtain ⟨hexists, hread⟩ := h.configuration path hpath
    simp only [FileTree.layout, FileTree.text, hexists, hread]

theorem SameInputs.text_eq : t.text a.input = u.text a.input := by
  simp only [FileTree.text, h.input]

theorem SameInputs.loads {layout : Layout} {b : Block}
    (hload : Loads format t systemConfig a layout b) : Loads format u systemConfig a layout b := by
  obtain ⟨hlayout, htext, hparse⟩ := hload
  rw [h.layout_eq] at hlayout
  rw [h.text_eq] at htext
  exact .mk hlayout htext hparse

theorem SameInputs.prepares {out : String} (hout : Prepares format t systemConfig a out) :
    Prepares format u systemConfig a out := by
  obtain ⟨hload, hrender⟩ := hout
  exact .mk (h.loads hload) hrender

theorem SameInputs.fails {stage : Stage} {failure : Failure}
    (hfails : Fails format t systemConfig a stage failure) :
    Fails format u systemConfig a stage failure := by
  cases hfails with
  | configuration hlayout => exact .configuration (h.layout_eq ▸ hlayout)
  | input hlayout htext => exact .input (h.layout_eq ▸ hlayout) (h.text_eq ▸ htext)
  | source hlayout htext hparse =>
    exact .source (h.layout_eq ▸ hlayout) (h.text_eq ▸ htext) hparse
  | rendering hload hrender => exact .rendering (h.loads hload) hrender
  | @output out path fault hout houtput htarget =>
    have hstatus := h.output path houtput
    rw [htarget] at hstatus
    cases hother : u.target path with
    | ok location => simp [hother, Except.map] at hstatus
    | error other =>
      obtain rfl : fault = other := by simpa [hother, Except.map] using hstatus
      exact .output (h.prepares hout) houtput hother

theorem SameInputs.delivered {out : String} {e : Effect} (hdelivered : Delivered t a out e) :
    ∃ other, Delivered u a out other := by
  cases hdelivered with
  | print houtput => exact ⟨_, .print houtput⟩
  | @write path location houtput htarget =>
    have hstatus := h.output path houtput
    rw [htarget] at hstatus
    cases hother : u.target path with
    | ok other => exact ⟨_, .write houtput hother⟩
    | error fault => simp [hother, Except.map] at hstatus

end Same

/-- A project whose configuration file the output takes the place of. -/
def halfWritten : Workspace where
  files.here := ["work"]
  files.entries := [
    (["work", "bemtype", "config.toml"], .file "[output]\nsemicolons = false\n".toUTF8),
    (["work", "m.bem"], .file "x[y]".toUTF8)]

/-- The same project with other files and output around it. -/
def crowded : Workspace where
  files.here := ["work"]
  files.entries := [(["work", "notes"], .directory), (["etc", "m.bem"], .file "z".toUTF8),
    (["work", "m.bem"], .file "x[y]".toUTF8),
    (["work", "bemtype", "config.toml"], .file "[output]\nsemicolons = false\n".toUTF8)]
  printed := "x"

end BemNotation.Command
