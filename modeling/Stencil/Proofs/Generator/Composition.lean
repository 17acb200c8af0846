import Stencil.Proofs.Generator.Operation

/-!
# A run as a composition

`Generator.composed` is a run that keeps nothing in the generator : the declaration, the
description, the template and the text are handed from each part to the next one. On the host, and
in how it ends, a run is this composition (`onlyHost_run`), unless the generator has no source
directory and still holds a declaration, the one leftover that a run reads. So with a source
directory a run does not depend on what earlier stages left (`run_ignores_leftovers`).
-/

namespace Stencil

/-- A stage as it is seen from the host. -/
def Stage.onlyHost (x : Stage Unit) (g : Generator) : Run Unit := fun h =>
  match x ⟨g, h⟩ with
  | (outcome, s) => (outcome, s.host)

namespace Generator

/-- The declaration of which a generator makes code, if it has a source directory. -/
def declaration (g : Generator) : Run (Option Declaration) :=
  match g.directory with
  | none => pure none
  | some directory => do return some (← Checker.resolve g.settings directory g.name)

/-- The text that a generator renders. -/
def rendered (g : Generator) : Run Text := do
  let d ← g.declaration
  let description ← Run.look fun _ =>
    (Description.extract g.tagKey g.name d).mapError Failure.ofExtract
  let template ← Run.look g.templateText
  Run.look fun _ =>
    (Template.render g.helpers template description.expose).1.mapError Failure.ofStop

/-- What a generator makes of a rendered text before it is written. -/
def finished (g : Generator) (text : Text) : Run Text :=
  if g.format then Formatter.format g.settings g.output text else pure text

/-- A run whose parts hand on what they make. -/
def composed (g : Generator) : Run Unit := do
  Run.note .info Stage.logger ("Generating code for " ++ g.name)
  let text ← g.rendered
  let text ← g.finished text
  Stage.writeOutput.onlyHost { g with text }

variable {g : Generator}

theorem declaration_of_none (hg : g.directory = none) (h : Host) :
    g.declaration h = (.ok none, h) := by
  rw [declaration, hg]
  rfl

theorem declaration_of_some {directory : Text} (hg : g.directory = some directory) (h : Host) :
    g.declaration h =
      match Checker.resolve g.settings directory g.name h with
      | (.ok d, h') => (.ok (some d), h')
      | (.error f, h') => (.error f, h') := by
  rw [declaration, hg]
  refine (bind_apply _ _ h).trans ?_
  rcases Checker.resolve g.settings directory g.name h with ⟨_ | d, h'⟩ <;> rfl

theorem declaration_snd_of_some {directory : Text} (hg : g.directory = some directory) (h : Host) :
    (g.declaration h).2 = (Checker.resolve g.settings directory g.name h).2 := by
  rw [declaration_of_some hg]
  rcases Checker.resolve g.settings directory g.name h with ⟨_ | d, h'⟩ <;> rfl

end Generator

/-! ## Stage by stage -/

namespace Stage

variable {g : Generator}

theorem parseSource_apply (hg : g.directory = none → g.resolved = none) (h : Host) :
    parseSource ⟨g, h⟩ =
      match g.declaration h with
      | (.ok d, h') => (.ok (), ⟨{ g with resolved := d }, h'⟩)
      | (.error f, h') => (.error f, ⟨g, h'⟩) := by
  obtain hd | ⟨directory, hd⟩ := g.directory.eq_none_or_eq_some
  · rw [parseSource_of_none hd, Generator.declaration_of_none hd]
    simp only [← hg hd]
  · rw [parseSource_of_some hd, Generator.declaration_of_some hd]
    rcases Checker.resolve g.settings directory g.name h with ⟨_ | d, h'⟩ <;> rfl

/-- A stage that works on the host as `r` does and keeps its result in the generator hands it to the
stages behind it. -/
theorem onlyHost_through_cons {α : Type} {n : Name} {r : Run α} {f : α → Generator}
    (left : Generator) (names : List Name)
    (hn : ∀ h, n.stage ⟨g, h⟩ =
      match r h with
      | (.ok a, h') => (.ok (), ⟨f a, h'⟩)
      | (.error e, h') => (.error e, ⟨left, h'⟩)) :
    (through (n :: names)).onlyHost g = r >>= fun a => (through names).onlyHost (f a) := by
  funext h
  simp only [onlyHost, through_cons, hn, bind_apply]
  rcases r h with ⟨_ | a, h'⟩ <;> rfl

theorem onlyHost_prepareDescription (names : List Name) :
    (through (.prepareDescription :: names)).onlyHost g =
      (Run.look fun _ =>
        (Description.extract g.tagKey g.name g.resolved).mapError Failure.ofExtract) >>=
        fun d => (through names).onlyHost { g with described := some d.expose } := by
  refine onlyHost_through_cons g names fun h => (prepareDescription_apply _).trans ?_
  simp only [Run.look]
  cases Description.extract g.tagKey g.name g.resolved <;> rfl

theorem onlyHost_loadTemplate (names : List Name) :
    (through (.loadTemplate :: names)).onlyHost g =
      Run.look g.templateText >>=
        fun template => (through names).onlyHost { g with template := some template } := by
  refine onlyHost_through_cons g names fun h => (loadTemplate_apply _).trans ?_
  simp only [Run.look]
  cases g.templateText h <;> rfl

theorem onlyHost_executeTemplate {d : Exposed} {template : Text} (hd : g.described = some d)
    (ht : g.template = some template) (names : List Name) :
    (through (.executeTemplate :: names)).onlyHost g =
      (Run.look fun _ => (Template.render g.helpers template d).1.mapError Failure.ofStop) >>=
        fun text => (through names).onlyHost
          { g with described := some (Template.render g.helpers template d).2, text } := by
  refine onlyHost_through_cons { g with described := some (Template.render g.helpers template d).2 }
    names fun h => (executeTemplate_of_some hd ht).trans ?_
  simp only [Run.look]
  rcases Template.render g.helpers template d with ⟨_ | text, d'⟩ <;> rfl

theorem onlyHost_formatSource (names : List Name) :
    (through (.formatSource :: names)).onlyHost g =
      g.finished g.text >>= fun text => (through names).onlyHost { g with text } := by
  refine onlyHost_through_cons g names fun h => (formatSource_apply _).trans ?_
  unfold Generator.finished
  split
  · rcases Formatter.format g.settings g.output g.text h with ⟨_ | text, h'⟩ <;> rfl
  · rfl

/-- The last stage looks at the sink and the text only. -/
theorem onlyHost_writeOutput {g g' : Generator} (hwriter : g.writer = g'.writer)
    (houtput : g.output = g'.output) (htext : g.text = g'.text) :
    writeOutput.onlyHost g = writeOutput.onlyHost g' := by
  funext h
  simp only [onlyHost, writeOutput, generator_bind_apply, hwriter, houtput, htext]
  rcases g'.writer with _ | _ | _
  · rcases g'.output with _ | _ | _ <;> rfl
  · rfl
  · rfl

theorem onlyHost_parseSource (hg : g.directory = none → g.resolved = none) (names : List Name) :
    (through (.parseSource :: names)).onlyHost g =
      g.declaration >>= fun d => (through names).onlyHost { g with resolved := d } := by
  refine onlyHost_through_cons g names fun h => (parseSource_apply hg h).trans ?_
  rcases g.declaration h with ⟨_ | d, h'⟩ <;> rfl

/-- Without a declaration that is left where none is resolved, a run is the composition. -/
theorem onlyHost_run (hg : g.directory = none → g.resolved = none) :
    run.onlyHost g = g.composed := by
  have hrun : run.onlyHost g =
      Run.note .info logger ("Generating code for " ++ g.name) >>= fun _ =>
        (through Name.all).onlyHost g := rfl
  rw [hrun, Name.all, onlyHost_parseSource hg]
  simp only [Generator.composed, Generator.rendered, bind_assoc]
  refine bind_congr fun _ => bind_congr fun d => ?_
  rw [onlyHost_prepareDescription]
  refine bind_congr fun description => ?_
  rw [onlyHost_loadTemplate]
  refine bind_congr fun template => ?_
  rw [onlyHost_executeTemplate rfl rfl]
  refine bind_congr fun text => ?_
  rw [onlyHost_formatSource]
  refine bind_congr fun formatted => ?_
  -- here the stages have kept what they made, and the composition has not
  rw [through_singleton]
  exact onlyHost_writeOutput rfl rfl rfl

end Stage

/-! ## Leftovers -/

/-- Two generators with the same fields, but for what their stages made. -/
structure Generator.Alike (g g' : Generator) : Prop where
  name : g.name = g'.name
  directory : g.directory = g'.directory
  template : g.template = g'.template
  templateFile : g.templateFile = g'.templateFile
  output : g.output = g'.output
  writer : g.writer = g'.writer
  format : g.format = g'.format
  tagKey : g.tagKey = g'.tagKey
  helpers : g.helpers = g'.helpers
  settings : g.settings = g'.settings

theorem Generator.Alike.composed {g g' : Generator} (hg : g.Alike g') :
    g.composed = g'.composed := by
  obtain ⟨name, directory, template, templateFile, output, writer, format, tagKey, helpers,
    settings⟩ := g
  obtain ⟨rfl, rfl, rfl, rfl, rfl, rfl, rfl, rfl, rfl, rfl⟩ := hg
  refine bind_congr fun _ => bind_congr fun _ => bind_congr fun text => ?_
  exact Stage.onlyHost_writeOutput rfl rfl rfl

namespace Stage

/-- With a source directory, what earlier stages left in a generator changes neither how a run ends
nor what it does to the host. -/
theorem run_ignores_leftovers {g g' : Generator} (hg : g.Alike g') (hd : g.directory.isSome)
    (h : Host) :
    (run ⟨g, h⟩).1 = (run ⟨g', h⟩).1 ∧ (run ⟨g, h⟩).2.host = (run ⟨g', h⟩).2.host := by
  have hsome : g.directory ≠ none := Option.isSome_iff_ne_none.mp hd
  have hrun : run.onlyHost g h = run.onlyHost g' h := by
    rw [onlyHost_run fun hnone => absurd hnone hsome, hg.composed,
      onlyHost_run fun hnone => absurd (hg.directory.trans hnone) hsome]
  exact Prod.mk.inj hrun

/-- Behind a generation for another type of another package, a run writes the code of its own
type. -/
theorem run_ignores_other_type :
    let g : Generator :=
      { Generator.ofName "T" Settings.default with
        directory := some "."
        template := some "package \x7b\x7b package.name \x7d\x7d // \x7b\x7b name \x7d\x7d" }
    let g' : Generator :=
      { g with
        resolved := some ⟨"U", .other "basic", "m/q", "q", []⟩
        described := some (Description.mk "U" (some ⟨"m/q", "q"⟩) [] none).expose
        text := "package q // U" }
    let answer : Text :=
      "\x7b\"found\":true,\"package\":\x7b\"name\":\"p\",\"path\":\"m/p\"\x7d," ++
      "\"type\":\x7b\"kind\":\"other\"\x7d\x7d"
    let h := Host.inModule [some ⟨0, answer.bytes, []⟩]
    g.directory.isSome ∧ (run ⟨g', h⟩).1 = .ok () ∧
      (run ⟨g', h⟩).2.host.output = "package p // T" := by
  intro g g' answer h
  have hg : g.Alike g' := ⟨rfl, rfl, rfl, rfl, rfl, rfl, rfl, rfl, rfl, rfl⟩
  have houtcome : (run ⟨g, h⟩).1 = .ok () := by decide +kernel
  have houtput : (run ⟨g, h⟩).2.host.output = "package p // T" := by decide +kernel
  obtain ⟨hsame, hhost⟩ := run_ignores_leftovers hg rfl h
  exact ⟨rfl, hsame ▸ houtcome, hhost ▸ houtput⟩

end Stage

end Stencil
