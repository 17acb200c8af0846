import Stencil.Generator.Stages
import Stencil.Proofs.Host.Programs

/-!
# What the stages make

A stage looks at the generator and the host, works, and changes the generator when the work went
well. There is one equation for each stage before the last one.
-/

namespace Stencil

namespace Generator

/-- The template of a generator on a host : the one that is set, or else the text of its file. -/
def templateText (g : Generator) (h : Host) : Except Failure Text :=
  match g.template, g.templateFile with
  | some template, _ => .ok template
  | none, some given => Stage.templateAt given h
  | none, none => .error (.error .noTemplate)

end Generator

namespace Stage

theorem generator_bind_apply {α : Type} (f : Generator → Stage α) (s : Session) :
    (generator >>= f) s = f s.generator s :=
  rfl

/-- Work on the host, and a change of the generator when it went well. -/
theorem onHost_bind_change {α : Type} (r : Run α) (f : α → Generator → Generator) (s : Session) :
    (onHost r >>= fun a => change (f a)) s =
      match r s.host with
      | (.ok a, h) => (.ok (), ⟨f a s.generator, h⟩)
      | (.error e, h) => (.error e, ⟨s.generator, h⟩) := by
  rw [bind_apply]
  simp only [onHost]
  rcases r s.host with ⟨_ | a, h⟩ <;> rfl

variable {s : Session}

theorem parseSource_of_none (hs : s.generator.directory = none) : parseSource s = (.ok (), s) := by
  rw [parseSource, generator_bind_apply, hs]
  rfl

theorem parseSource_of_some {directory : Text} (hs : s.generator.directory = some directory) :
    parseSource s =
      match Checker.resolve s.generator.settings directory s.generator.name s.host with
      | (.ok d, h) => (.ok (), ⟨{ s.generator with resolved := some d }, h⟩)
      | (.error f, h) => (.error f, ⟨s.generator, h⟩) := by
  rw [parseSource, generator_bind_apply, hs]
  refine (onHost_bind_change (Checker.resolve s.generator.settings directory s.generator.name)
    (fun d g => { g with resolved := some d }) s).trans ?_
  rcases Checker.resolve s.generator.settings directory s.generator.name s.host with ⟨_ | d, h⟩ <;>
    rfl

theorem prepareDescription_apply (s : Session) :
    prepareDescription s =
      match Description.extract s.generator.tagKey s.generator.name s.generator.resolved with
      | .ok d => (.ok (), { s with generator := { s.generator with described := some d.expose } })
      | .error f => (.error (Failure.ofExtract f), s) := by
  rw [prepareDescription, generator_bind_apply, bind_apply]
  cases Description.extract s.generator.tagKey s.generator.name s.generator.resolved <;> rfl

theorem loadTemplate_apply (s : Session) :
    loadTemplate s =
      match s.generator.templateText s.host with
      | .ok template =>
        (.ok (), { s with generator := { s.generator with template := some template } })
      | .error f => (.error f, s) := by
  rw [loadTemplate, generator_bind_apply, Generator.templateText]
  obtain ⟨⟨name, directory, template, templateFile⟩, h⟩ := s
  cases template with
  | some template => rfl
  | none =>
    cases templateFile with
    | none => rfl
    | some given =>
      refine (onHost_bind_change (Run.look (templateAt given))
        (fun text g => { g with template := some text }) _).trans ?_
      simp only [Run.look]
      cases templateAt given h <;> rfl

theorem executeTemplate_of_some {d : Exposed} {template : Text}
    (hd : s.generator.described = some d) (ht : s.generator.template = some template) :
    executeTemplate s =
      match Template.render s.generator.helpers template d with
      | (.ok text, d) =>
        (.ok (), { s with generator := { s.generator with described := some d, text } })
      | (.error e, d) =>
        (.error (Failure.ofStop e),
          { s with generator := { s.generator with described := some d } }) := by
  rw [executeTemplate, generator_bind_apply, hd, ht]
  dsimp only
  rcases Template.render s.generator.helpers template d with ⟨_ | text, d'⟩ <;> rfl

theorem executeTemplate_of_none
    (hs : s.generator.described = none ∨ s.generator.template = none) :
    executeTemplate s = (.error (.error .notPrepared), s) := by
  rw [executeTemplate, generator_bind_apply]
  rcases hs with hs | hs <;> rw [hs]
  · rfl
  · cases s.generator.described <;> rfl

theorem formatSource_apply (s : Session) :
    formatSource s =
      if s.generator.format then
        match Formatter.format s.generator.settings s.generator.output s.generator.text s.host with
        | (.ok text, h) => (.ok (), ⟨{ s.generator with text }, h⟩)
        | (.error f, h) => (.error f, ⟨s.generator, h⟩)
      else (.ok (), s) := by
  rw [formatSource, generator_bind_apply]
  split
  · refine (onHost_bind_change
      (Formatter.format s.generator.settings s.generator.output s.generator.text)
      (fun text g => { g with text }) s).trans ?_
    rcases Formatter.format s.generator.settings s.generator.output s.generator.text s.host with
      ⟨_ | text, h⟩ <;> rfl
  · rfl

theorem formatSource_of_false (hs : s.generator.format = false) : formatSource s = (.ok (), s) := by
  rw [formatSource_apply, if_neg (by simp [hs])]

end Stage

end Stencil
