import Stencil.Proofs.Description.Extraction
import Stencil.Proofs.Generator.Delivery

/-!
# What a generator remembers

A generator outlasts its runs, and two of its fields carry over from one to the next. A declaration
stays until another one is resolved (`resolved_after`) : without a source directory a run describes
the last one, so that the template sees only the name exactly when there is none
(`shows_only_name_iff`). A template that was read from its file stays until the field is assigned
(`template_behind`) : a run renders the first one that was read, so that it honours the file exactly
when the file holds that text (`honours_file_iff`).
-/

namespace Stencil

/-! ## What stages change in a generator -/

/-- The task of a generator : what its caller set, the template apart, which a stage sets as
well. -/
def Generator.task (g : Generator) : Generator :=
  { g with template := none, resolved := none, described := none, text := [] }

namespace Stage

/-- The stages in front of the rendering. -/
def preparation : List Name := [.parseSource, .prepareDescription, .loadTemplate]

/-- Between two states of a generator stages worked : they left its task, and only one of them
changes the declaration and only one the template. -/
structure Worked (names : List Name) (g g' : Generator) : Prop where
  task : g'.task = g.task
  resolved : .parseSource ∉ names → g'.resolved = g.resolved
  template : .loadTemplate ∉ names → g'.template = g.template

namespace Worked

variable {names names' : List Name} {g g' g'' : Generator}

theorem refl (names : List Name) (g : Generator) : Worked names g g :=
  ⟨rfl, fun _ => rfl, fun _ => rfl⟩

theorem append (first : Worked names g g') (second : Worked names' g' g'') :
    Worked (names ++ names') g g'' where
  task := second.task.trans first.task
  resolved h := by
    rw [List.mem_append, not_or] at h
    rw [second.resolved h.2, first.resolved h.1]
  template h := by
    rw [List.mem_append, not_or] at h
    rw [second.template h.2, first.template h.1]

theorem name (h : Worked names g g') : g'.name = g.name := (congrArg Generator.name h.task :)

theorem tagKey (h : Worked names g g') : g'.tagKey = g.tagKey :=
  (congrArg Generator.tagKey h.task :)

theorem directory (h : Worked names g g') : g'.directory = g.directory :=
  (congrArg Generator.directory h.task :)

theorem templateFile (h : Worked names g g') : g'.templateFile = g.templateFile :=
  (congrArg Generator.templateFile h.task :)

end Worked

theorem worked_stage (n : Name) (s : Session) :
    Worked [n] s.generator (n.stage s).2.generator := by
  have hends := ends_stage n s
  generalize n.stage s = r at hends
  cases hends with
  | resolved => exact ⟨rfl, fun h => absurd (List.mem_singleton.mpr rfl) h, fun _ => rfl⟩
  | loaded => exact ⟨rfl, fun _ => rfl, fun h => absurd (List.mem_singleton.mpr rfl) h⟩
  | _ => exact ⟨rfl, fun _ => rfl, fun _ => rfl⟩

theorem worked_through (names : List Name) (s : Session) :
    Worked names s.generator (through names s).2.generator := by
  induction names generalizing s with
  | nil => exact .refl _ _
  | cons n names ih =>
    have hfirst := worked_stage n s
    rw [through_cons]
    rcases hn : n.stage s with ⟨_ | _, s'⟩ <;> rw [hn] at hfirst
    · exact hfirst.append (.refl names _)
    · exact hfirst.append (ih s')

end Stage

/-! ## The declaration -/

/-- The declaration that resolving gives in a session, if there is a source directory and all goes
well. -/
def Session.declared? (s : Session) : Option Declaration :=
  (s.generator.declaration s.host).1.toOption.join

/-- The declaration that an operation resolves : the first stage does, also at the start of a
run. -/
def Operation.resolves? (s : Session) : Operation → Option Declaration
  | call .parseSource | run => s.declared?
  | call _ | assign _ => none

/-- The declaration that was resolved last in a history. -/
def Session.lastResolved? : List Operation → Session → Option Declaration
  | [], _ => none
  | o :: os, s => (lastResolved? os (o.stage s).2).or (o.resolves? s)

namespace Stage

theorem declared?_begun (s : Session) : (begun s).declared? = s.declared? := by
  unfold Session.declared? begun
  rw [(Generator.declaration_note _ _ _ s.generator s.host).1]

theorem resolved_parseSource (s : Session) :
    (parseSource s).2.generator.resolved = s.declared?.or s.generator.resolved := by
  unfold Session.declared?
  cases hd : s.generator.directory with
  | none =>
    rw [parseSource_of_none hd, Generator.declaration_of_none hd]
    rfl
  | some directory =>
    rw [parseSource_of_some hd, Generator.declaration_of_some hd]
    rcases Checker.resolve s.generator.settings directory s.generator.name s.host with ⟨_ | d, h⟩ <;>
      rfl

end Stage

theorem Operation.resolves?_call_of_ne {n : Stage.Name} (hn : n ≠ .parseSource) (s : Session) :
    (call n).resolves? s = none := by
  cases n with
  | parseSource => exact absurd rfl hn
  | _ => rfl

/-- A declaration is replaced by the one that an operation resolves, and stays otherwise. -/
theorem Operation.resolved_stage (o : Operation) (s : Session) :
    (o.stage s).2.generator.resolved = (o.resolves? s).or s.generator.resolved := by
  cases o with
  | call n =>
    by_cases hn : n = .parseSource
    · subst hn
      exact Stage.resolved_parseSource s
    · rw [resolves?_call_of_ne hn, Option.none_or]
      exact (Stage.worked_stage n s).resolved (by simpa using Ne.symm hn)
  | run =>
    have hfirst := Stage.resolved_parseSource (Stage.begun s)
    rw [Stage.declared?_begun] at hfirst
    rw [stage, Stage.run_apply, Stage.Name.all, Stage.through_cons, Stage.Name.stage, resolves?]
    rcases hparse : Stage.parseSource (Stage.begun s) with ⟨_ | _, s'⟩ <;> rw [hparse] at hfirst
    · exact hfirst
    · exact ((Stage.worked_through _ s').resolved (by decide)).trans hfirst
  | assign a => cases a <;> rfl

theorem Session.resolved_after (os : List Operation) (s : Session) :
    (after os s).generator.resolved = (lastResolved? os s).or s.generator.resolved := by
  induction os generalizing s with
  | nil => rfl
  | cons o os ih => rw [after, ih, o.resolved_stage, lastResolved?, Option.or_assoc]

/-! ## The template -/

/-- The text of the template file of a session, if there is one that can be read. -/
def Session.fileText? (s : Session) : Option Text :=
  s.generator.templateFile.bind fun given => (Stage.templateAt given s.host).toOption

/-- What happens to a session : the caller does something, or somebody else changes the files. -/
inductive Event where
  | operation (o : Operation)
  | rewritten (tree : FileTree)

namespace Event

/-- The session behind an event. -/
def apply (s : Session) : Event → Session
  | operation o => (o.stage s).2
  | rewritten tree => { s with host := { s.host with tree } }

/-- The text that an event reads from the template file, when there is no template yet : the third
stage does, also in a run that comes to it. -/
def reads? (s : Session) : Event → Option Text
  | operation (.call .loadTemplate) => s.fileText?
  | operation .run =>
    match Stage.through [.parseSource, .prepareDescription] (Stage.begun s) with
    | (.ok _, s') => s'.fileText?
    | (.error _, _) => none
  | operation (.call _) | operation (.assign _) | rewritten _ => none

/-- Whether an event assigns the template. -/
def assignsTemplate : Event → Bool
  | operation (.assign (.template _)) => true
  | operation _ | rewritten _ => false

end Event

/-- The session behind events. -/
def Session.behind : List Event → Session → Session
  | [], s => s
  | e :: es, s => behind es (e.apply s)

/-- The text that was read first from a template file in a history. -/
def Session.firstRead? : List Event → Session → Option Text
  | [], _ => none
  | e :: es, s => (e.reads? s).or (firstRead? es (e.apply s))

namespace Stage

theorem template_loadTemplate (s : Session) :
    (loadTemplate s).2.generator.template = s.generator.template.or s.fileText? := by
  rw [loadTemplate_apply, Generator.templateText, Session.fileText?]
  obtain ⟨⟨name, directory, template, templateFile⟩, h⟩ := s
  rcases template with _ | template <;> rcases templateFile with _ | given
  · rfl
  · simp only [Option.bind_some, Option.none_or]
    cases templateAt given h <;> rfl
  · rfl
  · rfl

theorem template_stage {n : Name} (hn : n ≠ .loadTemplate) (s : Session) :
    (n.stage s).2.generator.template = s.generator.template :=
  (worked_stage n s).template (by simpa using Ne.symm hn)

theorem template_run (s : Session) :
    (run s).2.generator.template =
      s.generator.template.or ((Event.operation .run).reads? s) := by
  have hrun : run s = through ([.parseSource, .prepareDescription] ++
      .loadTemplate :: [.executeTemplate, .formatSource, .writeOutput]) (begun s) := rfl
  have hfront := (worked_through [.parseSource, .prepareDescription] (begun s)).template (by decide)
  rw [hrun, through_append, Event.reads?]
  rcases hthrough : through [.parseSource, .prepareDescription] (begun s) with ⟨_ | _, s'⟩ <;>
    rw [hthrough] at hfront
  · rw [Option.or_none]
    exact hfront
  · have hload := template_loadTemplate s'
    rw [show s'.generator.template = s.generator.template from hfront] at hload
    dsimp only
    rw [through_cons, Name.stage]
    rcases hn : loadTemplate s' with ⟨_ | _, s''⟩ <;> rw [hn] at hload
    · exact hload
    · exact ((worked_through _ s'').template (by decide)).trans hload

end Stage

/-- A template that is there stays, and otherwise it is what an event reads. -/
theorem Event.template_apply {e : Event} (he : e.assignsTemplate = false) (s : Session) :
    (e.apply s).generator.template = s.generator.template.or (e.reads? s) := by
  match e with
  | operation (.call n) =>
    by_cases hn : n = .loadTemplate
    · subst hn
      exact Stage.template_loadTemplate s
    · have hnone : (operation (.call n)).reads? s = none := by
        cases n with
        | loadTemplate => exact absurd rfl hn
        | _ => rfl
      rw [hnone, Option.or_none]
      exact Stage.template_stage hn s
  | operation .run => exact Stage.template_run s
  | operation (.assign a) =>
    cases a with
    | template v => cases he
    | _ => exact (Option.or_none).symm
  | rewritten tree => exact (Option.or_none).symm

theorem Session.template_behind {es : List Event} (hes : ∀ e ∈ es, e.assignsTemplate = false)
    (s : Session) :
    (behind es s).generator.template = s.generator.template.or (firstRead? es s) := by
  induction es generalizing s with
  | nil => exact (Option.or_none).symm
  | cons e es ih =>
    rw [List.forall_mem_cons] at hes
    rw [behind, ih hes.2, e.template_apply hes.1, firstRead?, Option.or_assoc]

/-! ## What a run renders -/

namespace Stage

/-- What the rendering of a run meets behind the stages in front of it : the description of the
declaration that is held, and the template. -/
structure Ready (d : Description) (template : Text) (s s₁ : Session) : Prop where
  resolved : s₁.generator.resolved = s.declared?.or s.generator.resolved
  extracts : Description.extract s.generator.tagKey s.generator.name s₁.generator.resolved = .ok d
  described : s₁.generator.described = some d.expose
  loads : s.generator.templateText s.host = .ok template
  loaded : s₁.generator.template = some template

theorem through_cons_eq_ok_iff {n : Name} {names : List Name} {s s₁ : Session} :
    through (n :: names) s = (.ok (), s₁) ↔
      ∃ s', n.stage s = (.ok (), s') ∧ through names s' = (.ok (), s₁) := by
  rw [through_cons]
  rcases n.stage s with ⟨_ | _, s'⟩
  · exact iff_of_false (by rintro ⟨⟩) (by rintro ⟨_, ⟨⟩, _⟩)
  · constructor
    · exact fun h => ⟨s', rfl, h⟩
    · rintro ⟨_, ⟨⟩, h⟩
      exact h

theorem of_prepareDescription {s s' : Session} (h : prepareDescription s = (.ok (), s')) :
    ∃ d, Description.extract s.generator.tagKey s.generator.name s.generator.resolved = .ok d ∧
      s' = { s with generator := { s.generator with described := some d.expose } } := by
  have hends := ends_prepareDescription s
  rw [h] at hends
  cases hends with
  | described hd => exact ⟨_, hd, rfl⟩

theorem of_loadTemplate {s s' : Session} (h : loadTemplate s = (.ok (), s')) :
    ∃ template, s.generator.templateText s.host = .ok template ∧
      s' = { s with generator := { s.generator with template := some template } } := by
  have hends := ends_loadTemplate s
  rw [h] at hends
  cases hends with
  | loaded ht => exact ⟨_, ht, rfl⟩

theorem templateText_of_worked {names : List Name} {g g' : Generator} {h h' : Host}
    (hg : Worked names g g') (hnames : .loadTemplate ∉ names) (hh : h.Unwritten h') :
    g'.templateText h' = g.templateText h := by
  rw [Generator.templateText_of_unwritten hh]
  unfold Generator.templateText
  rw [hg.template hnames, hg.templateFile]

/-- The stages in front of the rendering, when all of them go well. -/
theorem exists_ready {s s₁ : Session} (h : through preparation (begun s) = (.ok (), s₁)) :
    ∃ d template, Ready d template s s₁ := by
  simp only [preparation, through_cons_eq_ok_iff, Name.stage] at h
  obtain ⟨s', hparse, s'', hprepare, s₂, hload, hend⟩ := h
  have hresolved := resolved_parseSource (begun s)
  have hworked := worked_stage .parseSource (begun s)
  have hunwritten := unwritten_stage (n := .parseSource) (by decide) (begun s)
  rw [declared?_begun, hparse] at hresolved
  rw [Name.stage, hparse] at hworked hunwritten
  obtain ⟨d, hd, rfl⟩ := of_prepareDescription hprepare
  obtain ⟨template, ht, rfl⟩ := of_loadTemplate hload
  obtain rfl : _ = s₁ := (Prod.mk.inj hend).2
  refine ⟨d, template, hresolved, ?_, rfl, ?_, rfl⟩
  · rw [hworked.tagKey, hworked.name] at hd
    exact hd
  · exact (templateText_of_worked hworked (by decide)
      ((Host.Unwritten.note _ _ _ s.host).trans hunwritten)).symm.trans ht

end Stage

/-! ## What carries over -/

namespace Description

/-- A description that shows the name of a type and nothing else. -/
structure ShowsOnly (d : Description) (name : Text) : Prop where
  name : d.name = name
  package : d.package = none
  imports : d.imports = []
  methods : d.methods = []
  fields : d.fields = []

theorem package_eq_none_iff {key name : Text} {decl : Option Declaration} {d : Description}
    (h : extract key name decl = .ok d) : d.package = none ↔ decl = none := by
  cases decl with
  | none =>
    obtain rfl := Except.ok.inj h
    exact iff_of_true rfl rfl
  | some decl =>
    obtain ⟨-, hpackage, -⟩ := extract_some_eq_ok_iff.mp h
    simp [hpackage]

theorem showsOnly_iff {key name : Text} {decl : Option Declaration} {d : Description}
    (h : extract key name decl = .ok d) : d.ShowsOnly name ↔ decl = none := by
  constructor
  · exact fun hd => (package_eq_none_iff h).mp hd.package
  · rintro rfl
    obtain rfl := Except.ok.inj h
    exact ⟨rfl, rfl, rfl, rfl, rfl⟩

/-- Two descriptions that a template sees alike both have a package or none. -/
theorem package_eq_none_iff_of_expose {d d' : Description} (h : d.expose = d'.expose) :
    d.package = none ↔ d'.package = none := by
  obtain ⟨imports, shape, hd⟩ := d.exists_root_expose
  obtain ⟨imports', shape', hd'⟩ := d'.exists_root_expose
  rw [h, hd'] at hd
  obtain ⟨-, -, hpackage, -⟩ := by simpa using hd
  cases hp : d.package <;> cases hp' : d'.package <;> simp_all [Package.value]

end Description

namespace Session

/-- Without a source directory a run describes the declaration that was resolved last in the whole
history of the generator. The template sees only the name exactly when none was. -/
theorem shows_only_name_iff {g : Generator} (hg : g.IsNew) (h : Host) (os : List Operation)
    {s s₁ : Session} (hs : after os ⟨g, h⟩ = s) (hd : s.generator.directory = none)
    (hfront : Stage.through Stage.preparation (Stage.begun s) = (.ok (), s₁)) :
    ∃ d : Description, s₁.generator.described = some d.expose ∧
      Description.extract s.generator.tagKey s.generator.name (lastResolved? os ⟨g, h⟩) = .ok d ∧
      (d.ShowsOnly s.generator.name ↔ lastResolved? os ⟨g, h⟩ = none) := by
  obtain ⟨d, template, hready⟩ := Stage.exists_ready hfront
  have hheld : s.generator.resolved = lastResolved? os ⟨g, h⟩ := by
    rw [← hs, resolved_after, hg.resolved, Option.or_none]
  have hnothing : s.declared? = none := by
    rw [declared?, Generator.declaration_of_none hd]
    rfl
  have hextracts := hready.extracts
  rw [hready.resolved, hnothing, Option.none_or, hheld] at hextracts
  exact ⟨d, hready.described, hextracts, Description.showsOnly_iff hextracts⟩

/-- What the type checker answers about a type of a package. -/
def answerFrom (package : Text) : Option Answer :=
  some ⟨0, Text.bytes ("\x7b\"found\":true,\"package\":\x7b\"name\":\"" ++ package ++
    "\",\"path\":\"m/" ++ package ++ "\"\x7d,\"type\":\x7b\"kind\":\"other\"\x7d\x7d"), []⟩

/-- Of two declarations, with the source directory taken away behind them, a run describes the
second one. -/
theorem shows_second_declaration :
    let g : Generator :=
      { Generator.ofName "T" Settings.default with directory := some ".", template := some "text" }
    let h := Host.inModule [answerFrom "p", answerFrom "q"]
    let os : List Operation :=
      [.run, .assign (.name "U"), .call .parseSource, .assign (.directory none)]
    (after os ⟨g, h⟩).generator.directory = none ∧
      ∃ s₁, Stage.through Stage.preparation (Stage.begun (after os ⟨g, h⟩)) = (.ok (), s₁) ∧
        s₁.generator.described = some (Description.mk "U" (some ⟨"m/q", "q"⟩) [] none).expose := by
  intro g h os
  have hd : (after os ⟨g, h⟩).generator.directory = none := by decide +kernel
  have hok : (Stage.through Stage.preparation (Stage.begun (after os ⟨g, h⟩))).1 = .ok () := by
    decide +kernel
  have hsecond : Description.extract (after os ⟨g, h⟩).generator.tagKey
      (after os ⟨g, h⟩).generator.name (lastResolved? os ⟨g, h⟩) =
        .ok ⟨"U", some ⟨"m/q", "q"⟩, [], none⟩ := by decide +kernel
  generalize hs : after os ⟨g, h⟩ = s at *
  have hfront : Stage.through Stage.preparation (Stage.begun s) =
      (.ok (), (Stage.through Stage.preparation (Stage.begun s)).2) := Prod.ext hok rfl
  obtain ⟨d, hdescribed, hextracts, -⟩ := shows_only_name_iff ⟨rfl, rfl, rfl⟩ _ _ hs hd hfront
  obtain rfl := Except.ok.inj (hextracts.symm.trans hsecond)
  exact ⟨hd, _, hfront, hdescribed⟩

/-- A generator whose source directory is taken away behind its first stage. -/
theorem shows_package_without_directory :
    ¬∀ s : Session, s.Reachable → s.generator.directory = none →
      ∀ s₁, Stage.through Stage.preparation (Stage.begun s) = (.ok (), s₁) →
        ∃ d : Description, s₁.generator.described = some d.expose ∧
          d.ShowsOnly s.generator.name := by
  intro hclaim
  let g : Generator :=
    { Generator.ofName "T" Settings.default with
      directory := some ".", template := some "\x7b\x7b package \x7d\x7d" }
  let h := Host.inModule [answerFrom "p"]
  let os : List Operation := [.call .parseSource, .assign (.directory none)]
  have hd : (after os ⟨g, h⟩).generator.directory = none := by decide +kernel
  have hheld : (after os ⟨g, h⟩).generator.resolved ≠ none := by decide +kernel
  have hok : (Stage.through Stage.preparation (Stage.begun (after os ⟨g, h⟩))).1 = .ok () := by
    decide +kernel
  generalize hs : after os ⟨g, h⟩ = s at *
  have hfront : Stage.through Stage.preparation (Stage.begun s) =
      (.ok (), (Stage.through Stage.preparation (Stage.begun s)).2) := Prod.ext hok rfl
  obtain ⟨d, hdescribed, hshows⟩ := hclaim s ⟨g, h, os, ⟨rfl, rfl, rfl⟩, hs⟩ hd _ hfront
  obtain ⟨d', template, hready⟩ := Stage.exists_ready hfront
  have hexpose : d.expose = d'.expose := Option.some.inj (hdescribed.symm.trans hready.described)
  have hpackage := (Description.package_eq_none_iff_of_expose hexpose).mp hshows.package
  have hnone := (Description.package_eq_none_iff hready.extracts).mp hpackage
  rw [hready.resolved, Option.or_eq_none_iff] at hnone
  exact hheld hnone.2

/-! ## The text of the file -/

theorem template_or_fileText? {s : Session} {template : Text}
    (h : s.generator.templateText s.host = .ok template) :
    s.generator.template.or s.fileText? = some template := by
  unfold Generator.templateText at h
  unfold fileText?
  split at h
  · next ht =>
    obtain rfl := Except.ok.inj h
    rw [ht]
    rfl
  · next ht hfile =>
    rw [ht, hfile, Option.none_or, Option.bind_some, h]
    rfl
  · cases h

/-- As long as the template is not assigned, a run that goes well renders the text that was read
first from a template file in the whole history of the generator. It honours the file that the
generator names now exactly when nothing was read before, or what the file holds. -/
theorem honours_file_iff {g : Generator} (hg : g.template = none) (h : Host) {es : List Event}
    (hes : ∀ e ∈ es, e.assignsTemplate = false) {s : Session} (hs : behind es ⟨g, h⟩ = s)
    (hrun : (Stage.run s).1 = .ok ()) :
    ∃ s₁ template, Stage.through Stage.preparation (Stage.begun s) = (.ok (), s₁) ∧
      s₁.generator.template = some template ∧
      (firstRead? es ⟨g, h⟩).or s.fileText? = some template ∧
      (s.fileText? = some template ↔
        firstRead? es ⟨g, h⟩ = none ∨ firstRead? es ⟨g, h⟩ = s.fileText?) := by
  have hheld : s.generator.template = firstRead? es ⟨g, h⟩ := by
    rw [← hs, template_behind hes, hg, Option.none_or]
  have hall : Stage.run s = Stage.through
      (Stage.preparation ++ [.executeTemplate, .formatSource, .writeOutput]) (Stage.begun s) := rfl
  rw [hall, Stage.through_append] at hrun
  rcases hfront : Stage.through Stage.preparation (Stage.begun s) with ⟨f | _, s₁⟩ <;>
    rw [hfront] at hrun
  · cases hrun
  obtain ⟨d, template, hready⟩ := Stage.exists_ready hfront
  have htext := template_or_fileText? hready.loads
  rw [hheld] at htext
  refine ⟨s₁, template, rfl, hready.loaded, htext, ?_⟩
  cases hfirst : firstRead? es ⟨g, h⟩ with
  | none => simpa [hfirst] using htext
  | some old =>
    obtain rfl : old = template := by simpa [hfirst] using htext
    simp [eq_comm]

/-- A host with two files that hold the same words as their names. -/
def hostOfNames : Host :=
  let h := Host.inModule []
  { h with tree := (h.tree.put ["m", "one"] (Text.bytes "one")).put ["m", "two"] (Text.bytes "two") }

/-- A file that somebody changes behind a run : the next run renders what it held before. -/
theorem renders_first_content :
    let g : Generator :=
      { Generator.ofName "T" Settings.default with templateFile := some "one" }
    let h := hostOfNames
    let es : List Event :=
      [.operation .run, .rewritten (h.tree.put ["m", "one"] (Text.bytes "new"))]
    (Stage.run (behind es ⟨g, h⟩)).1 = .ok () ∧ (behind es ⟨g, h⟩).fileText? = some "new" ∧
      ∃ s₁, Stage.through Stage.preparation (Stage.begun (behind es ⟨g, h⟩)) = (.ok (), s₁) ∧
        s₁.generator.template = some "one" := by
  intro g h es
  have hes : ∀ e ∈ es, e.assignsTemplate = false := by decide
  have hrun : (Stage.run (behind es ⟨g, h⟩)).1 = .ok () := by decide +kernel
  have htext : (behind es ⟨g, h⟩).fileText? = some "new" := by decide +kernel
  have hfirst : firstRead? es ⟨g, h⟩ = some "one" := by decide +kernel
  generalize hs : behind es ⟨g, h⟩ = s at *
  obtain ⟨s₁, template, hfront, htemplate, hused, -⟩ := honours_file_iff rfl h hes hs hrun
  rw [hfirst] at hused
  exact ⟨hrun, htext, s₁, hfront, htemplate.trans hused.symm⟩

/-- A generator that is given another template file behind a run. -/
theorem renders_previous_file :
    ¬∀ (g : Generator) (h : Host) (es : List Event), g.template = none →
      (∀ e ∈ es, e.assignsTemplate = false) → ∀ s, behind es ⟨g, h⟩ = s →
        (Stage.run s).1 = .ok () →
          ∀ s₁, Stage.through Stage.preparation (Stage.begun s) = (.ok (), s₁) →
            s₁.generator.template = s.fileText? := by
  intro hclaim
  let g : Generator := { Generator.ofName "T" Settings.default with templateFile := some "one" }
  let es : List Event := [.operation .run, .operation (.assign (.templateFile (some "two")))]
  have hes : ∀ e ∈ es, e.assignsTemplate = false := by decide
  have hrun : (Stage.run (behind es ⟨g, hostOfNames⟩)).1 = .ok () := by decide +kernel
  have hok : (Stage.through Stage.preparation (Stage.begun (behind es ⟨g, hostOfNames⟩))).1 =
      .ok () := by decide +kernel
  have hheld : (Stage.through Stage.preparation
      (Stage.begun (behind es ⟨g, hostOfNames⟩))).2.generator.template ≠
        (behind es ⟨g, hostOfNames⟩).fileText? := by decide +kernel
  generalize hs : behind es ⟨g, hostOfNames⟩ = s at *
  exact hheld (hclaim g _ es rfl hes s hs hrun _ (Prod.ext hok rfl))

end Session

end Stencil
