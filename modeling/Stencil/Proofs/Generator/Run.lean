import Stencil.Proofs.Generator.Sink

/-!
# Runs as lists of stages

`Stage.Name` names the stages, and a run is the stages in the order of their names, behind a message
(`run_apply`). A list of stages that fails does so at one of them, behind others that went well
(`exists_stage_of_error`).

`Name.Ends` lists the ways in which a stage ends, and what becomes of the generator and the host in
each (`ends_stage`); what the stages preserve is read off this list. Every stage other than the last
one, and every stage that fails, writes nothing (`unwritten_stage`, `unwritten_of_error`). Two of the
stages call a program (`calls_stage`).
-/

namespace Stencil

/-- The calls that resolving makes for a generator : at most one, and none without a source
directory. -/
def Generator.resolverCalls (g : Generator) (h : Host) : List Call :=
  match g.directory with
  | none => []
  | some directory => Checker.callsFor g.settings directory g.name h

namespace Stage

/-- The names of the stages. -/
inductive Name where
  | parseSource | prepareDescription | loadTemplate | executeTemplate | formatSource | writeOutput
  deriving DecidableEq, Repr

namespace Name

/-- The stage with a name. -/
def stage : Name → Stage Unit
  | parseSource => Stage.parseSource
  | prepareDescription => Stage.prepareDescription
  | loadTemplate => Stage.loadTemplate
  | executeTemplate => Stage.executeTemplate
  | formatSource => Stage.formatSource
  | writeOutput => Stage.writeOutput

/-- The names in the order of the stages. -/
def all : List Name :=
  [parseSource, prepareDescription, loadTemplate, executeTemplate, formatSource, writeOutput]

end Name

/-- Does stages in turn, up to the first failure. -/
def through : List Name → Stage Unit
  | [] => pure ()
  | n :: names => do
    n.stage
    through names

/-- A session behind the message with which a run begins. -/
def begun (s : Session) : Session :=
  { s with host := s.host.note .info logger ("Generating code for " ++ s.generator.name) }

theorem run_apply (s : Session) : run s = through Name.all (begun s) :=
  rfl

theorem through_cons (n : Name) (names : List Name) (s : Session) :
    through (n :: names) s =
      match n.stage s with
      | (.ok _, s') => through names s'
      | (.error f, s') => (.error f, s') := by
  rw [through, bind_apply]
  rcases n.stage s with ⟨_ | _, _⟩ <;> rfl

theorem through_singleton (n : Name) : through [n] = n.stage :=
  bind_pure_unit

theorem through_append (names others : List Name) (s : Session) :
    through (names ++ others) s =
      match through names s with
      | (.ok _, s') => through others s'
      | (.error f, s') => (.error f, s') := by
  induction names generalizing s with
  | nil => rfl
  | cons n names ih =>
    rw [List.cons_append, through_cons, through_cons]
    rcases n.stage s with ⟨_ | _, s'⟩
    · rfl
    · exact ih s'

/-- Stages that fail do so at one of them, behind others that went well. -/
theorem exists_stage_of_error {f : Failure} :
    ∀ {names : List Name} {s s' : Session}, through names s = (.error f, s') →
      ∃ before n after s₁, names = before ++ n :: after ∧ through before s = (.ok (), s₁) ∧
        n.stage s₁ = (.error f, s')
  | [], s, s', h => by cases h
  | n :: names, s, s', h => by
    rw [through_cons] at h
    rcases hn : n.stage s with ⟨e | _, s₁⟩
    · rw [hn] at h
      cases h
      exact ⟨[], n, names, s, rfl, rfl, hn⟩
    · rw [hn] at h
      obtain ⟨before, m, after, s₂, rfl, hbefore, hm⟩ := exists_stage_of_error h
      exact ⟨n :: before, m, after, s₂, rfl, by rw [through_cons, hn]; exact hbefore, hm⟩

/-! ## How a stage ends -/

/-- How a stage ends in a session : what it found there, and what became of the generator and the
host. -/
inductive Name.Ends (s : Session) : Name → Except Failure Unit × Session → Prop
  | sourceless (hdirectory : s.generator.directory = none) : Ends s .parseSource (.ok (), s)
  | resolved {directory : Text} {d : Declaration} {h : Host}
    (hdirectory : s.generator.directory = some directory)
    (hresolve : Checker.resolve s.generator.settings directory s.generator.name s.host =
      (.ok d, h)) :
    Ends s .parseSource (.ok (), ⟨{ s.generator with resolved := some d }, h⟩)
  | unresolved {directory : Text} {f : Failure} {h : Host}
    (hdirectory : s.generator.directory = some directory)
    (hresolve : Checker.resolve s.generator.settings directory s.generator.name s.host =
      (.error f, h)) :
    Ends s .parseSource (.error f, ⟨s.generator, h⟩)
  | described {d : Description}
    (hextract : Description.extract s.generator.tagKey s.generator.name s.generator.resolved =
      .ok d) :
    Ends s .prepareDescription
      (.ok (), { s with generator := { s.generator with described := some d.expose } })
  | undescribed {f : Description.ExtractFault}
    (hextract : Description.extract s.generator.tagKey s.generator.name s.generator.resolved =
      .error f) :
    Ends s .prepareDescription (.error (Failure.ofExtract f), s)
  | loaded {template : Text} (htemplate : s.generator.templateText s.host = .ok template) :
    Ends s .loadTemplate
      (.ok (), { s with generator := { s.generator with template := some template } })
  | unloaded {f : Failure} (htemplate : s.generator.templateText s.host = .error f) :
    Ends s .loadTemplate (.error f, s)
  | unprepared (hs : s.generator.described = none ∨ s.generator.template = none) :
    Ends s .executeTemplate (.error (.error .notPrepared), s)
  | rendered {d d' : Exposed} {template text : Text} (hd : s.generator.described = some d)
    (ht : s.generator.template = some template)
    (hrender : Template.render s.generator.helpers template d = (.ok text, d')) :
    Ends s .executeTemplate
      (.ok (), { s with generator := { s.generator with described := some d', text } })
  | unrendered {d d' : Exposed} {template : Text} {e : Template.Stop}
    (hd : s.generator.described = some d) (ht : s.generator.template = some template)
    (hrender : Template.render s.generator.helpers template d = (.error e, d')) :
    Ends s .executeTemplate
      (.error (Failure.ofStop e), { s with generator := { s.generator with described := some d' } })
  | unformatted (hformat : s.generator.format = false) : Ends s .formatSource (.ok (), s)
  | formatted {text : Text} {h : Host} (hformat : s.generator.format = true)
    (hanswer : Formatter.format s.generator.settings s.generator.output s.generator.text s.host =
      (.ok text, h)) :
    Ends s .formatSource (.ok (), ⟨{ s.generator with text }, h⟩)
  | refused {f : Failure} {h : Host} (hformat : s.generator.format = true)
    (hanswer : Formatter.format s.generator.settings s.generator.output s.generator.text s.host =
      (.error f, h)) :
    Ends s .formatSource (.error f, ⟨s.generator, h⟩)
  | written {k : Sink} {h : Host} (hk : s.generator.sink? s.host = some k)
    (hreceives : k.Receives s.generator.text s.host h) (hcalls : h.calls = s.host.calls) :
    Ends s .writeOutput (.ok (), ⟨s.generator, h⟩)
  | unwritten {f : Failure} {h : Host} (hk : s.generator.sink? s.host = none)
    (hh : s.host.Unwritten h) (hcalls : h.calls = s.host.calls) :
    Ends s .writeOutput (.error f, ⟨s.generator, h⟩)

section

variable (s : Session)

theorem ends_parseSource : Name.Ends s .parseSource (parseSource s) := by
  cases hs : s.generator.directory with
  | none =>
    rw [parseSource_of_none hs]
    exact .sourceless hs
  | some directory =>
    rw [parseSource_of_some hs]
    rcases hr : Checker.resolve s.generator.settings directory s.generator.name s.host with
      ⟨f | d, h⟩
    · exact .unresolved hs hr
    · exact .resolved hs hr

theorem ends_prepareDescription : Name.Ends s .prepareDescription (prepareDescription s) := by
  rw [prepareDescription_apply]
  cases hd : Description.extract s.generator.tagKey s.generator.name s.generator.resolved with
  | error f => exact .undescribed hd
  | ok d => exact .described hd

theorem ends_loadTemplate : Name.Ends s .loadTemplate (loadTemplate s) := by
  rw [loadTemplate_apply]
  cases ht : s.generator.templateText s.host with
  | error f => exact .unloaded ht
  | ok template => exact .loaded ht

theorem ends_executeTemplate : Name.Ends s .executeTemplate (executeTemplate s) := by
  by_cases hs : s.generator.described = none ∨ s.generator.template = none
  · rw [executeTemplate_of_none hs]
    exact .unprepared hs
  · rw [not_or] at hs
    obtain ⟨d, hd⟩ := Option.ne_none_iff_exists'.mp hs.1
    obtain ⟨template, ht⟩ := Option.ne_none_iff_exists'.mp hs.2
    rw [executeTemplate_of_some hd ht]
    rcases hr : Template.render s.generator.helpers template d with ⟨e | text, d'⟩
    · exact .unrendered hd ht hr
    · exact .rendered hd ht hr

theorem ends_formatSource : Name.Ends s .formatSource (formatSource s) := by
  cases hs : s.generator.format with
  | false =>
    rw [formatSource_of_false hs]
    exact .unformatted hs
  | true =>
    rw [formatSource_apply, if_pos hs]
    rcases hr : Formatter.format s.generator.settings s.generator.output s.generator.text s.host
      with ⟨f | text, h⟩
    · exact .refused hs hr
    · exact .formatted hs hr

theorem ends_writeOutput : Name.Ends s .writeOutput (writeOutput s) := by
  have hhost : writeOutput s = ((writeOutput s).1, ⟨s.generator, (writeOutput s).2.host⟩) := by
    rw [← generator_writeOutput s]
    rfl
  cases hk : s.generator.sink? s.host with
  | none =>
    obtain ⟨⟨f, hf⟩, hh, hcalls⟩ := writeOutput_of_no_sink hk
    rw [hhost, hf]
    exact .unwritten hk hh hcalls
  | some k =>
    obtain ⟨hok, hreceives, hcalls⟩ := writeOutput_of_sink hk
    rw [hhost, hok]
    exact .written hk hreceives hcalls

end

theorem ends_stage (n : Name) (s : Session) : n.Ends s (n.stage s) := by
  cases n with
  | parseSource => exact ends_parseSource s
  | prepareDescription => exact ends_prepareDescription s
  | loadTemplate => exact ends_loadTemplate s
  | executeTemplate => exact ends_executeTemplate s
  | formatSource => exact ends_formatSource s
  | writeOutput => exact ends_writeOutput s

/-! ## What is written, and what is called -/

theorem unwritten_of_resolve {settings : Settings} {given name : Text} {h h' : Host}
    {outcome : Except Failure Declaration}
    (hr : Checker.resolve settings given name h = (outcome, h')) : h.Unwritten h' := by
  have hh := Checker.resolve_unwritten settings given name h
  rwa [hr] at hh

theorem unwritten_of_format {settings : Settings} {output : Option Text} {text : Text}
    {h h' : Host} {outcome : Except Failure Text}
    (hr : Formatter.format settings output text h = (outcome, h')) : h.Unwritten h' := by
  have hh := Formatter.format_unwritten settings output text h
  rwa [hr] at hh

/-- A stage other than the last one writes nothing. -/
theorem unwritten_stage {n : Name} (hn : n ≠ .writeOutput) (s : Session) :
    s.host.Unwritten (n.stage s).2.host := by
  have hends := ends_stage n s
  generalize n.stage s = r at hends
  cases hends with
  | resolved _ hr | unresolved _ hr => exact unwritten_of_resolve hr
  | formatted _ hr | refused _ hr => exact unwritten_of_format hr
  | written | unwritten => exact absurd rfl hn
  | _ => exact .refl _

/-- A stage that fails writes nothing. -/
theorem unwritten_of_error {n : Name} {s : Session} {f : Failure}
    (h : (n.stage s).1 = .error f) : s.host.Unwritten (n.stage s).2.host := by
  have hends := ends_stage n s
  generalize n.stage s = r at hends h
  cases hends with
  | unresolved _ hr => exact unwritten_of_resolve hr
  | refused _ hr => exact unwritten_of_format hr
  | unwritten _ hh _ => exact hh
  | undescribed | unloaded | unprepared | unrendered => exact .refl _
  | _ => cases h

theorem unwritten_through {names : List Name} (hnames : .writeOutput ∉ names) (s : Session) :
    s.host.Unwritten (through names s).2.host := by
  induction names generalizing s with
  | nil => exact .refl _
  | cons n names ih =>
    rw [List.mem_cons, not_or] at hnames
    have hfirst := unwritten_stage (Ne.symm hnames.1) s
    rw [through_cons]
    rcases hn : n.stage s with ⟨_ | _, s'⟩ <;> rw [hn] at hfirst
    · exact hfirst
    · exact hfirst.trans (ih hnames.2 s')

/-- A run that fails writes nothing : one of its stages fails, and those before it are not the last
one. -/
theorem exists_stage_of_run_error {s : Session} {f : Failure} (h : (run s).1 = .error f) :
    s.host.Unwritten (run s).2.host ∧
      ∃ before n after s₁, Name.all = before ++ n :: after ∧
        through before (begun s) = (.ok (), s₁) ∧ n.stage s₁ = (.error f, (run s).2) := by
  have hrun : through Name.all (begun s) = (.error f, (run s).2) := Prod.ext h rfl
  obtain ⟨before, n, after, s₁, hall, hbefore, hn⟩ := exists_stage_of_error hrun
  have hmem : .writeOutput ∉ before := by
    have hothers : before ++ (n :: after).dropLast = Name.all.dropLast := by
      rw [hall, List.dropLast_append_of_ne_nil (List.cons_ne_nil n after)]
    have hlast : Name.writeOutput ∉ Name.all.dropLast := by decide
    exact fun hbefore => hlast (hothers ▸ List.mem_append_left _ hbefore)
  have hstages := unwritten_through hmem (begun s)
  have hstage := unwritten_of_error (by rw [hn] : (n.stage s₁).1 = .error f)
  rw [hbefore] at hstages
  rw [hn] at hstage
  exact ⟨((Host.Unwritten.note _ _ _ _).trans hstages).trans hstage, before, n, after, s₁, hall,
    hbefore, hn⟩

/-- The calls of programs that a stage makes. -/
def Name.calls (n : Name) (s : Session) : List Call :=
  match n with
  | parseSource => s.generator.resolverCalls s.host
  | formatSource =>
    if s.generator.format then [Formatter.callFor s.generator.settings s.generator.text] else []
  | prepareDescription | loadTemplate | executeTemplate | writeOutput => []

theorem calls_stage (n : Name) (s : Session) :
    (n.stage s).2.host.calls = s.host.calls ++ n.calls s := by
  have hends := ends_stage n s
  generalize n.stage s = r at hends
  cases hends with
  | sourceless hdirectory =>
    rw [Name.calls, Generator.resolverCalls, hdirectory, List.append_nil]
  | resolved hdirectory hr | unresolved hdirectory hr =>
    rw [Name.calls, Generator.resolverCalls, hdirectory, ← Checker.calls_resolve, hr]
  | unformatted hformat => rw [Name.calls, hformat, if_neg Bool.false_ne_true, List.append_nil]
  | formatted hformat hr | refused hformat hr =>
    rw [Name.calls, if_pos hformat, ← Formatter.calls_format, hr]
  | written _ _ hcalls | unwritten _ _ hcalls => exact hcalls.trans (List.append_nil _).symm
  | _ => exact (List.append_nil _).symm

end Stage

end Stencil
