import Mathlib.Logic.IsEmpty.Basic
import Stencil.Proofs.Generator.Composition

/-!
# What a run delivers

What a new generator writes is a matter of its fields and the host : a text is rendered from a
declaration, a description and a template (`Generator.Rendering`), the formatter may change it
(`finishedText`), and there is a sink for it. `run_composes` : a run goes well exactly when all of
this is there, then one sink receives the text and nothing else is written, and the calls of
programs are at most one for the declaration and one for the formatter, in this order.
-/

namespace Stencil

namespace Generator

/-- What a text that a generator renders on a host is made of. -/
structure Rendering (g : Generator) (h : Host) where
  declaration : Option Declaration
  description : Description
  template : Text
  text : Text
  resolves : (g.declaration h).1 = .ok declaration
  describes : Description.extract g.tagKey g.name declaration = .ok description
  loads : g.templateText h = .ok template
  renders : (Template.render g.helpers template description.expose).1 = .ok text

/-- A rendered text as it is written : as the formatter answers it, behind the program that checks
types, if that is wanted. -/
def finishedText (g : Generator) (h : Host) (text : Text) : Except Failure Text :=
  (g.finished text (g.declaration h).2).1

/-! ## What the parts look at -/

variable {g : Generator} {h h' : Host} {text : Text}

theorem templateText_of_unwritten (hh : h.Unwritten h') : g.templateText h' = g.templateText h := by
  unfold templateText Stage.templateAt Host.read
  rw [hh.tree, hh.current]

theorem sink?_of_unwritten (hh : h.Unwritten h') : g.sink? h' = g.sink? h := by
  unfold sink? fileSink?
  rw [hh.tree, hh.current]

theorem declaration_unwritten (g : Generator) (h : Host) : h.Unwritten (g.declaration h).2 := by
  obtain hd | ⟨directory, hd⟩ := g.directory.eq_none_or_eq_some
  · rw [declaration_of_none hd]
    exact .refl h
  · rw [declaration_snd_of_some hd]
    exact Checker.resolve_unwritten _ _ _ _

theorem calls_declaration (g : Generator) (h : Host) :
    (g.declaration h).2.calls = h.calls ++ g.resolverCalls h := by
  unfold resolverCalls
  obtain hd | ⟨directory, hd⟩ := g.directory.eq_none_or_eq_some
  · rw [declaration_of_none hd, hd, List.append_nil]
  · rw [declaration_snd_of_some hd, hd, Checker.calls_resolve]

/-- Messages change neither the declaration nor the answers behind it. -/
theorem declaration_note (level : Level) (logger message : Text) (g : Generator) (h : Host) :
    (g.declaration (h.note level logger message)).1 = (g.declaration h).1 ∧
      (g.declaration (h.note level logger message)).2.answers = (g.declaration h).2.answers := by
  obtain hd | ⟨directory, hd⟩ := g.directory.eq_none_or_eq_some
  · simp only [declaration_of_none hd, true_and]
    rfl
  · constructor
    · rw [declaration, hd]
      simp only [fst_bind, Checker.resolve_note_fst]
      rfl
    · rw [declaration_snd_of_some hd, declaration_snd_of_some hd, Checker.answers_resolve,
        Checker.answers_resolve]
      rfl

theorem finished_fst_congr (hh : h'.answers = h.answers) :
    (g.finished text h').1 = (g.finished text h).1 := by
  unfold finished
  split
  · rw [Formatter.format_fst, Formatter.format_fst, hh]
  · rfl

theorem finished_unwritten (g : Generator) (text : Text) (h : Host) :
    h.Unwritten (g.finished text h).2 := by
  unfold finished
  split
  · exact Formatter.format_unwritten _ _ _ _
  · exact .refl h

theorem calls_finished (g : Generator) (text : Text) (h : Host) :
    (g.finished text h).2.calls =
      h.calls ++ if g.format then [Formatter.callFor g.settings text] else [] := by
  unfold finished
  split
  · exact Formatter.calls_format _ _ _ _
  · exact (List.append_nil _).symm

theorem rendered_fst (g : Generator) (h : Host) :
    (g.rendered h).1 =
      (do
        let d ← (g.declaration h).1
        let description ← (Description.extract g.tagKey g.name d).mapError Failure.ofExtract
        let template ← g.templateText h
        (Template.render g.helpers template description.expose).1.mapError Failure.ofStop) := by
  simp only [rendered, fst_bind, Run.look, templateText_of_unwritten (declaration_unwritten g h)]

theorem rendered_snd (g : Generator) (h : Host) : (g.rendered h).2 = (g.declaration h).2 := by
  rw [rendered, bind_apply]
  rcases g.declaration h with ⟨f | d, h'⟩
  · rfl
  simp only [bind_apply, Run.look]
  cases Description.extract g.tagKey g.name d with
  | error f => rfl
  | ok description =>
    simp only [Except.mapError]
    cases g.templateText h' <;> rfl

/-- A text is rendered exactly when its parts are there. -/
theorem rendered_eq_ok_iff :
    (g.rendered h).1 = .ok text ↔ ∃ r : g.Rendering h, r.text = text := by
  simp only [rendered_fst, bind_eq_ok_iff, mapError_eq_ok_iff]
  constructor
  · rintro ⟨d, hd, description, hdescription, template, htemplate, htext⟩
    exact ⟨⟨d, description, template, text, hd, hdescription, htemplate, htext⟩, rfl⟩
  · rintro ⟨⟨d, description, template, text, hd, hdescription, htemplate, htext⟩, rfl⟩
    exact ⟨d, hd, description, hdescription, template, htemplate, htext⟩

theorem Rendering.text_unique (r r' : g.Rendering h) : r.text = r'.text :=
  Except.ok.inj ((rendered_eq_ok_iff.mpr ⟨r, rfl⟩).symm.trans (rendered_eq_ok_iff.mpr ⟨r', rfl⟩))

/-- Messages do not change what is rendered. -/
theorem rendered_note_fst (level : Level) (logger message : Text) (g : Generator) (h : Host) :
    (g.rendered (h.note level logger message)).1 = (g.rendered h).1 := by
  rw [rendered_fst, rendered_fst, (declaration_note level logger message g h).1]
  rfl

end Generator

/-! ## What a run comes to -/

namespace Stage

open Generator

variable {g : Generator} {h : Host}

/-- The host behind the resolving of a run. -/
def resolvedHost (g : Generator) (h : Host) : Host := (g.declaration (begun ⟨g, h⟩).host).2

theorem resolvedHost_unwritten (g : Generator) (h : Host) : h.Unwritten (resolvedHost g h) :=
  (Host.Unwritten.note _ _ _ h).trans (declaration_unwritten g _)

theorem calls_resolvedHost (g : Generator) (h : Host) :
    (resolvedHost g h).calls = h.calls ++ g.resolverCalls h :=
  calls_declaration g _

theorem finished_resolvedHost_fst (g : Generator) (h : Host) (text : Text) :
    (g.finished text (resolvedHost g h)).1 = g.finishedText h text :=
  finished_fst_congr (declaration_note _ _ _ g h).2

theorem composed_apply (g : Generator) (h : Host) :
    g.composed h =
      match (g.rendered h).1 with
      | .ok text =>
        (g.finished text >>= fun text => writeOutput.onlyHost { g with text }) (resolvedHost g h)
      | .error f => (.error f, resolvedHost g h) := by
  have hrendered : g.rendered (begun ⟨g, h⟩).host = ((g.rendered h).1, resolvedHost g h) :=
    Prod.ext (rendered_note_fst _ _ _ g h) (rendered_snd g _)
  have hcomposed : g.composed h =
      (g.rendered >>= fun text =>
        g.finished text >>= fun text => writeOutput.onlyHost { g with text })
        (begun ⟨g, h⟩).host := rfl
  rw [hcomposed, bind_apply, hrendered]
  cases (g.rendered h).1 <;> rfl

theorem composed_of_rendering (r : g.Rendering h) :
    g.composed h =
      (g.finished r.text >>= fun text => writeOutput.onlyHost { g with text })
        (resolvedHost g h) := by
  rw [composed_apply, rendered_eq_ok_iff.mpr ⟨r, rfl⟩]

theorem composed_of_isEmpty (hr : IsEmpty (g.Rendering h)) :
    ∃ f, g.composed h = (.error f, resolvedHost g h) := by
  rw [composed_apply]
  cases hok : (g.rendered h).1 with
  | error f => exact ⟨f, rfl⟩
  | ok text => exact hr.elim (rendered_eq_ok_iff.mp hok).choose

theorem composed_of_sink {r : g.Rendering h} {text : Text} {k : Sink}
    (htext : g.finishedText h r.text = .ok text) (hk : g.sink? h = some k) :
    (g.composed h).1 = .ok () ∧ k.Receives text h (g.composed h).2 := by
  -- nothing is written before the last stage, so the sink is the one of the host at the start
  have hunwritten := (resolvedHost_unwritten g h).trans (finished_unwritten g r.text _)
  rw [composed_of_rendering r, bind_apply]
  rw [← finished_resolvedHost_fst] at htext
  rcases hf : g.finished r.text (resolvedHost g h) with ⟨f | text', h'⟩ <;>
    rw [hf] at htext hunwritten
  · cases htext
  · cases htext
    obtain ⟨hok, hreceives, -⟩ := writeOutput_of_sink (s := ⟨{ g with text }, h'⟩)
      ((sink?_of_unwritten hunwritten).trans hk)
    exact ⟨hok, hreceives.of_unwritten hunwritten⟩

theorem rendering_of_composed (hok : (g.composed h).1 = .ok ()) :
    ∃ (r : g.Rendering h) (text : Text) (k : Sink),
      g.finishedText h r.text = .ok text ∧ g.sink? h = some k := by
  obtain hr | ⟨⟨r⟩⟩ := isEmpty_or_nonempty (g.Rendering h)
  · obtain ⟨f, hf⟩ := composed_of_isEmpty hr
    rw [hf] at hok
    cases hok
  · have hunwritten := (resolvedHost_unwritten g h).trans (finished_unwritten g r.text _)
    rw [composed_of_rendering r, fst_bind, finished_resolvedHost_fst, bind_eq_ok_iff] at hok
    obtain ⟨text, htext, hwrite⟩ := hok
    cases hk : g.sink? h with
    | some k => exact ⟨r, text, k, htext, rfl⟩
    | none =>
      obtain ⟨⟨e, he⟩, -⟩ :=
        writeOutput_of_no_sink (s := ⟨{ g with text }, (g.finished r.text (resolvedHost g h)).2⟩)
          ((sink?_of_unwritten hunwritten).trans hk)
      cases he.symm.trans hwrite

theorem calls_composed_of_rendering (r : g.Rendering h) :
    (g.composed h).2.calls = h.calls ++ g.resolverCalls h ++
      if g.format then [Formatter.callFor g.settings r.text] else [] := by
  have hcalls := calls_finished g r.text (resolvedHost g h)
  rw [calls_resolvedHost] at hcalls
  rw [composed_of_rendering r, bind_apply, ← hcalls]
  rcases g.finished r.text (resolvedHost g h) with ⟨f | text, h'⟩
  · rfl
  · exact (calls_stage .writeOutput ⟨{ g with text }, h'⟩).trans (List.append_nil _)

/-- What a run of a new generator comes to. It goes well exactly when a text is rendered, finished
and there is a sink for it; then this sink receives it. Behind the call that resolves the
declaration there is at most one of the formatter, with the rendered text. -/
theorem run_composes {g : Generator} (hg : g.IsNew) (h : Host) :
    ((run ⟨g, h⟩).1 = .ok () ↔
        ∃ (r : g.Rendering h) (text : Text) (k : Sink),
          g.finishedText h r.text = .ok text ∧ g.sink? h = some k) ∧
      (∀ (r : g.Rendering h) (text : Text) (k : Sink),
        g.finishedText h r.text = .ok text → g.sink? h = some k →
          k.Receives text h (run ⟨g, h⟩).2.host) ∧
      ∃ formatting,
        (run ⟨g, h⟩).2.host.calls = h.calls ++ g.resolverCalls h ++ formatting ∧
          (∀ r : g.Rendering h,
            formatting = if g.format then [Formatter.callFor g.settings r.text] else []) ∧
          (IsEmpty (g.Rendering h) → formatting = []) := by
  have hrun : run.onlyHost g h = g.composed h := congrFun (onlyHost_run fun _ => hg.resolved) h
  have houtcome : (run ⟨g, h⟩).1 = (g.composed h).1 := congrArg Prod.fst hrun
  have hhost : (run ⟨g, h⟩).2.host = (g.composed h).2 := congrArg Prod.snd hrun
  rw [houtcome, hhost]
  refine ⟨⟨rendering_of_composed, ?_⟩, ?_, ?_⟩
  · rintro ⟨r, text, k, htext, hk⟩
    exact (composed_of_sink htext hk).1
  · intro r text k htext hk
    exact (composed_of_sink htext hk).2
  obtain hr | ⟨⟨r⟩⟩ := isEmpty_or_nonempty (g.Rendering h)
  · obtain ⟨f, hf⟩ := composed_of_isEmpty hr
    refine ⟨[], ?_, fun r => hr.elim r, fun _ => rfl⟩
    rw [hf, calls_resolvedHost, List.append_nil]
  · refine ⟨_, calls_composed_of_rendering r, fun r' => ?_, fun hr => hr.elim r⟩
    rw [r.text_unique r']

/-- Code for a type of the package in the current directory, formatted and written into a file. -/
theorem run_composes_formatted :
    let g : Generator :=
      { Generator.ofName "T" Settings.default with
        directory := some "."
        template := some "package   \x7b\x7b package.name \x7d\x7d"
        output := some "gen.go"
        format := true }
    let answer : Text :=
      "\x7b\"found\":true,\"package\":\x7b\"name\":\"p\",\"path\":\"m/p\"\x7d," ++
      "\"type\":\x7b\"kind\":\"other\"\x7d\x7d"
    let h := Host.inModule [some ⟨0, answer.bytes, []⟩, some ⟨0, Text.bytes "package p\n", []⟩]
    g.IsNew ∧ (run ⟨g, h⟩).1 = .ok () ∧
      (Sink.file ["m", "gen.go"]).Receives "package p\n" h (run ⟨g, h⟩).2.host := by
  intro g answer h
  have hnew : g.IsNew := ⟨rfl, rfl, rfl⟩
  have hrendered : (g.rendered h).1 = .ok "package   p" := by decide +kernel
  obtain ⟨r, hr⟩ := rendered_eq_ok_iff.mp hrendered
  have htext : g.finishedText h r.text = .ok "package p\n" := by
    rw [hr]
    decide +kernel
  have hk : g.sink? h = some (.file ["m", "gen.go"]) := by decide +kernel
  obtain ⟨hruns, hreceives, -⟩ := run_composes hnew h
  exact ⟨hnew, hruns.mpr ⟨r, _, _, htext, hk⟩, hreceives r _ _ htext hk⟩

end Stage

end Stencil
