import Stencil.Proofs.Generator.Operation

/-!
# What a failure leaves

A stage that fails writes nothing and leaves the generator as it found it, with one exception : what
a template changed in the lists and tables of the description before its rendering failed stays
changed (`Stage.Name.leftBy`). A run that fails leaves what the failing stage leaves, behind the
stages before it (`failed_leaves`). `failed_changes_description` meets the exception.
-/

namespace Stencil

/-- The description of a generator as a caller reads it. -/
def Generator.description? (g : Generator) : Option Description :=
  g.described.bind Exposed.description?

namespace Stage

/-- The generator that a stage leaves when it fails. -/
def Name.leftBy (n : Name) (g : Generator) : Generator :=
  match n, g.described, g.template with
  | executeTemplate, some d, some template =>
    { g with described := some { d with store := (Template.render g.helpers template d).2.store } }
  | _, _, _ => g

theorem store_of_render {helpers : List Helper} {template : Text} {d d' : Exposed}
    {outcome : Except Template.Stop Text}
    (hr : Template.render helpers template d = (outcome, d')) :
    { d with store := (Template.render helpers template d).2.store } = d' := by
  have hd : d' = (Template.render helpers template d).2 := by rw [hr]
  rw [hd, Template.render]
  split <;> rfl

theorem Name.leftBy_of_unprepared {g : Generator} (hg : g.described = none ∨ g.template = none) :
    leftBy executeTemplate g = g := by
  rcases hg with hg | hg
  · simp only [leftBy, hg]
  · cases hd : g.described <;> simp only [leftBy, hg, hd]

theorem generator_of_error {n : Name} {s : Session} {f : Failure} (h : (n.stage s).1 = .error f) :
    (n.stage s).2.generator = n.leftBy s.generator := by
  have hends := ends_stage n s
  generalize n.stage s = r at hends h ⊢
  cases hends with
  | unresolved | undescribed | unloaded | refused | unwritten => rfl
  | unprepared hs => exact (Name.leftBy_of_unprepared hs).symm
  | unrendered hd ht hr => simp only [Name.leftBy, hd, ht, store_of_render hr]
  | _ => cases h

/-- A stage or a run that fails writes nothing. It leaves the generator as it was, or as the stages
before the failing one left it, but for what a rendering that failed changed in the description. -/
theorem failed_leaves (s : Session) (f : Failure) :
    (∀ n : Name, (n.stage s).1 = .error f →
        s.host.Unwritten (n.stage s).2.host ∧
          (n.stage s).2.generator = n.leftBy s.generator) ∧
      ((run s).1 = .error f →
        s.host.Unwritten (run s).2.host ∧
          ∃ before n after s₁, Name.all = before ++ n :: after ∧
            through before (begun s) = (.ok (), s₁) ∧ n.stage s₁ = (.error f, (run s).2) ∧
            (run s).2.generator = n.leftBy s₁.generator) := by
  refine ⟨fun n h => ⟨unwritten_of_error h, generator_of_error h⟩, fun h => ?_⟩
  obtain ⟨hunwritten, before, n, after, s₁, hall, hbefore, hn⟩ := exists_stage_of_run_error h
  have herror : (n.stage s₁).1 = .error f := by rw [hn]
  refine ⟨hunwritten, before, n, after, s₁, hall, hbefore, hn, ?_⟩
  rw [← generator_of_error herror, hn]

/-- A template that was not prepared, and a text for the current directory itself. -/
theorem failed_leaves_directory :
    let g : Generator :=
      { Generator.ofName "T" Settings.default with
        template := some "text", output := some "." }
    let s : Session := ⟨g, Host.inModule []⟩
    let f : Failure := .error (.unwritable "." (.file .isDirectory))
    (Name.stage .executeTemplate s).1 = .error (.error .notPrepared) ∧
      (Name.stage .executeTemplate s).2.generator = Name.leftBy .executeTemplate g ∧
      (run s).1 = .error f ∧ s.host.Unwritten (run s).2.host := by
  intro g s f
  have hstage : (Name.stage .executeTemplate s).1 = .error (.error .notPrepared) := by decide
  have hrun : (run s).1 = .error f := by decide
  exact ⟨hstage, ((failed_leaves s _).1 _ hstage).2, hrun, ((failed_leaves s f).2 hrun).1⟩

/-- A template that takes an import out of the description and then uses what is absent. -/
theorem failed_changes_description :
    ¬∀ s : Session, s.Reachable → ∀ (n : Name) (f : Failure), (n.stage s).1 = .error f →
      (n.stage s).2.generator.description? = s.generator.description? := by
  intro hkeeps
  let g : Generator :=
    { Generator.ofName "T" Settings.default with
      directory := some "."
      template := some "\x7b\x7b imports.pop() \x7d\x7d\x7b\x7b missing \x7d\x7d" }
  let answer : Text :=
    "\x7b\"found\":true,\"package\":\x7b\"name\":\"p\",\"path\":\"m/p\"\x7d," ++
    "\"imports\":[\x7b\"name\":\"fmt\",\"path\":\"fmt\"\x7d]," ++
    "\"type\":\x7b\"kind\":\"other\"\x7d\x7d"
  let s : Session := .after [.call .parseSource, .call .prepareDescription]
    ⟨g, Host.inModule [some ⟨0, answer.bytes, []⟩]⟩
  have hbefore : s.generator.description? =
      some ⟨"T", some ⟨"m/p", "p"⟩, [⟨"fmt", "fmt"⟩], none⟩ := by decide +kernel
  have hafter : (Name.stage .executeTemplate s).2.generator.description? =
      some ⟨"T", some ⟨"m/p", "p"⟩, [], none⟩ := by decide +kernel
  have herror : (Name.stage .executeTemplate s).1 =
      .error (.error (.template (.absent "'missing' is undefined"))) := by decide +kernel
  have hsame := hkeeps s ⟨g, _, _, ⟨rfl, rfl, rfl⟩, rfl⟩ _ _ herror
  rw [hbefore, hafter] at hsame
  exact absurd hsame (by decide)

end Stage

end Stencil
