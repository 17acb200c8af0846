import Stencil.Description.Exposed
import Stencil.Template.Check
import Stencil.Template.Evaluate
import Stencil.Template.Limits
import Stencil.Template.Reader

/-!
# Rendering

`Template.render` reads a template, looks for the faults that can be found before rendering, and
gives the text that the template makes of a description. The helpers that are registered can be
called and used as filters; `defaultHelpers` are those of the tool. Changes that a template makes to
the lists and tables of the description stay, also when the rendering fails.
-/

namespace Stencil.Template

/-- The helpers that templates have unless others are registered. -/
def defaultHelpers : List Helper := [.quote]

/-- The statements of a template, unless it is faulty or passes a limit of the host. -/
def compile (helpers : List Helper) (template : Text) : Except Stop (List Node) := do
  let nodes ← parse template
  match Check.nodes helpers false nodes with
  | f :: _ => fault f
  | [] => if Limits.nodes 0 1 nodes then return Node.settled nodes else crash .tooDeep

/-- Nothing is there that could be asked. -/
def unanswered : Resume := fun _ => crash .tooDeep

/-- The text that a template makes of an object with fields. -/
def runOn (helpers : List Helper) (nodes : List Node) (root : Value) :
    ExceptT Stop (StateM Store) Text := do
  match root with
  | .record _ fields =>
    let given ← contextOf fields unanswered
    run helpers given nodes (resumeAt helpers given frames)
  | _ => crash .wrongType

/-- The text that a template makes of a description, and the description as the template leaves
it. -/
def render (helpers : List Helper) (template : Text) (e : Exposed) : Except Stop Text × Exposed :=
  match compile helpers template with
  | .error stop => (.error stop, e)
  | .ok nodes =>
    match runOn helpers nodes e.root e.store with
    | (r, store) => (r, { e with store })

end Stencil.Template
