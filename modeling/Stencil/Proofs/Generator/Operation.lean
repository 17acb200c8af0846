import Stencil.Proofs.Generator.Run

/-!
# Working with a generator

A caller makes a new generator, assigns its fields, calls its stages one by one or runs them all, in
any order and any number of times (`Operation`). An operation that fails leaves what it leaves, and
the caller goes on (`Session.after`). `Session.Reachable` : what such a caller can meet.
-/

namespace Stencil

/-- An assignment to a field of a generator. -/
inductive Assignment where
  | name (v : Text)
  | directory (v : Option Text)
  | template (v : Option Text)
  | templateFile (v : Option Text)
  | output (v : Option Text)
  | writer (v : Option Writer)
  | format (v : Bool)
  | tagKey (v : Text)
  | helpers (v : List Helper)
  | settings (v : Settings)

/-- The generator behind an assignment. -/
def Assignment.apply (g : Generator) : Assignment → Generator
  | name v => { g with name := v }
  | directory v => { g with directory := v }
  | template v => { g with template := v }
  | templateFile v => { g with templateFile := v }
  | output v => { g with output := v }
  | writer v => { g with writer := v }
  | format v => { g with format := v }
  | tagKey v => { g with tagKey := v }
  | helpers v => { g with helpers := v }
  | settings v => { g with settings := v }

/-- What a caller does with a generator. -/
inductive Operation where
  | call (n : Stage.Name)
  | run
  | assign (a : Assignment)

/-- What an operation does to the session. -/
def Operation.stage : Operation → Stage Unit
  | call n => n.stage
  | run => Stage.run
  | assign a => Stage.change a.apply

/-- The session behind operations. One that fails does not stop the caller. -/
def Session.after : List Operation → Session → Session
  | [], s => s
  | o :: os, s => after os (o.stage s).2

/-- A generator whose stages have made nothing so far. -/
structure Generator.IsNew (g : Generator) : Prop where
  resolved : g.resolved = none
  described : g.described = none
  text : g.text = []

/-- A session that operations on a new generator lead to. -/
def Session.Reachable (s : Session) : Prop :=
  ∃ (g : Generator) (h : Host) (os : List Operation), g.IsNew ∧ after os ⟨g, h⟩ = s

/-- A host whose current directory is the root of a module, with the answers of its programs. -/
def Host.inModule (answers : List (Option Answer)) : Host :=
  { tree := ⟨[(["m"], .directory), (["m", "go.mod"], .file (Text.bytes "module m\n"))]⟩
    current := ["m"]
    environment := []
    programs := []
    answers
    calls := []
    log := []
    output := []
    buffer := [] }

end Stencil
