import Stencil.Checker.Resolve
import Stencil.Formatter
import Stencil.Generator.Basic

/-!
# The stages of a generation

A generation resolves the declaration, describes it, loads the template, renders it, formats the
text and writes it (`Stage.all`). A stage that fails leaves the generator as it was, but for changes
that the template made to the description. `run` does the stages in turn, up to the first failure.
-/

namespace Stencil

/-- A computation that changes a session and may fail. -/
abbrev Stage := ExceptT Failure (StateM Session)

namespace Stage

/-- The logger of this part. -/
def logger : Text := "gogen.generator"

/-- Does a run on the host. -/
def onHost {α : Type} (r : Run α) : Stage α := fun s =>
  match r s.host with
  | (outcome, host) => (outcome, { s with host })

/-- Changes the generator. -/
def change (f : Generator → Generator) : Stage Unit := fun s =>
  (.ok (), { s with generator := f s.generator })

/-- The generator. -/
def generator : Stage Generator := do return (← get).generator

/-- An outcome as a stage. -/
def ofExcept {α : Type} (r : Except Failure α) : Stage α := fun s => (r, s)

/-- Resolves the declaration, if there is a source directory. -/
def parseSource : Stage Unit := do
  let g ← generator
  match g.directory with
  | none => return ()
  | some directory =>
    let d ← onHost (Checker.resolve g.settings directory g.name)
    change fun g => { g with resolved := some d }

/-- Describes the declaration. -/
def prepareDescription : Stage Unit := do
  let g ← generator
  let d ← ofExcept ((Description.extract g.tagKey g.name g.resolved).mapError Failure.ofExtract)
  change fun g => { g with described := some d.expose }

/-- The template in the file to which a path leads. -/
def templateAt (given : Text) (h : Host) : Except Failure Text :=
  match h.read (Path.ofText given) with
  | .error .nullCharacter => .error (.crash .badValue)
  | .error f => .error (.error (.unreadable given f))
  | .ok bytes =>
    match bytes.decode? with
    | some text => .ok (Text.unifyLineEnds text)
    | none => .error (.crash .undecodable)

/-- Loads the template from its file, unless there is one. -/
def loadTemplate : Stage Unit := do
  let g ← generator
  match g.template, g.templateFile with
  | some _, _ => return ()
  | none, none => throw (.error .noTemplate)
  | none, some given =>
    let text ← onHost (Run.look (templateAt given))
    change fun g => { g with template := some text }

/-- Renders the template. The description stays as the template leaves it. -/
def executeTemplate : Stage Unit := do
  let g ← generator
  match g.described, g.template with
  | some d, some template =>
    match Template.render g.helpers template d with
    | (outcome, d) =>
      change fun g => { g with described := some d }
      let text ← ofExcept (outcome.mapError Failure.ofStop)
      change fun g => { g with text }
  | _, _ => throw (.error .notPrepared)

/-- Formats the text, if that is wanted. -/
def formatSource : Stage Unit := do
  let g ← generator
  if g.format then
    let text ← onHost (Formatter.format g.settings g.output g.text)
    change fun g => { g with text }
  else return ()

/-- Writes a text into the file to which a path leads. -/
def writeFile (given text : Text) : Run Unit := do
  Run.note .info logger ("Writing " ++ given)
  let h ← get
  match h.tree.write h.current (Path.ofText given) text.bytes with
  | .ok tree => Run.change fun h => { h with tree }
  | .error .nullCharacter => throw (.crash .badValue)
  | .error f => Run.error (.unwritable given (.file f))

/-- Writes the text: to the writer if there is one, else to the output file, else to the standard
output. -/
def writeOutput : Stage Unit := do
  let g ← generator
  match g.writer, g.output with
  | some .buffer, _ => onHost (Run.change fun h => { h with buffer := h.buffer ++ g.text })
  | some .broken, output =>
    throw (.error (.unwritable (Formatter.outputName output) (.writer "disk full")))
  | none, none | none, some [] =>
    onHost (Run.change fun h => { h with output := h.output ++ g.text })
  | none, some given => onHost (writeFile given g.text)

/-- The stages in order. -/
def all : List (Stage Unit) :=
  [parseSource, prepareDescription, loadTemplate, executeTemplate, formatSource, writeOutput]

/-- Does all stages in order, up to the first failure. -/
def run : Stage Unit := do
  onHost (Run.note .info logger ("Generating code for " ++ (← generator).name))
  all.forM id

end Stage

end Stencil
