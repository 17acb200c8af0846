import Stencil.Run
import Stencil.Settings

/-!
# Formatting

The generated text goes through the formatter of the settings. Where the formatter complains about
its input, the complaint names the file for which the text is meant.
-/

namespace Stencil.Formatter

/-- What stands for the name of a file when the text goes to the standard output. -/
def outputName (output : Option Text) : Text :=
  match output with
  | none | some [] => "<stdout>"
  | some path => path

/-- The text in the answer of the formatter, for the file `name`. -/
def formatted (name : Text) (a : Answer) : Except Failure Text :=
  if a.code ≠ 0 then
    let errors := Text.replace "<standard input>" name none a.errors.decodeLossy
    .error (.error (.format (.failed name errors)))
  else
    match a.output.decode? with
    | some text => .ok text
    | none => .error (.crash .undecodable)

/-- The text as the formatter of the settings writes it. -/
def format (settings : Settings) (output : Option Text) (text : Text) : Run Text := do
  let name := outputName output
  Run.note .debug "gogen.fmt" ("formatting " ++ name ++ " with " ++ settings.formatter)
  match ← Run.call ⟨[settings.formatter], some text, []⟩ with
  | none => Run.error (.format (.noFormatter settings.formatter))
  | some a => fun h => (formatted name a, h)

end Stencil.Formatter
