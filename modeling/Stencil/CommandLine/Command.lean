import Stencil.CommandLine.Arguments
import Stencil.CommandLine.Log
import Stencil.Generator.Stages

/-!
# The command

`Command.run` does what a command line asks for: it generates code, or shows the help or the
version, or says how the command line is misused. The exit code is zero when all went well, one for
an error of the tool, and two for a misuse.
-/

namespace Stencil.CommandLine

/-- How the command is used. -/
def usage : Text :=
  "usage: gogen [-h] --template-file TEMPLATE_FILE [--output OUTPUT] [--dir DIR]\n" ++
  "             [--format] [--debug] [--version]\n" ++
  "             name\n"

/-- The help that the command shows. -/
def help : Text :=
  usage ++
  "\nGenerate code from a Go interface or struct using a template.\n" ++
  "\npositional arguments:\n" ++
  "  name                  Name of the Go type to be parsed.\n" ++
  "\noptions:\n" ++
  "  -h, --help            show this help message and exit\n" ++
  "  --template-file TEMPLATE_FILE, -t TEMPLATE_FILE\n" ++
  "                        Path to the template file.\n" ++
  "  --output OUTPUT, -o OUTPUT\n" ++
  "                        Path to the output file (default: stdout).\n" ++
  "  --dir DIR, -d DIR     Path to the Go package directory (default: .).\n" ++
  "  --format              Format the output with gofmt.\n" ++
  "  --debug               Enable debug logging.\n" ++
  "  --version             show program\x27s version number and exit\n"

/-- How a command ends: with an exit code or a crash, and with what it wrote to the standard error
output. -/
structure Outcome where
  exit : Except Crash Nat
  errors : Text

namespace Command

/-- The generation that the arguments ask for. -/
def generator (a : Arguments) (settings : Settings) : Generator :=
  { Generator.ofName a.name settings with
    directory := some a.directory
    templateFile := some a.templateFile
    output := a.output
    format := a.format }

/-- Adds a text to the standard output. -/
def print (text : Text) (h : Host) : Host := { h with output := h.output ++ text }

/-- Generates code, with the log on the standard error output. -/
def generate (time : Text) (a : Arguments) (h : Host) : Outcome × Host :=
  let settings := Settings.load h.environment h.programs
  match (if a.debug then some Level.debug.rank else threshold? settings.logLevel) with
  | none => (⟨.error .badValue, []⟩, h)
  | some threshold =>
    let known := h.log.length
    match Stage.run ⟨generator a settings, h⟩ with
    | (outcome, s) =>
      let lines := logLines time threshold (s.host.log.drop known)
      match outcome with
      | .ok () => (⟨.ok 0, lines⟩, s.host)
      | .error (.error e) => (⟨.ok 1, lines ++ "gogen: " ++ e.message ++ ['\n']⟩, s.host)
      | .error (.crash c) => (⟨.error c, lines⟩, s.host)

/-- Does what a command line asks for; `version` is that of the tool, and `time` stands before each
line of the log. -/
def run (version time : Text) (line : List Text) (h : Host) : Outcome × Host :=
  match Request.read line with
  | .help => (⟨.ok 0, []⟩, print help h)
  | .version => (⟨.ok 0, []⟩, print ("gogen " ++ version ++ "\n") h)
  | .misused m => (⟨.ok 2, usage ++ "gogen: error: " ++ m.message ++ "\n"⟩, h)
  | .generate a => generate time a h

end Command

/-- The version of the tool, and what stands for it where the tool is not installed. -/
def versionOf (installed : Bool) : Text := if installed then "0.1.0" else "0.0.0"

end Stencil.CommandLine
