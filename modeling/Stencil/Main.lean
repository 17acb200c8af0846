import Std.Time
import Stencil.CommandLine.Command

/-!
# The program

The command in front of the file system. The host that it gets holds what lies on the way to the
paths of the command line, and the module files above the source. The program starts no others: what
the checker printed is read from the standard input, unless that is a terminal, and every further
call finds its program missing.
-/

namespace Stencil.CommandLine

/-- The locations on the way from a directory along names, the last one included. -/
def onTheWay : Location → List Text → List Location
  | l, [] => [l]
  | l, name :: rest =>
    l :: onTheWay (if name = ['.', '.'] then l.dropLast else l ++ [name]) rest

/-- The locations at which a run looks for something, from the current directory. -/
def lookedAt (current : Location) (a : Arguments) : List Location :=
  let places (s : Text) : List Location :=
    let p := Path.ofText s
    onTheWay (if p.root.isEmpty then current else []) p.names
  let sources := places a.directory
  let modules := (sources.flatMap FileTree.above).map (· ++ [SourceDirectory.moduleFile])
  (FileTree.above current ++ places a.templateFile ++ (a.output.map places).getD [] ++ sources
    ++ modules).eraseDups

/-- The tree with what is at a location of the file system. -/
def load (t : FileTree) (l : Location) : IO FileTree := do
  try
    return t.addFile l (← IO.FS.readBinFile (String.ofList l.text)).toList
  catch
    | .inappropriateType _ _ _ => return t.addDirectory l
    | _ => return t

/-- The variables of the environment that count, as far as they are set. -/
def knownEnvironment : IO (List (Text × Text)) :=
  ["GOGEN_GO", "GOGEN_FORMATTER", "GOGEN_LOG_LEVEL"].filterMapM fun name => do
    return (← IO.getEnv name).map fun v => (name.toList, v.toList)

/-- The answer of the checker: a success with what the standard input holds. -/
def checked : IO (List (Option Answer)) := do
  let input ← IO.getStdin
  if ← input.isTty then return []
  return [some ⟨0, (← input.readToEnd).toUTF8.toList, []⟩]

/-- The host that a command line needs. -/
def hostFor (line : List Text) : IO Host := do
  let current := (Path.ofText (← IO.currentDir).toString.toList).names
  let empty : Host :=
    { tree := ⟨[]⟩, current, environment := ← knownEnvironment
      programs := [], answers := [], calls := [], log := [], output := [], buffer := [] }
  match Request.read line with
  | .generate a =>
    return { empty with tree := ← (lookedAt current a).foldlM load ⟨[]⟩, answers := ← checked }
  | _ => return empty

/-- The time, as it stands before a line of the log. -/
def timeStamp : IO Text := do
  return ((← Std.Time.PlainDateTime.now).format "uuuu-MM-dd HH:mm:ss,SSS").toList

/-- Writes the files that are new or changed. -/
def writeChanged (old new : FileTree) : IO Unit := do
  for (l, content) in new.files do
    if old.entry? l ≠ some (.file content) then
      IO.FS.writeBinFile (String.ofList l.text) ⟨content.toArray⟩

end Stencil.CommandLine

open Stencil CommandLine in
/-- Runs the command of the command line. -/
def main (words : List String) : IO UInt32 := do
  let line := words.map String.toList
  let host ← hostFor line
  let (outcome, after) := Command.run (versionOf true) (← timeStamp) line host
  writeChanged host.tree after.tree
  IO.print (String.ofList after.output)
  IO.eprint (String.ofList outcome.errors)
  match outcome.exit with
  | .ok code => return code.toUInt32
  | .error _ => return 1
