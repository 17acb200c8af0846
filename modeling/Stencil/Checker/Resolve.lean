import Stencil.Checker.Program
import Stencil.Run
import Stencil.Settings
import Stencil.Source.Module

/-!
# Resolving a declaration

`Checker.resolve` finds the source directory, has the program of `Checker.Program` check the types
of the package there, and decodes the declaration that it prints.
-/

namespace Stencil.Checker

/-- The logger of this part. -/
def logger : Text := "gogen.resolver.scan"

/-- The call that looks for the type `name` in a directory. -/
def callFor (go directory name : Text) : Call :=
  { command := [go, "run", ".", "--dir", directory, "--name", name]
    input := none
    files := [("go.mod", moduleFile), ("main.go", program)] }

/-- The declaration of `name` in the answer of the program, which ran in a directory. -/
def declaration (name directory : Text) (a : Answer) : Except Failure Declaration :=
  let output := a.output.decodeLossy
  if a.code ≠ 0 then
    .error (Failure.resolution (.failed name directory a.errors.decodeLossy output))
  else
    match Declaration.document output with
    | .error f => .error (Failure.ofDecode f)
    | .ok d =>
      if (Declaration.memberOf "found" d).isEmpty then
        .error (Failure.resolution (.notDeclared name directory))
      else
        match Declaration.decode name d with
        | .ok declaration => .ok declaration
        | .error f => .error (Failure.ofDecode f)

/-- The declaration of the type `name` in the source directory that was given. -/
def resolve (settings : Settings) (given name : Text) : Run Declaration := do
  let source ← Run.look fun h => SourceDirectory.find h given
  let directory := source.package.text
  Run.note .info logger ("Parsing " ++ directory ++ " (module " ++ source.modulePath ++ ")")
  let call := callFor settings.go directory name
  Run.note .debug logger ("running " ++ Text.joined [' '] call.command)
  match ← Run.call call with
  | none => Run.error (.resolution (.noToolchain settings.go))
  | some a => liftExcept (declaration name directory a)
where
  /-- The outcome of a decoding. -/
  liftExcept {α : Type} (r : Except Failure α) : Run α := fun h => (r, h)

end Stencil.Checker
