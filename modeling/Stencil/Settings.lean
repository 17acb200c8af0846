import Stencil.Text.Casing

/-!
# Settings

The settings of the tool come from three variables of the environment. The formatter that also
mends imports is preferred when it is there.
-/

namespace Stencil

/-- The settings of the tool: the programs that it starts, and how much is logged. -/
structure Settings where
  go : Text
  formatter : Text
  logLevel : Text
  deriving DecidableEq, Inhabited, Repr

namespace Settings

/-- The settings that hold where nothing is set. -/
def default : Settings := ⟨"go", "gofmt", "WARNING"⟩

/-- The formatter that holds where none is set: `goimports` if it is found, else `gofmt`. -/
def defaultFormatter (programs : List Text) : Text :=
  if programs.contains "goimports" then "goimports" else default.formatter

/-- The value of a variable, or `other` when it is not set or empty. -/
def valueOf (environment : List (Text × Text)) (name : Text) (other : Text) : Text :=
  match environment.lookup name with
  | none | some [] => other
  | some v => v

/-- The settings in an environment with programs. -/
def load (environment : List (Text × Text)) (programs : List Text) : Settings :=
  ⟨valueOf environment "GOGEN_GO" default.go,
    valueOf environment "GOGEN_FORMATTER" (defaultFormatter programs),
    Text.upper (valueOf environment "GOGEN_LOG_LEVEL" default.logLevel)⟩

end Settings

end Stencil
