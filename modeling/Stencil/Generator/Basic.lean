import Stencil.Declaration.Basic
import Stencil.Host.Basic
import Stencil.Settings
import Stencil.Template.Render

/-!
# Generators

A generator holds what one generation of code needs, and what its stages have made so far. Together
with the host it is a session; the stages change both.
-/

namespace Stencil

/-- Where the caller wants the text written, instead of a file or the standard output. -/
inductive Writer where
  /-- Into the buffer. -/
  | buffer
  /-- Somewhere that fails. -/
  | broken
  deriving DecidableEq, Repr

/-- A generation of code. -/
structure Generator where
  name : Text
  /-- The source directory; without one the template sees only the name. -/
  directory : Option Text
  template : Option Text
  templateFile : Option Text
  output : Option Text
  writer : Option Writer
  format : Bool
  /-- The key under which field tags are read. -/
  tagKey : Text
  helpers : List Helper
  settings : Settings
  /-- The declaration that was resolved. -/
  resolved : Option Declaration
  /-- The description that was made of it. -/
  described : Option Exposed
  /-- The text that was made. -/
  text : Text
  deriving Inhabited

namespace Generator

/-- The key under which field tags are read unless another one is given. -/
def defaultTagKey : Text := "gogen"

/-- A generation for a name, with nothing else given. -/
def ofName (name : Text) (settings : Settings) : Generator :=
  { name, settings
    directory := none
    template := none
    templateFile := none
    output := none
    writer := none
    format := false
    tagKey := defaultTagKey
    helpers := Template.defaultHelpers
    resolved := none
    described := none
    text := [] }

end Generator

/-- A generator and the host on which it works. -/
structure Session where
  generator : Generator
  host : Host
  deriving Inhabited

end Stencil
