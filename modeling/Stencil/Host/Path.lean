import Stencil.Text.Basic

/-!
# Paths

A path is read from its text (`Path.ofText`) as the names between its slashes, without empty names
and without single dots; `Path.text` writes it in that short form. A location is the names from the
root of the file tree on.
-/

namespace Stencil

/-- The place of a directory or a file, as the names from the root on. -/
abbrev Location := List Text

/-- The text of a location. -/
def Location.text (l : Location) : Text := '/' :: Text.joined ['/'] l

/-- A path. -/
structure Path where
  /-- The slashes it begins with: none, one or two. -/
  root : Text
  names : List Text
  deriving DecidableEq, Inhabited, Repr

namespace Path

/-- The slashes that begin a path: exactly two stay two, more are one. -/
def rootOf (s : Text) : Text :=
  match s with
  | '/' :: '/' :: '/' :: _ => ['/']
  | '/' :: '/' :: _ => ['/', '/']
  | '/' :: _ => ['/']
  | _ => []

/-- Whether a name between slashes counts. -/
def isName (n : Text) : Bool := !(n.isEmpty || n = ['.'])

/-- The path that a text writes. -/
def ofText (s : Text) : Path := ⟨rootOf s, (Text.splitOn ['/'] none s).filter isName⟩

/-- The path of a location. -/
def ofLocation (l : Location) : Path := ⟨['/'], l⟩

/-- The text of a path. The path without root and names is a dot. -/
def text (p : Path) : Text :=
  if p.root.isEmpty ∧ p.names.isEmpty then ['.'] else p.root ++ Text.joined ['/'] p.names

/-- The path with a further name. -/
def child (p : Path) (name : Text) : Path := { p with names := p.names ++ [name] }

end Path

end Stencil
