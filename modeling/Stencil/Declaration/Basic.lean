import Stencil.Text.Basic

/-!
# Declarations

What the type checker reports about a declared type: its package, the packages that are imported
there, and its definition, with the methods of an interface or the fields of a struct.
-/

namespace Stencil

namespace Declaration

/-- A type: as it is written in full, its kind, and as it is written inside its package. -/
structure TypeRef where
  full : Text
  kind : Text
  short : Text
  deriving DecidableEq, Inhabited, Repr

/-- A parameter or a result. -/
structure Variable where
  name : Text
  type : TypeRef
  deriving DecidableEq, Inhabited, Repr

/-- A method of an interface. -/
structure Method where
  name : Text
  params : List Variable
  results : List Variable
  variadic : Bool
  deriving DecidableEq, Inhabited, Repr

/-- A field of a struct with its tag as it stands in the source. -/
structure Field where
  name : Text
  type : TypeRef
  tag : Text
  embedded : Bool
  deriving DecidableEq, Inhabited, Repr

/-- What a type is defined to be; of other kinds only the name of the kind is known. -/
inductive Definition where
  | interface (methods : List Method)
  | struct (fields : List Field)
  | other (kind : Text)
  deriving DecidableEq, Inhabited, Repr

/-- An imported package. -/
structure Import where
  name : Text
  path : Text
  deriving DecidableEq, Inhabited, Repr

end Declaration

/-- A declared type. -/
structure Declaration where
  name : Text
  type : Declaration.Definition
  packagePath : Text
  packageName : Text
  imports : List Declaration.Import
  deriving DecidableEq, Inhabited, Repr

end Stencil
