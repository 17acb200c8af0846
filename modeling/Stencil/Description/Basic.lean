import Stencil.Text.Basic

/-!
# Descriptions

A description is what a template knows about the type it generates code for: the name, and, when
the source was read, the package, its imports and the methods or the fields.
-/

namespace Stencil

namespace Description

/-- A package. -/
structure Package where
  path : Text
  name : Text
  deriving DecidableEq, Inhabited, Repr

/-- A type: its name with full import paths, and as code inside the package writes it. -/
structure GoType where
  name : Text
  isPointer : Bool
  shortName : Text
  deriving DecidableEq, Inhabited, Repr

/-- A type; without a short name it is written by its name. -/
def GoType.of (name : Text) (isPointer : Bool) (shortName : Text) : GoType :=
  ⟨name, isPointer, if shortName.isEmpty then name else shortName⟩

/-- A parameter or a result; one without a name has the empty one. -/
structure Var where
  name : Text
  type : GoType
  variadic : Bool
  deriving DecidableEq, Inhabited, Repr

/-- How a parameter list declares a type of this short name: the elements of a variadic slice
behind dots. -/
def declaredType (variadic : Bool) (shortName : Text) : Text :=
  match variadic, shortName with
  | true, '[' :: ']' :: element => "..." ++ element
  | _, shortName => shortName

/-- The type as a parameter list writes it. -/
def Var.declType (v : Var) : Text := declaredType v.variadic v.type.shortName

/-- A field with the entries of its tag. -/
structure Field where
  name : Text
  type : GoType
  tags : List (Text × Text)
  embedded : Bool
  deriving DecidableEq, Inhabited, Repr

/-- A method. -/
structure Method where
  name : Text
  params : List Var
  results : List Var
  variadic : Bool
  deriving DecidableEq, Inhabited, Repr

/-- The methods of an interface or the fields of a struct. -/
inductive Shape where
  | interface (methods : List Method)
  | struct (fields : List Field)
  deriving DecidableEq, Inhabited, Repr

end Description

/-- What a template knows about a type. There is no shape when the source was not read, or when the
type is neither an interface nor a struct. -/
structure Description where
  name : Text
  package : Option Description.Package
  imports : List Description.Package
  shape : Option Description.Shape
  deriving DecidableEq, Inhabited, Repr

namespace Description

/-- The description of a type of which only the name is known. -/
def ofName (name : Text) : Description := ⟨name, none, [], none⟩

/-- The methods, if the type is an interface. -/
def methods (d : Description) : List Method :=
  match d.shape with
  | some (.interface methods) => methods
  | _ => []

/-- The fields, if the type is a struct. -/
def fields (d : Description) : List Field :=
  match d.shape with
  | some (.struct fields) => fields
  | _ => []

end Description

end Stencil
