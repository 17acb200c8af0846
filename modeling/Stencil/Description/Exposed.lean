import Stencil.Description.Basic
import Stencil.Template.Value

/-!
# Descriptions as templates see them

`Description.expose` puts a description into a store, as an object whose lists and tables a template
can change. `Exposed.description?` reads it back, unless a template has put something else into it.
-/

namespace Stencil

/-- A value together with the store that holds its lists and tables. -/
structure Exposed where
  store : Template.Store
  root : Value
  deriving Inhabited

namespace Description

/-! ## Into a store -/

/-- A computation that only adds to the store. -/
abbrev Build := StateM Template.Store

/-- Puts a list of values into the store. -/
def listed (vs : List Value) : Build Value := fun store =>
  (.list store.length, store ++ [.list vs])

/-- Puts a table of texts into the store. -/
def tabled (entries : List (Text × Text)) : Build Value := fun store =>
  (.dict store.length, store ++ [.dict (entries.map fun (k, v) => some (.text k, .text v))])

/-- A package as an object. -/
def Package.value (p : Package) : Value :=
  .record .package [("path", .text p.path), ("name", .text p.name)]

/-- A type as an object. -/
def GoType.value (t : GoType) : Value :=
  .record .goType [("name", .text t.name), ("is_pointer", .bool t.isPointer),
    ("short_name", .text t.shortName)]

/-- A parameter or a result as an object. -/
def Var.value (v : Var) : Value :=
  .record .var [("name", .text v.name), ("type", v.type.value), ("variadic", .bool v.variadic)]

/-- A field as an object. -/
def Field.value (f : Field) : Build Value := do
  let tags ← tabled f.tags
  return .record .field [("name", .text f.name), ("type", f.type.value), ("tags", tags),
    ("embedded", .bool f.embedded)]

/-- A method as an object. -/
def Method.value (m : Method) : Build Value := do
  let params ← listed (m.params.map Var.value)
  let results ← listed (m.results.map Var.value)
  return .record .method [("name", .text m.name), ("params", params), ("results", results),
    ("variadic", .bool m.variadic)]

/-- The methods or the fields as an object. -/
def Shape.value : Option Shape → Build Value
  | none => return .none
  | some (.interface methods) => do
    return .record .interfaceShape [("methods", ← listed (← methods.mapM Method.value))]
  | some (.struct fields) => do
    return .record .structShape [("fields", ← listed (← fields.mapM Field.value))]

/-- A description as an object. -/
def value (d : Description) : Build Value := do
  let imports ← listed (d.imports.map Package.value)
  let shape ← Shape.value d.shape
  return .record .description [("name", .text d.name),
    ("package", (d.package.map Package.value).getD .none), ("imports", imports), ("shape", shape)]

/-- A description as a template sees it. -/
def expose (d : Description) : Exposed :=
  match d.value [] with
  | (root, store) => ⟨store, root⟩

/-- The lists of a description are in the store, its name and its package are at hand. -/
theorem exists_root_expose (d : Description) : ∃ imports shape, d.expose.root =
    .record .description [("name", .text d.name),
      ("package", (d.package.map Package.value).getD .none), ("imports", imports),
      ("shape", shape)] := ⟨_, _, rfl⟩

/-! ## Out of a store -/

/-- The package that an object describes. -/
def Package.ofValue? : Value → Option Package
  | .record .package [(_, .text path), (_, .text name)] => some ⟨path, name⟩
  | _ => none

/-- The type that an object describes. -/
def GoType.ofValue? : Value → Option GoType
  | .record .goType [(_, .text name), (_, .bool isPointer), (_, .text shortName)] =>
    some ⟨name, isPointer, shortName⟩
  | _ => none

/-- The parameter or result that an object describes. -/
def Var.ofValue? : Value → Option Var
  | .record .var [(_, .text name), (_, type), (_, .bool variadic)] =>
    return ⟨name, ← GoType.ofValue? type, variadic⟩
  | _ => none

/-- The items of a list, as `read` reads them. -/
def items? {α : Type} (store : Template.Store) (read : Value → Option α) : Value → Option (List α)
  | .list p => (store.items p).mapM read
  | _ => none

/-- An entry of a table of texts. -/
def tag? : Value × Value → Option (Text × Text)
  | (.text k, .text v) => some (k, v)
  | _ => none

/-- The field that an object describes. -/
def Field.ofValue? (store : Template.Store) : Value → Option Field
  | .record .field [(_, .text name), (_, type), (_, .dict tags), (_, .bool embedded)] =>
    return ⟨name, ← GoType.ofValue? type, ← (store.entries tags).mapM tag?, embedded⟩
  | _ => none

/-- The method that an object describes. -/
def Method.ofValue? (store : Template.Store) : Value → Option Method
  | .record .method [(_, .text name), (_, params), (_, results), (_, .bool variadic)] =>
    return ⟨name, ← items? store Var.ofValue? params, ← items? store Var.ofValue? results, variadic⟩
  | _ => none

/-- The methods or the fields that an object describes. -/
def Shape.ofValue? (store : Template.Store) : Value → Option (Option Shape)
  | .none => some none
  | .record .interfaceShape [(_, methods)] =>
    return some (.interface (← items? store (Method.ofValue? store) methods))
  | .record .structShape [(_, fields)] =>
    return some (.struct (← items? store (Field.ofValue? store) fields))
  | _ => none

end Description

/-- The description that an exposed value holds. -/
def Exposed.description? (e : Exposed) : Option Description :=
  match e.root with
  | .record .description [(_, .text name), (_, package), (_, imports), (_, shape)] => do
    let package ← match package with
      | .none => some none
      | p => some <$> Description.Package.ofValue? p
    return ⟨name, package, ← Description.items? e.store Description.Package.ofValue? imports,
      ← Description.Shape.ofValue? e.store shape⟩
  | _ => none

end Stencil
