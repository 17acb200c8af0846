import Stencil.Declaration.Basic
import Stencil.Description.Basic
import Stencil.Tag.StructTag

/-!
# Descriptions of declarations

`Description.extract` describes a declared type: methods, parameters, fields and imports keep their
order. The last parameter of a variadic method is variadic. The tag of a field is read under the
key of the tool. The first field or variable that cannot be described is a fault.
-/

namespace Stencil.Description

/-- Why a declaration cannot be described: the entries of a field are malformed, or a type has no
text. -/
inductive ExtractFault where
  | entries (field raw : Text) (fault : Entries.Fault)
  | untyped (kind : Text)
  deriving DecidableEq, Repr

/-- The wording of a fault. -/
def ExtractFault.message : ExtractFault → Text
  | .entries field raw fault => "field " ++ field ++ ": " ++ fault.message raw
  | .untyped kind =>
    "type of kind " ++ (if kind.isEmpty then ("unknown" : Text) else kind) ++
      " has no display string"

/-- The type behind a reference. -/
def extractType (t : Declaration.TypeRef) : Except ExtractFault GoType :=
  if t.full.isEmpty then .error (.untyped t.kind)
  else .ok (GoType.of t.full (t.kind = "pointer".toList) t.short)

/-- Parameters or results; with `variadic` the last one is variadic. -/
def extractVars (variadic : Bool) : List Declaration.Variable → Except ExtractFault (List Var)
  | [] => .ok []
  | v :: rest => do
    let type ← extractType v.type
    let others ← extractVars variadic rest
    return ⟨v.name, type, variadic && rest.isEmpty⟩ :: others

/-- One method. -/
def extractMethod (m : Declaration.Method) : Except ExtractFault Method := do
  let params ← extractVars m.variadic m.params
  let results ← extractVars false m.results
  return ⟨m.name, params, results, m.variadic⟩

/-- One field, its tag read under `key`. -/
def extractField (key : Text) (f : Declaration.Field) : Except ExtractFault Field :=
  match StructTag.entries f.tag key with
  | .error (raw, fault) => .error (.entries f.name raw fault)
  | .ok tags => do return ⟨f.name, ← extractType f.type, tags, f.embedded⟩

/-- The methods or the fields of a definition. -/
def extractShape (key : Text) : Declaration.Definition → Except ExtractFault (Option Shape)
  | .interface methods => do return some (.interface (← methods.mapM extractMethod))
  | .struct fields => do return some (.struct (← fields.mapM (extractField key)))
  | .other _ => .ok none

/-- The description of the type `name`, from its declaration if that is known. -/
def extract (key name : Text) : Option Declaration → Except ExtractFault Description
  | none => .ok (ofName name)
  | some d => do
    let shape ← extractShape key d.type
    return ⟨name, some ⟨d.packagePath, d.packageName⟩, d.imports.map fun i => ⟨i.path, i.name⟩,
      shape⟩

end Stencil.Description
