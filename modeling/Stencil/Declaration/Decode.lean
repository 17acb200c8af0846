import Stencil.Declaration.Basic
import Stencil.Document.Reader

/-!
# Declarations from documents

The type checker prints a declaration as an object, perhaps behind other messages.
`Declaration.document` reads that object, from the first brace on, and `Declaration.decode` takes
the declaration from it. Parts that are missing get defaults; a part of the wrong form is a fault
that shows it.
-/

namespace Stencil.Declaration

/-- The parts of a declaration's document that must have a form. -/
inductive Part where
  | importEntry
  | type
  | method
  | field
  | tuple
  | variable
  | reference
  deriving DecidableEq, Repr

/-- What messages call a part. -/
def Part.title : Part → Text
  | .importEntry => "import entry"
  | .type => "type"
  | .method => "method"
  | .field => "field"
  | .tuple => "tuple"
  | .variable => "variable"
  | .reference => "type reference"

/-- What can be wrong with the output of the type checker. -/
inductive DecodeFault where
  | noDocument (output : Text)
  | malformedDocument (output : Text) (fault : Document.Fault)
  | noPackage
  | malformed (part : Part) (shown : Text)
  /-- A document that has no items stands for a list. -/
  | noItems
  deriving DecidableEq, Repr

/-- The wording of a fault. -/
def DecodeFault.message : DecodeFault → Text
  | .noDocument output => "failed to parse resolver output\n" ++ output
  | .malformedDocument output fault =>
    "failed to parse resolver output: " ++ fault.message (output.dropWhile (· ≠ '\x7b')) ++ "\n"
      ++ output
  | .noPackage => "resolver output is missing package information"
  | .malformed part shown => "malformed " ++ part.title ++ " in resolver output: " ++ shown
  | .noItems => "object is not iterable"

/-- The document in the output of the type checker: from the first brace to the end. -/
def document (output : Text) : Except DecodeFault Document :=
  match output.dropWhile (· ≠ '\x7b') with
  | [] => .error (.noDocument output)
  | doc =>
    match Document.read doc with
    | .ok d => .ok d
    | .error fault => .error (.malformedDocument output fault)

/-- The member with a name; null when it is missing. -/
def memberOf (name : Text) (d : Document) : Document := (d.member? name).getD .null

/-- The text of the member with a name; empty when it is missing. -/
def textOf (name : Text) (d : Document) : Text := ((d.member? name).map (·.shown)).getD []

/-- The text of the member with a name; empty when it counts as absent. -/
def textOrEmpty (name : Text) (d : Document) : Text :=
  let v := memberOf name d
  if v.isEmpty then [] else v.shown

/-- The items of a document; none when it counts as absent. -/
def itemsOf (d : Document) : Except DecodeFault (List Document) :=
  if d.isEmpty then .ok []
  else match d.items? with
  | some items => .ok items
  | none => .error .noItems

/-- Reports a part of the wrong form. -/
def malformed {α : Type} (part : Part) (d : Document) : Except DecodeFault α :=
  .error (.malformed part d.display)

/-- The reference to a type. -/
def decodeType (d : Document) : Except DecodeFault TypeRef :=
  if d.isObject then
    .ok ⟨textOrEmpty "repr" d, textOrEmpty "kind" d, textOrEmpty "short" d⟩
  else malformed .reference d

/-- One parameter or result. -/
def decodeVariable (d : Document) : Except DecodeFault Variable :=
  if d.isObject then do return ⟨textOrEmpty "name" d, ← decodeType (memberOf "type" d)⟩
  else malformed .variable d

/-- Parameters or results. -/
def decodeVariables : Document → Except DecodeFault (List Variable)
  | .null => .ok []
  | .list items => items.mapM decodeVariable
  | d => malformed .tuple d

/-- The member `name`, when it is a text. -/
def nameOf? (d : Document) : Option Text :=
  match d.member? "name" with
  | some (.text name) => some name
  | _ => none

/-- One method. -/
def decodeMethod (d : Document) : Except DecodeFault Method :=
  match nameOf? d with
  | none => malformed .method d
  | some name => do
    let params ← decodeVariables (memberOf "params" d)
    let results ← decodeVariables (memberOf "results" d)
    return ⟨name, params, results, !(memberOf "variadic" d).isEmpty⟩

/-- One field. -/
def decodeField (d : Document) : Except DecodeFault Field :=
  match nameOf? d with
  | none => malformed .field d
  | some name => do
    let type ← decodeType (memberOf "type" d)
    return ⟨name, type, textOrEmpty "tag" d, !(memberOf "embedded" d).isEmpty⟩

/-- The definition of a type. -/
def decodeDefinition (d : Document) : Except DecodeFault Definition :=
  match d.member? "kind" with
  | some (.text kind) =>
    if kind = "interface" then do
      return .interface (← (← itemsOf (memberOf "methods" d)).mapM decodeMethod)
    else if kind = "struct" then do
      return .struct (← (← itemsOf (memberOf "fields" d)).mapM decodeField)
    else .ok (.other kind)
  | _ => malformed .type d

/-- One imported package. -/
def decodeImport (d : Document) : Except DecodeFault Import :=
  if d.isObject then .ok ⟨textOf "name" d, textOf "path" d⟩ else malformed .importEntry d

/-- The declaration of `name` that a document describes. -/
def decode (name : Text) (d : Document) : Except DecodeFault Declaration := do
  let package := memberOf "package" d
  if !package.isObject then .error .noPackage
  else
    let imports ← (← itemsOf (memberOf "imports" d)).mapM decodeImport
    let type ← decodeDefinition (memberOf "type" d)
    return ⟨name, type, textOf "path" package, textOf "name" package, imports⟩

end Stencil.Declaration
