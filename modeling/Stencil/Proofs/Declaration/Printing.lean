import Stencil.Proofs.Declaration.Decoding
import Stencil.Proofs.Document.Writing
import Stencil.Proofs.Span

/-!
# Declarations that were printed

`Declaration.printed` is the text that the type checker prints for a declaration : its document as
an encoder writes it (`Document.write`), and a line feed. Methods and fields are left out when
there are none.

`decode_printed` : behind any messages without a brace, the declaration is decoded from it. Each
`decode_toDocument` says so of one part.
-/

namespace Stencil.Declaration

/-! ## What is printed -/

def TypeRef.toDocument (t : TypeRef) : Document :=
  .object [("repr", .text t.full), ("short", .text t.short), ("kind", .text t.kind)]

def Variable.toDocument (v : Variable) : Document :=
  .object [("name", .text v.name), ("type", v.type.toDocument)]

def Method.toDocument (m : Method) : Document :=
  .object [("name", .text m.name), ("params", .list (m.params.map Variable.toDocument)),
    ("results", .list (m.results.map Variable.toDocument)), ("variadic", .bool m.variadic)]

def Field.toDocument (f : Field) : Document :=
  .object [("name", .text f.name), ("type", f.type.toDocument), ("tag", .text f.tag),
    ("embedded", .bool f.embedded)]

/-- A member that is left out when it has no items. -/
def listed (name : Text) (items : List Document) : List (Text × Document) :=
  if items.isEmpty then [] else [(name, .list items)]

def Definition.toDocument : Definition → Document
  | .interface methods =>
    .object (("kind", .text "interface") :: listed "methods" (methods.map Method.toDocument))
  | .struct fields =>
    .object (("kind", .text "struct") :: listed "fields" (fields.map Field.toDocument))
  | .other kind => .object [("kind", .text kind)]

def Import.toDocument (i : Import) : Document :=
  .object [("name", .text i.name), ("path", .text i.path)]

def toDocument (d : Declaration) : Document :=
  .object [("found", .bool true),
    ("package", Import.toDocument ⟨d.packageName, d.packagePath⟩),
    ("imports", .list (d.imports.map Import.toDocument)), ("type", d.type.toDocument)]

/-- What the type checker prints for a declaration. -/
def printed (letters : Bool) (d : Declaration) : Text := d.toDocument.write letters ++ ['\n']

/-- A definition of another kind does not have the name of an interface or a struct. -/
def Definition.HasOwnKind : Definition → Prop
  | .other kind => kind ≠ "interface" ∧ kind ≠ "struct"
  | _ => True

instance (d : Definition) : Decidable d.HasOwnKind := by
  cases d <;> unfold Definition.HasOwnKind <;> infer_instance

/-! ## What is printed is plain -/

open Document (Plain)

variable {n : Nat}

theorem TypeRef.plain_toDocument (t : TypeRef) : Plain (n + 1) t.toDocument :=
  .object (by simp) (by simp [Plain.text])

theorem Variable.plain_toDocument (v : Variable) : Plain (n + 2) v.toDocument :=
  .object (by simp) (by simp [Plain.text, v.type.plain_toDocument])

theorem plain_list {α : Type} {f : α → Document} (h : ∀ x, Plain n (f x)) (xs : List α) :
    Plain (n + 1) (.list (xs.map f)) :=
  .list (by simpa using fun x _ => h x)

theorem Method.plain_toDocument (m : Method) : Plain (n + 4) m.toDocument :=
  .object (by simp)
    (by simp [Plain.text, Plain.bool, plain_list Variable.plain_toDocument])

theorem Field.plain_toDocument (f : Field) : Plain (n + 2) f.toDocument :=
  .object (by simp) (by simp [Plain.text, Plain.bool, f.type.plain_toDocument])

theorem Import.plain_toDocument (i : Import) : Plain (n + 1) i.toDocument :=
  .object (by simp) (by simp [Plain.text])

theorem plain_listed {α : Type} {f : α → Document} (h : ∀ x, Plain n (f x))
    (name kind : Text) (hname : name ≠ "kind".toList) (xs : List α) :
    Plain (n + 2) (.object (("kind", .text kind) :: listed name (xs.map f))) := by
  cases xs with
  | nil => exact .object (by simp [listed]) (by simp [listed, Plain.text])
  | cons x xs =>
    have hlist : Plain (n + 1) (.list (f x :: xs.map f)) := plain_list h (x :: xs)
    exact .object (by simpa [listed] using hname.symm) (by simp [listed, Plain.text, hlist])

theorem Definition.plain_toDocument : ∀ d : Definition, Plain 6 d.toDocument
  | .interface methods => plain_listed Method.plain_toDocument _ _ (by decide) methods
  | .struct fields => plain_listed Field.plain_toDocument _ _ (by decide) fields
  | .other kind => .object (by simp) (by simp [Plain.text])

theorem plain_toDocument (d : Declaration) : Plain 7 d.toDocument :=
  .object (by simp) (by
    simp [Plain.bool, Import.plain_toDocument, plain_list Import.plain_toDocument,
      d.type.plain_toDocument])

/-! ## Decoding what was printed -/

theorem decodeType_toDocument (t : TypeRef) : decodeType t.toDocument = .ok t :=
  decodeType_eq_ok_iff.mpr
    ⟨rfl, textOrEmpty_of_text rfl, textOrEmpty_of_text rfl, textOrEmpty_of_text rfl⟩

theorem decodeVariable_toDocument (v : Variable) : decodeVariable v.toDocument = .ok v :=
  decodeVariable_eq_ok_iff.mpr ⟨rfl, textOrEmpty_of_text rfl, decodeType_toDocument v.type⟩

theorem forall₂_toDocument {α : Type} {f : Document → Except DecodeFault α} {g : α → Document}
    (h : ∀ x, f (g x) = .ok x) (xs : List α) :
    List.Forall₂ (fun d x => f d = .ok x) (xs.map g) xs :=
  List.forall₂_map_left_iff.mpr (List.forall₂_same.mpr fun x _ => h x)

theorem decodeVariables_toDocument (vs : List Variable) :
    decodeVariables (.list (vs.map Variable.toDocument)) = .ok vs :=
  decodeVariables_eq_ok_iff.mpr (.inr ⟨_, rfl, forall₂_toDocument decodeVariable_toDocument vs⟩)

theorem decodeMethod_toDocument (m : Method) : decodeMethod m.toDocument = .ok m :=
  decodeMethod_eq_ok_iff.mpr ⟨rfl, decodeVariables_toDocument m.params,
    decodeVariables_toDocument m.results, Bool.not_not m.variadic⟩

theorem decodeField_toDocument (f : Field) : decodeField f.toDocument = .ok f :=
  decodeField_eq_ok_iff.mpr ⟨rfl, decodeType_toDocument f.type, textOrEmpty_of_text rfl,
    Bool.not_not f.embedded⟩

theorem decodeImport_toDocument (i : Import) : decodeImport i.toDocument = .ok i :=
  decodeImport_eq_ok_iff.mpr ⟨rfl, textOf_of_text rfl, textOf_of_text rfl⟩

theorem decodeItems_toDocument {α : Type} {f : Document → Except DecodeFault α}
    {g : α → Document} (h : ∀ x, f (g x) = .ok x) {d : Document} {xs : List α}
    (hd : d.HasItems (xs.map g)) : decodeItems f d = .ok xs := by
  rw [decodeItems, itemsOf_eq_ok_of_hasItems hd]
  exact mapM_eq_ok_iff.mpr (forall₂_toDocument h xs)

/-- A list that is left out decodes as the empty one. -/
theorem hasItems_listed (name kind : Text) (hname : name ≠ "kind".toList)
    (items : List Document) :
    (memberOf name (.object (("kind", .text kind) :: listed name items))).HasItems items := by
  have hne : (name == "kind".toList) = false := beq_false_of_ne hname
  have hlookup : memberOf name (.object (("kind", .text kind) :: listed name items)) =
      ((listed name items).lookup name).getD .null := by
    rw [memberOf, Document.member?, List.lookup_cons, hne]
  rw [hlookup]
  cases items with
  | nil => exact .inr ⟨rfl, rfl⟩
  | cons d items => exact .inl (by simp [listed])

theorem decodeDefinition_toDocument :
    ∀ d : Definition, d.HasOwnKind → decodeDefinition d.toDocument = .ok d
  | .interface methods, _ => by
    have hitems := hasItems_listed "methods" "interface" (by decide)
      (methods.map Method.toDocument)
    rw [decodeDefinition_interface rfl]
    exact congrArg _ (decodeItems_toDocument decodeMethod_toDocument hitems)
  | .struct fields, _ => by
    have hitems := hasItems_listed "fields" "struct" (by decide)
      (fields.map Field.toDocument)
    rw [decodeDefinition_struct rfl]
    exact congrArg _ (decodeItems_toDocument decodeField_toDocument hitems)
  | .other kind, h => decodeDefinition_other rfl h.1 h.2

theorem decode_toDocument (d : Declaration) (h : d.type.HasOwnKind) :
    decode d.name d.toDocument = .ok d :=
  decode_eq_ok_iff.mpr ⟨rfl, rfl, textOf_of_text rfl, textOf_of_text rfl,
    decodeItems_toDocument decodeImport_toDocument (.inl rfl), decodeDefinition_toDocument d.type h⟩

/-! ## The output of the type checker -/

/-- Behind messages without a brace, a declaration is decoded from what was printed for it. -/
theorem decode_printed (letters : Bool) (d : Declaration) (h : d.type.HasOwnKind) {noise : Text}
    (hnoise : '\x7b' ∉ noise) :
    document (noise ++ printed letters d) >>= decode d.name = .ok d := by
  have hread : Document.read (printed letters d) = .ok d.toDocument :=
    Document.read_write (plain_toDocument d) (by decide) rfl
  have hdocument : document (noise ++ printed letters d) = .ok d.toDocument :=
    (document_append_eq_ok_iff hnoise _).mpr hread
  rw [hdocument]
  exact decode_toDocument d h

/-- A field with quotes and a backslash in its tag, behind a message. -/
theorem decode_printed_tag :
    document ("go: downloading go1.21\n" ++
        printed true ⟨"T", .struct [⟨"A", ⟨"*m.T", "pointer", "*T"⟩, "k:\"\\\"\"", true⟩], "m", "m",
          [⟨"fmt", "fmt"⟩]⟩) >>= decode "T" =
      .ok ⟨"T", .struct [⟨"A", ⟨"*m.T", "pointer", "*T"⟩, "k:\"\\\"\"", true⟩], "m", "m",
        [⟨"fmt", "fmt"⟩]⟩ :=
  decode_printed true _ (by decide) (by decide)

end Stencil.Declaration
