import Stencil.Proofs.Declaration.Decoding
import Stencil.Proofs.Description.Extraction

/-!
# Descriptions of documents

`Describes` relates a description to the document of the declaration it was made from, part by part
and without the declaration in between : lists item by item and in order, texts as they stand in the
document, the last parameter of a variadic method as its variadic one. `describes_of_extract` : when
a document is decoded and its declaration described, the description describes the document.
-/

namespace Stencil.Description

open Declaration (memberOf)

/-! ## What describes a document -/

/-- A type describes a reference to it. -/
structure GoType.Describes (t : GoType) (d : Document) : Prop where
  name : d.Says "repr" t.name
  name_ne : t.name ≠ []
  isPointer : ∃ kind, d.Says "kind" kind ∧ (t.isPointer ↔ kind = "pointer")
  shortName : ∃ short, d.Says "short" short ∧
    t.shortName = if short.isEmpty then t.name else short
  shortName_ne : t.shortName ≠ []

/-- A parameter or result describes its document. It is declared by its short name, but with dots in
place of the brackets of a variadic slice. -/
structure Var.Describes (v : Var) (d : Document) : Prop where
  name : d.Says "name" v.name
  type : v.type.Describes (memberOf "type" d)
  declType_slice : ∀ element, v.variadic → v.type.shortName = "[]" ++ element →
    v.declType = "..." ++ element
  declType_other : (∀ element, v.variadic → v.type.shortName ≠ "[]" ++ element) →
    v.declType = v.type.shortName

/-- A method describes its document. -/
structure Method.Describes (m : Method) (d : Document) : Prop where
  name : d.member? "name" = some (.text m.name)
  params : ∃ items, (memberOf "params" d).HasItems items ∧
    List.Forall₂ (fun x v => Var.Describes v x) items m.params
  results : ∃ items, (memberOf "results" d).HasItems items ∧
    List.Forall₂ (fun x v => Var.Describes v x) items m.results
  variadic : m.variadic ↔ d.Sets "variadic"
  variadic_param : ∀ i (hi : i < m.params.length),
    m.params[i].variadic ↔ d.Sets "variadic" ∧ i + 1 = m.params.length
  variadic_result : ∀ v ∈ m.results, v.variadic = false

/-- A field describes its document. -/
structure Field.Describes (key : Text) (f : Field) (d : Document) : Prop where
  name : d.member? "name" = some (.text f.name)
  type : f.type.Describes (memberOf "type" d)
  tags : ∃ tag, d.Says "tag" tag ∧ StructTag.entries tag key = .ok f.tags
  embedded : f.embedded ↔ d.Sets "embedded"

/-- A package describes its document. -/
structure Package.Describes (p : Package) (d : Document) : Prop where
  path : d.Says "path" p.path
  name : d.Says "name" p.name

/-- Methods describe the document of an interface, fields that of a struct, and nothing that of any
other definition. -/
inductive Shape.Describes (key : Text) (d : Document) : Option Shape → Prop where
  | interface {items : List Document} {methods : List Method}
      (kind : d.member? "kind" = some (.text "interface"))
      (hasItems : (memberOf "methods" d).HasItems items)
      (methods_describe : List.Forall₂ (fun x m => Method.Describes m x) items methods) :
      Shape.Describes key d (some (.interface methods))
  | struct {items : List Document} {fields : List Field}
      (kind : d.member? "kind" = some (.text "struct"))
      (hasItems : (memberOf "fields" d).HasItems items)
      (fields_describe : List.Forall₂ (fun x f => Field.Describes key f x) items fields) :
      Shape.Describes key d (some (.struct fields))
  | other {kind : Text} (kind_eq : d.member? "kind" = some (.text kind))
      (kind_ne : kind ≠ "interface" ∧ kind ≠ "struct") : Shape.Describes key d none

/-- A description of `name`, with tags under `key`, describes the document of its declaration. -/
structure Describes (key name : Text) (desc : Description) (d : Document) : Prop where
  name : desc.name = name
  package : ∃ p, desc.package = some p ∧ p.Describes (memberOf "package" d)
  imports : ∃ items, (memberOf "imports" d).HasItems items ∧
    List.Forall₂ (fun x p => Package.Describes p x) items desc.imports
  shape : Shape.Describes key (memberOf "type" d) desc.shape

/-! ## Descriptions that were extracted -/

open Declaration (decodeType decodeVariable decodeVariables decodeMethod decodeField decodeImport
  decodeDefinition decodeItems decodeDefinition_interface decodeDefinition_struct
  decodeDefinition_other decodeDefinition_malformed decode_eq_ok_iff decodeType_eq_ok_iff
  decodeVariable_eq_ok_iff decodeVariables_eq_ok_iff decodeMethod_eq_ok_iff decodeField_eq_ok_iff
  decodeImport_eq_ok_iff decodeItems_eq_ok_iff decodeMethod_text_ne_ok decodeField_text_ne_ok
  decodeImport_text_ne_ok says_textOf says_textOrEmpty not_isEmpty_iff_sets)

variable {d : Document}

theorem declaredType_slice (element : Text) :
    declaredType true ("[]" ++ element) = "..." ++ element := rfl

theorem declaredType_other {variadic : Bool} {shortName : Text}
    (h : ∀ element, variadic → shortName ≠ "[]" ++ element) :
    declaredType variadic shortName = shortName := by
  unfold declaredType
  split
  · next element => exact absurd rfl (h element rfl)
  · rfl

theorem GoType.describes {r : Declaration.TypeRef} {t : GoType} (hdecode : decodeType d = .ok r)
    (hextract : extractType r = .ok t) : t.Describes d := by
  obtain ⟨full, kind, short⟩ := r
  obtain ⟨-, rfl, rfl, rfl⟩ := decodeType_eq_ok_iff.mp hdecode
  obtain ⟨hne, rfl⟩ := extractType_eq_ok_iff.mp hextract
  exact
    { name := says_textOrEmpty _ _
      name_ne := hne
      isPointer := ⟨_, says_textOrEmpty _ _, decide_eq_true_iff⟩
      shortName := ⟨_, says_textOrEmpty _ _, rfl⟩
      shortName_ne := shortName_of_ne_nil hne }

theorem Var.describes {v : Declaration.Variable} {w : Var} (hdecode : decodeVariable d = .ok v)
    (hname : w.name = v.name) (hextract : extractType v.type = .ok w.type) : w.Describes d := by
  obtain ⟨name, type⟩ := v
  obtain ⟨-, rfl, htype⟩ := decodeVariable_eq_ok_iff.mp hdecode
  exact
    { name := hname ▸ says_textOrEmpty _ _
      type := GoType.describes htype hextract
      declType_slice := fun element hv hs => by
        rw [Var.declType, hv, hs, declaredType_slice]
      declType_other := declaredType_other }

theorem Var.all_describe {variadic : Bool} {vs : List Declaration.Variable} {ws : List Var}
    (hdecode : decodeVariables d = .ok vs) (hextract : extractVars variadic vs = .ok ws) :
    ∃ items, d.HasItems items ∧ List.Forall₂ (fun x w => Var.Describes w x) items ws := by
  have hvars := forall₂_of_extractVars hextract
  rcases decodeVariables_eq_ok_iff.mp hdecode with ⟨rfl, rfl⟩ | ⟨items, rfl, hitems⟩
  · rw [List.forall₂_nil_left_iff.mp hvars]
    exact ⟨[], .inr ⟨rfl, rfl⟩, .nil⟩
  · have hvar : ∀ x v w, decodeVariable x = .ok v →
        w.name = v.name ∧ extractType v.type = .ok w.type → Var.Describes w x :=
      fun x v w hx hw => Var.describes hx hw.1 hw.2
    exact ⟨items, .inl rfl, forall₂_trans hvar hitems hvars⟩

theorem Method.describes {m : Declaration.Method} {m' : Method} (hdecode : decodeMethod d = .ok m)
    (hextract : extractMethod m = .ok m') : m'.Describes d := by
  obtain ⟨name, params, results, variadic⟩ := m
  obtain ⟨name', params', results', variadic'⟩ := m'
  obtain ⟨hname, hparams, hresults, rfl⟩ := decodeMethod_eq_ok_iff.mp hdecode
  obtain ⟨rfl, hparams', hresults', rfl⟩ := extractMethod_eq_ok_iff.mp hextract
  refine
    { name := hname
      params := Var.all_describe hparams hparams'
      results := Var.all_describe hresults hresults'
      variadic := not_isEmpty_iff_sets
      variadic_param := fun i hi => ?_
      variadic_result := fun v hv => ?_ }
  · rw [variadic_of_extractVars hparams' i hi, Bool.and_eq_true, decide_eq_true_iff]
    exact and_congr_left fun _ => not_isEmpty_iff_sets
  · obtain ⟨i, hi, rfl⟩ := List.getElem_of_mem hv
    exact variadic_of_extractVars hresults' i hi

theorem Field.describes {key : Text} {f : Declaration.Field} {f' : Field}
    (hdecode : decodeField d = .ok f) (hextract : extractField key f = .ok f') :
    f'.Describes key d := by
  obtain ⟨name, type, tag, embedded⟩ := f
  obtain ⟨name', type', tags, embedded'⟩ := f'
  obtain ⟨hname, htype, rfl, rfl⟩ := decodeField_eq_ok_iff.mp hdecode
  obtain ⟨rfl, htype', htags, rfl⟩ := extractField_eq_ok_iff.mp hextract
  exact
    { name := hname
      type := GoType.describes htype htype'
      tags := ⟨_, says_textOrEmpty _ _, htags⟩
      embedded := not_isEmpty_iff_sets }

theorem Package.describes {i : Declaration.Import} (hdecode : decodeImport d = .ok i) :
    Package.Describes ⟨i.path, i.name⟩ d := by
  obtain ⟨name, path⟩ := i
  obtain ⟨-, rfl, rfl⟩ := decodeImport_eq_ok_iff.mp hdecode
  exact ⟨says_textOf _ _, says_textOf _ _⟩

/-- A list whose items are decoded and then extracted one by one. -/
theorem forall₂_of_decodeItems {α β : Type} {f : Document → Except Declaration.DecodeFault α}
    {g : α → Except ExtractFault β} {R : Document → β → Prop} (hf : ∀ s a, f (.text s) ≠ .ok a)
    (h : ∀ x a b, f x = .ok a → g a = .ok b → R x b) {as : List α} {bs : List β}
    (hdecode : decodeItems f d = .ok as) (hextract : as.mapM g = .ok bs) :
    ∃ items, d.HasItems items ∧ List.Forall₂ R items bs := by
  obtain ⟨items, hitems, has⟩ := (decodeItems_eq_ok_iff hf).mp hdecode
  exact ⟨items, hitems, forall₂_trans h has (mapM_eq_ok_iff.mp hextract)⟩

theorem Shape.describes {key : Text} {t : Declaration.Definition} {s : Option Shape}
    (hdecode : decodeDefinition d = .ok t) (hextract : extractShape key t = .ok s) :
    Shape.Describes key d s := by
  by_cases hkind : ∃ kind, d.member? "kind" = some (.text kind)
  · obtain ⟨kind, hkind⟩ := hkind
    by_cases hi : kind = "interface"
    · subst hi
      rw [decodeDefinition_interface hkind, map_eq_ok_iff] at hdecode
      obtain ⟨methods, hmethods, rfl⟩ := hdecode
      obtain ⟨methods', hmethods', h⟩ := bind_eq_ok_iff.mp hextract
      obtain rfl := pure_eq_ok_iff.mp h
      obtain ⟨items, hitems, hdescribe⟩ :=
        forall₂_of_decodeItems (R := fun x m => Method.Describes m x) decodeMethod_text_ne_ok
          (fun x m m' => Method.describes) hmethods hmethods'
      exact .interface hkind hitems hdescribe
    by_cases hs : kind = "struct"
    · subst hs
      rw [decodeDefinition_struct hkind, map_eq_ok_iff] at hdecode
      obtain ⟨fields, hfields, rfl⟩ := hdecode
      obtain ⟨fields', hfields', h⟩ := bind_eq_ok_iff.mp hextract
      obtain rfl := pure_eq_ok_iff.mp h
      obtain ⟨items, hitems, hdescribe⟩ :=
        forall₂_of_decodeItems (R := fun x f => Field.Describes key f x) decodeField_text_ne_ok
          (fun x f f' => Field.describes) hfields hfields'
      exact .struct hkind hitems hdescribe
    · rw [decodeDefinition_other hkind hi hs] at hdecode
      cases hdecode
      cases hextract
      exact .other hkind ⟨hi, hs⟩
  · rw [decodeDefinition_malformed fun kind h => hkind ⟨kind, h⟩] at hdecode
    cases hdecode

/-- What is decoded from a document and then extracted describes the document. -/
theorem describes_of_extract {key name : Text} {decl : Declaration} {desc : Description}
    (hdecode : Declaration.decode name d = .ok decl)
    (hextract : extract key name (some decl) = .ok desc) : desc.Describes key name d := by
  obtain ⟨name', type, path, package, imports⟩ := decl
  obtain ⟨-, rfl, rfl, rfl, himports, htype⟩ := decode_eq_ok_iff.mp hdecode
  obtain ⟨hname, hpackage, himports', hshape⟩ := extract_some_eq_ok_iff.mp hextract
  obtain ⟨items, hitems, hdescribe⟩ :=
    (decodeItems_eq_ok_iff decodeImport_text_ne_ok).mp himports
  refine
    { name := hname
      package := ⟨_, hpackage, says_textOf _ _, says_textOf _ _⟩
      imports := ⟨items, hitems, ?_⟩
      shape := Shape.describes htype hshape }
  rw [himports', List.forall₂_map_right_iff]
  exact hdescribe.imp fun x i hi => Package.describes hi

/-- Two imports, and three methods : two parameters of which the last is variadic and its type
without a short name, a parameter with a pointer type and two results, and nothing at all. -/
theorem describes_variadic_method :
    Describes "json" "Log"
      ⟨"Log", some ⟨"m/log", "log"⟩, [⟨"context", "context"⟩, ⟨"m/event", "event"⟩],
        some (.interface
          [⟨"Printf", [⟨"format", ⟨"string", false, "string"⟩, false⟩,
              ⟨"args", ⟨"[]any", false, "[]any"⟩, true⟩], [], true⟩,
            ⟨"Emit", [⟨"e", ⟨"*m/event.Event", true, "*event.Event"⟩, false⟩],
              [⟨[], ⟨"int", false, "int"⟩, false⟩, ⟨"err", ⟨"error", false, "error"⟩, false⟩],
              false⟩,
            ⟨"Close", [], [], false⟩])⟩
      (.object [("found", .bool true),
        ("package", .object [("path", .text "m/log"), ("name", .text "log")]),
        ("imports", .list [.object [("name", .text "context"), ("path", .text "context")],
          .object [("path", .text "m/event"), ("name", .text "event")]]),
        ("type", .object [("kind", .text "interface"),
          ("methods", .list
            [.object [("name", .text "Printf"), ("variadic", .bool true),
                ("params", .list
                  [.object [("name", .text "format"), ("type", .object [("repr", .text "string"),
                      ("kind", .text "basic"), ("short", .text "string")])],
                    .object [("name", .text "args"), ("type", .object [("repr", .text "[]any"),
                      ("kind", .text "slice")])]])],
              .object [("name", .text "Emit"),
                ("params", .list [.object [("name", .text "e"), ("type", .object
                  [("repr", .text "*m/event.Event"), ("kind", .text "pointer"),
                    ("short", .text "*event.Event")])]]),
                ("results", .list
                  [.object [("type", .object [("repr", .text "int"), ("kind", .text "basic"),
                      ("short", .text "int")])],
                    .object [("name", .text "err"), ("type", .object [("repr", .text "error"),
                      ("kind", .text "named"), ("short", .text "error")])]])],
              .object [("name", .text "Close")]])])]) :=
  describes_of_extract
    (show Declaration.decode _ _ = .ok
        ⟨"Log", .interface
          [⟨"Printf", [⟨"format", ⟨"string", "basic", "string"⟩⟩, ⟨"args", ⟨"[]any", "slice", []⟩⟩],
              [], true⟩,
            ⟨"Emit", [⟨"e", ⟨"*m/event.Event", "pointer", "*event.Event"⟩⟩],
              [⟨[], ⟨"int", "basic", "int"⟩⟩, ⟨"err", ⟨"error", "named", "error"⟩⟩], false⟩,
            ⟨"Close", [], [], false⟩], "m/log", "log",
          [⟨"context", "context"⟩, ⟨"event", "m/event"⟩]⟩ from rfl)
    rfl

end Stencil.Description
