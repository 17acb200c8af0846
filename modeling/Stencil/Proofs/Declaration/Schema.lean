import Stencil.Proofs.Declaration.Decoding

/-!
# The form of a declaration's document

`Conforms` says of a document, in terms of its members only, that it has the form of a declaration.
Three rules apply to members that may be missing : methods, fields and imports may be anything that
counts as absent, parameters and results may be null only, and a reference has to be there.
`decodes_iff_conforms` : a declaration is decoded from the documents of this form and from no
others.
-/

namespace Stencil

namespace Document

variable {d : Document} {name : Text}

/-- A list of documents of a form, or a document that counts as absent. -/
def IsListOf (form : Document → Prop) (d : Document) : Prop :=
  ∃ items, d.HasItems items ∧ ∀ x ∈ items, form x

/-- The member with a name is a text. -/
def HasText (name : Text) (d : Document) : Prop := ∃ s, d.member? name = some (.text s)

theorem isObject_of_member? {v : Document} (h : d.member? name = some v) : d.isObject := by
  cases d with
  | object members => rfl
  | null | bool | int | float | text | list => cases h

end Document

namespace Declaration

open Document (IsListOf HasText)

variable {d : Document}

/-! ## The forms of the parts -/

/-- The form of a parameter or a result. -/
structure IsVariable (d : Document) : Prop where
  isObject : d.isObject
  type : (memberOf "type" d).isObject

/-- The form of parameters or results : null, or a list of them. -/
def IsTuple (d : Document) : Prop :=
  d = .null ∨ ∃ items, d = .list items ∧ ∀ x ∈ items, IsVariable x

/-- The form of a method. -/
structure IsMethod (d : Document) : Prop where
  isObject : d.isObject
  name : d.HasText "name"
  params : IsTuple (memberOf "params" d)
  results : IsTuple (memberOf "results" d)

/-- The form of a field. -/
structure IsField (d : Document) : Prop where
  isObject : d.isObject
  name : d.HasText "name"
  type : (memberOf "type" d).isObject

/-- The form of a definition. Only interfaces and structs have parts. -/
structure IsDefinition (d : Document) : Prop where
  isObject : d.isObject
  kind : d.HasText "kind"
  methods : d.member? "kind" = some (.text "interface") →
    (memberOf "methods" d).IsListOf IsMethod
  fields : d.member? "kind" = some (.text "struct") → (memberOf "fields" d).IsListOf IsField

/-- The form of a declaration. -/
structure Conforms (d : Document) : Prop where
  package : (memberOf "package" d).isObject
  imports : (memberOf "imports" d).IsListOf fun x => x.isObject
  type : IsDefinition (memberOf "type" d)

/-! ## What is decoded -/

theorem exists_decodeType_iff : (∃ t, decodeType d = .ok t) ↔ d.isObject := by
  unfold decodeType
  split
  · next hd => simp [hd]
  · next hd => simp [hd, malformed_ne_ok]

theorem exists_decodeImport_iff : (∃ i, decodeImport d = .ok i) ↔ d.isObject := by
  unfold decodeImport
  split
  · next hd => simp [hd]
  · next hd => simp [hd, malformed_ne_ok]

theorem exists_decodeVariable_iff : (∃ v, decodeVariable d = .ok v) ↔ IsVariable d := by
  constructor
  · rintro ⟨v, hv⟩
    obtain ⟨hd, -, htype⟩ := decodeVariable_eq_ok_iff.mp hv
    exact ⟨hd, exists_decodeType_iff.mp ⟨v.type, htype⟩⟩
  · rintro ⟨hd, htype⟩
    obtain ⟨t, ht⟩ := exists_decodeType_iff.mpr htype
    exact ⟨⟨_, t⟩, decodeVariable_eq_ok_iff.mpr ⟨hd, rfl, ht⟩⟩

theorem exists_decodeVariables_iff : (∃ vs, decodeVariables d = .ok vs) ↔ IsTuple d := by
  unfold decodeVariables
  split
  · simp [IsTuple]
  · next items =>
    rw [exists_mapM_eq_ok_iff]
    simp only [exists_decodeVariable_iff, IsTuple, reduceCtorEq, false_or, Document.list.injEq,
      exists_eq_left']
  · next hnull hlist =>
    simp only [malformed_ne_ok, exists_false, IsTuple, false_iff, not_or, not_exists]
    exact ⟨hnull, fun items h => hlist items h.1⟩

theorem exists_decodeMethod_iff : (∃ m, decodeMethod d = .ok m) ↔ IsMethod d := by
  constructor
  · rintro ⟨m, hm⟩
    obtain ⟨hname, hparams, hresults, -⟩ := decodeMethod_eq_ok_iff.mp hm
    exact
      { isObject := Document.isObject_of_member? hname
        name := ⟨m.name, hname⟩
        params := exists_decodeVariables_iff.mp ⟨m.params, hparams⟩
        results := exists_decodeVariables_iff.mp ⟨m.results, hresults⟩ }
  · rintro ⟨-, ⟨name, hname⟩, hparams, hresults⟩
    obtain ⟨params, hparams⟩ := exists_decodeVariables_iff.mpr hparams
    obtain ⟨results, hresults⟩ := exists_decodeVariables_iff.mpr hresults
    exact ⟨⟨name, params, results, _⟩, decodeMethod_eq_ok_iff.mpr ⟨hname, hparams, hresults, rfl⟩⟩

theorem exists_decodeField_iff : (∃ f, decodeField d = .ok f) ↔ IsField d := by
  constructor
  · rintro ⟨f, hf⟩
    obtain ⟨hname, htype, -⟩ := decodeField_eq_ok_iff.mp hf
    exact
      { isObject := Document.isObject_of_member? hname
        name := ⟨f.name, hname⟩
        type := exists_decodeType_iff.mp ⟨f.type, htype⟩ }
  · rintro ⟨-, ⟨name, hname⟩, htype⟩
    obtain ⟨type, htype⟩ := exists_decodeType_iff.mpr htype
    exact ⟨⟨name, type, _, _⟩, decodeField_eq_ok_iff.mpr ⟨hname, htype, rfl, rfl⟩⟩

/-- A loop succeeds on the lists on whose items each round does, and on what counts as absent. -/
theorem exists_decodeItems_iff {α : Type} {f : Document → Except DecodeFault α}
    {form : Document → Prop} (htext : ∀ s a, f (.text s) ≠ .ok a)
    (hform : ∀ x, (∃ a, f x = .ok a) ↔ form x) :
    (∃ as, decodeItems f d = .ok as) ↔ d.IsListOf form := by
  simp only [decodeItems_eq_ok_iff htext, ← mapM_eq_ok_iff]
  rw [exists_comm]
  simp only [exists_and_left, exists_mapM_eq_ok_iff, hform]
  rfl

theorem isDefinition_iff {kind : Text} (hkind : d.member? "kind" = some (.text kind)) :
    IsDefinition d ↔
      (kind = "interface" → (memberOf "methods" d).IsListOf IsMethod) ∧
        (kind = "struct" → (memberOf "fields" d).IsListOf IsField) := by
  have hinj : ∀ s, d.member? "kind" = some (.text s) → kind = s := fun s hs =>
    Document.text.inj (Option.some.inj (hkind.symm.trans hs))
  constructor
  · rintro ⟨-, -, hmethods, hfields⟩
    exact ⟨fun h => hmethods (h ▸ hkind), fun h => hfields (h ▸ hkind)⟩
  · rintro ⟨hmethods, hfields⟩
    exact
      { isObject := Document.isObject_of_member? hkind
        kind := ⟨kind, hkind⟩
        methods := fun h => hmethods (hinj _ h)
        fields := fun h => hfields (hinj _ h) }

theorem exists_decodeDefinition_iff : (∃ t, decodeDefinition d = .ok t) ↔ IsDefinition d := by
  by_cases hkind : d.HasText "kind"
  · obtain ⟨kind, hkind⟩ := hkind
    rw [isDefinition_iff hkind]
    by_cases hi : kind = "interface"
    · subst hi
      have hne : ¬("interface".toList = "struct".toList) := by decide
      rw [decodeDefinition_interface hkind, exists_map_eq_ok_iff,
        exists_decodeItems_iff decodeMethod_text_ne_ok fun _ => exists_decodeMethod_iff]
      simp only [hne, false_implies, true_implies, and_true]
    by_cases hs : kind = "struct"
    · subst hs
      rw [decodeDefinition_struct hkind, exists_map_eq_ok_iff,
        exists_decodeItems_iff decodeField_text_ne_ok fun _ => exists_decodeField_iff]
      simp only [hi, false_implies, true_implies, true_and]
    · simp only [decodeDefinition_other hkind hi hs, Except.ok.injEq, exists_eq', hi, hs,
        false_implies, and_self]
  · have hno : ∀ kind, d.member? "kind" ≠ some (.text kind) := fun kind h => hkind ⟨kind, h⟩
    simp only [decodeDefinition_malformed hno, malformed_ne_ok, exists_false, false_iff]
    exact fun h => hkind h.kind

theorem exists_decode_iff {name : Text} : (∃ decl, decode name d = .ok decl) ↔ Conforms d := by
  have himports : (∃ is, decodeItems decodeImport (memberOf "imports" d) = .ok is) ↔
      (memberOf "imports" d).IsListOf fun x => x.isObject :=
    exists_decodeItems_iff decodeImport_text_ne_ok fun _ => exists_decodeImport_iff
  constructor
  · rintro ⟨decl, h⟩
    obtain ⟨hpackage, -, -, -, hi, ht⟩ := decode_eq_ok_iff.mp h
    exact
      { package := hpackage
        imports := himports.mp ⟨_, hi⟩
        type := exists_decodeDefinition_iff.mp ⟨_, ht⟩ }
  · rintro ⟨hpackage, hi, ht⟩
    obtain ⟨is, hi⟩ := himports.mpr hi
    obtain ⟨t, ht⟩ := exists_decodeDefinition_iff.mpr ht
    exact ⟨⟨name, t, _, _, is⟩, decode_eq_ok_iff.mpr ⟨hpackage, rfl, rfl, rfl, hi, ht⟩⟩

/-- A declaration is decoded from a document of its form. Any other document is a fault. -/
theorem decodes_iff_conforms (name : Text) (d : Document) :
    ((∃ decl, decode name d = .ok decl) ↔ Conforms d) ∧
      (¬Conforms d → ∃ fault, decode name d = .error fault) := by
  refine ⟨exists_decode_iff, fun hd => ?_⟩
  cases h : decode name d with
  | ok decl => exact absurd (exists_decode_iff.mp ⟨decl, h⟩) hd
  | error fault => exact ⟨fault, rfl⟩

end Declaration

end Stencil
