import Stencil.Declaration.Decode
import Stencil.Proofs.Outcome
import Stencil.Proofs.Span

/-!
# When decoding succeeds

What a document says in its members : the text of a member (`Says`), the items of a list
(`HasItems`), and whether a member is set (`Sets`). One lemma for each decoder says exactly when it
succeeds, and with what.

A loop runs over the names of an object and over the characters of a text too, but as every item has
to be an object, it succeeds only on lists and on what counts as absent (`decodeItems_eq_ok_iff`).
-/

namespace Stencil

namespace Document

/-- The member with a name is the text, or is missing and the text is empty. Nothing is said of a
member that is no text. -/
def Says (d : Document) (name t : Text) : Prop :=
  ∀ s, (d.member? name).getD (.text []) = .text s → t = s

/-- The document is the list of the items, or counts as absent and there are none. -/
def HasItems (d : Document) (items : List Document) : Prop :=
  d = .list items ∨ d.isEmpty ∧ items = []

/-- The member with a name is there and does not count as absent. -/
def Sets (d : Document) (name : Text) : Prop := (Declaration.memberOf name d).isEmpty = false

end Document

namespace Declaration

variable {d : Document} {name s : Text}

/-! ## The document in an output -/

theorem dropWhile_messages {noise rest : Text} (hnoise : '\x7b' ∉ noise)
    (hrest : Stops (· ≠ '\x7b') rest) : (noise ++ rest).dropWhile (· ≠ '\x7b') = rest :=
  dropWhile_span (fun c hc => by simpa using ne_of_mem_of_not_mem hc hnoise) hrest

/-- Reading begins at the first brace, behind all other messages. -/
theorem document_append {noise : Text} (hnoise : '\x7b' ∉ noise) (doc : Text) :
    document (noise ++ '\x7b' :: doc) =
      (Document.read ('\x7b' :: doc)).mapError (.malformedDocument (noise ++ '\x7b' :: doc)) := by
  rw [document, dropWhile_messages hnoise (by simp)]
  cases hread : Document.read ('\x7b' :: doc) <;> simp [hread, Except.mapError]

theorem document_append_eq_ok_iff {noise : Text} (hnoise : '\x7b' ∉ noise) (doc : Text) :
    document (noise ++ '\x7b' :: doc) = .ok d ↔ Document.read ('\x7b' :: doc) = .ok d := by
  rw [document_append hnoise]
  cases Document.read ('\x7b' :: doc) <;> simp [Except.mapError]

/-! ## Members -/

theorem textOf_of_text (h : d.member? name = some (.text s)) : textOf name d = s := by
  simp [textOf, h, Document.shown]

theorem textOrEmpty_of_text (h : d.member? name = some (.text s)) : textOrEmpty name d = s := by
  cases s <;> simp [textOrEmpty, memberOf, h, Document.isEmpty, Document.shown]

theorem says_textOf (name : Text) (d : Document) : d.Says name (textOf name d) := by
  intro s h
  cases hm : d.member? name with
  | none =>
    rw [hm] at h
    cases h
    simp [textOf, hm]
  | some v =>
    obtain rfl : v = .text s := by simpa [hm] using h
    exact textOf_of_text hm

theorem says_textOrEmpty (name : Text) (d : Document) : d.Says name (textOrEmpty name d) := by
  intro s h
  cases hm : d.member? name with
  | none =>
    rw [hm] at h
    cases h
    simp [textOrEmpty, memberOf, hm, Document.isEmpty]
  | some v =>
    obtain rfl : v = .text s := by simpa [hm] using h
    exact textOrEmpty_of_text hm

theorem not_isEmpty_iff_sets : (!(memberOf name d).isEmpty) = true ↔ d.Sets name := by
  simp [Document.Sets]

theorem nameOf?_eq_some_iff : nameOf? d = some s ↔ d.member? "name" = some (.text s) := by
  unfold nameOf?
  split <;> simp_all

/-! ## Loops -/

theorem itemsOf_eq_ok_of_hasItems {items : List Document} (h : d.HasItems items) :
    itemsOf d = .ok items := by
  obtain rfl | ⟨hd, rfl⟩ := h
  · cases items <;> rfl
  · rw [itemsOf, if_pos hd]

/-- The items of anything but a list are texts. -/
theorem hasItems_of_itemsOf {items : List Document} (h : itemsOf d = .ok items) :
    d.HasItems items ∨ ∃ s rest, items = .text s :: rest := by
  unfold itemsOf at h
  split at h
  · next hd => exact .inl (.inr ⟨hd, (Except.ok.inj h).symm⟩)
  next hd =>
  cases d with
  | list xs => exact .inl (.inl (congrArg Document.list (Except.ok.inj h)))
  | text s =>
    cases s with
    | nil => exact absurd rfl hd
    | cons c s => exact .inr ⟨[c], _, (Except.ok.inj h).symm⟩
  | object members =>
    cases members with
    | nil => exact absurd rfl hd
    | cons m members => exact .inr ⟨m.1, _, (Except.ok.inj h).symm⟩
  | null | bool | int | float => cases h

/-- Decodes the items of a document one after the other. -/
def decodeItems {α : Type} (f : Document → Except DecodeFault α) (d : Document) :
    Except DecodeFault (List α) := do
  (← itemsOf d).mapM f

theorem decodeItems_eq_ok_iff {α : Type} {f : Document → Except DecodeFault α}
    (hf : ∀ s a, f (.text s) ≠ .ok a) {ys : List α} :
    decodeItems f d = .ok ys ↔
      ∃ items, d.HasItems items ∧ List.Forall₂ (fun x y => f x = .ok y) items ys := by
  simp only [decodeItems, bind_eq_ok_iff, mapM_eq_ok_iff]
  refine exists_congr fun items => and_congr_left fun h =>
    ⟨fun hitems => ?_, itemsOf_eq_ok_of_hasItems⟩
  -- The items are those of a list, or the first one is a text, which `f` does not take.
  rcases hasItems_of_itemsOf hitems with hitems | ⟨s, rest, rfl⟩
  · exact hitems
  · obtain ⟨y, _, hy, -, -⟩ := List.forall₂_cons_left_iff.mp h
    exact absurd hy (hf s y)

/-! ## Parts of a declaration -/

theorem malformed_ne_ok {α : Type} {part : Part} {a : α} : malformed part d ≠ .ok a :=
  fun h => nomatch h

theorem decodeType_eq_ok_iff {full kind short : Text} :
    decodeType d = .ok ⟨full, kind, short⟩ ↔ d.isObject ∧ textOrEmpty "repr" d = full ∧
      textOrEmpty "kind" d = kind ∧ textOrEmpty "short" d = short := by
  unfold decodeType
  split
  · next hd => simp only [hd, true_and, Except.ok.injEq, TypeRef.mk.injEq]
  · next hd => simp only [hd, malformed_ne_ok, false_and, Bool.false_eq_true]

theorem decodeVariable_eq_ok_iff {type : TypeRef} :
    decodeVariable d = .ok ⟨name, type⟩ ↔
      d.isObject ∧ textOrEmpty "name" d = name ∧ decodeType (memberOf "type" d) = .ok type := by
  unfold decodeVariable
  split
  · next hd =>
    simp only [hd, true_and, bind_eq_ok_iff, pure_eq_ok_iff, Variable.mk.injEq]
    constructor
    · rintro ⟨_, h, hname, rfl⟩
      exact ⟨hname, h⟩
    · rintro ⟨hname, h⟩
      exact ⟨_, h, hname, rfl⟩
  · next hd => simp only [hd, malformed_ne_ok, false_and, Bool.false_eq_true]

theorem decodeVariables_eq_ok_iff {vs : List Variable} :
    decodeVariables d = .ok vs ↔ (d = .null ∧ vs = []) ∨
      ∃ items, d = .list items ∧ List.Forall₂ (fun x v => decodeVariable x = .ok v) items vs := by
  unfold decodeVariables
  split
  · simp [eq_comm]
  · simp [mapM_eq_ok_iff]
  · next hnull hlist =>
    simp only [malformed_ne_ok, false_iff, not_or, not_and, not_exists]
    exact ⟨fun h => absurd h hnull, fun items h => absurd h (hlist items)⟩

theorem decodeMethod_eq_ok_iff {params results : List Variable} {variadic : Bool} :
    decodeMethod d = .ok ⟨name, params, results, variadic⟩ ↔
      d.member? "name" = some (.text name) ∧ decodeVariables (memberOf "params" d) = .ok params ∧
        decodeVariables (memberOf "results" d) = .ok results ∧
          (!(memberOf "variadic" d).isEmpty) = variadic := by
  rw [← nameOf?_eq_some_iff]
  unfold decodeMethod
  split
  · next hname => simp only [hname, malformed_ne_ok, reduceCtorEq, false_and]
  · next n hname =>
    simp only [hname, bind_eq_ok_iff, pure_eq_ok_iff, Method.mk.injEq, Option.some.injEq]
    constructor
    · rintro ⟨_, hparams, _, hresults, hname, rfl, rfl, hvariadic⟩
      exact ⟨hname, hparams, hresults, hvariadic⟩
    · rintro ⟨hname, hparams, hresults, hvariadic⟩
      exact ⟨_, hparams, _, hresults, hname, rfl, rfl, hvariadic⟩

theorem decodeField_eq_ok_iff {type : TypeRef} {tag : Text} {embedded : Bool} :
    decodeField d = .ok ⟨name, type, tag, embedded⟩ ↔
      d.member? "name" = some (.text name) ∧ decodeType (memberOf "type" d) = .ok type ∧
        textOrEmpty "tag" d = tag ∧ (!(memberOf "embedded" d).isEmpty) = embedded := by
  rw [← nameOf?_eq_some_iff]
  unfold decodeField
  split
  · next hname => simp only [hname, malformed_ne_ok, reduceCtorEq, false_and]
  · next n hname =>
    simp only [hname, bind_eq_ok_iff, pure_eq_ok_iff, Field.mk.injEq, Option.some.injEq]
    constructor
    · rintro ⟨_, htype, hname, rfl, htag, hembedded⟩
      exact ⟨hname, htype, htag, hembedded⟩
    · rintro ⟨hname, htype, htag, hembedded⟩
      exact ⟨_, htype, hname, rfl, htag, hembedded⟩

theorem decodeImport_eq_ok_iff {path : Text} :
    decodeImport d = .ok ⟨name, path⟩ ↔
      d.isObject ∧ textOf "name" d = name ∧ textOf "path" d = path := by
  unfold decodeImport
  split
  · next hd => simp only [hd, true_and, Except.ok.injEq, Import.mk.injEq]
  · next hd => simp only [hd, malformed_ne_ok, false_and, Bool.false_eq_true]

/-! A text is none of the parts that stand in lists. -/

theorem decodeMethod_text_ne_ok (s : Text) (m : Method) : decodeMethod (.text s) ≠ .ok m :=
  malformed_ne_ok

theorem decodeField_text_ne_ok (s : Text) (f : Field) : decodeField (.text s) ≠ .ok f :=
  malformed_ne_ok

theorem decodeImport_text_ne_ok (s : Text) (i : Import) : decodeImport (.text s) ≠ .ok i :=
  malformed_ne_ok

/-! ## Whole declarations -/

theorem decodeDefinition_interface (h : d.member? "kind" = some (.text "interface")) :
    decodeDefinition d = .interface <$> decodeItems decodeMethod (memberOf "methods" d) := by
  rw [decodeDefinition, h]
  simp only [if_true, decodeItems, map_eq_pure_bind, bind_assoc]

theorem decodeDefinition_struct (h : d.member? "kind" = some (.text "struct")) :
    decodeDefinition d = .struct <$> decodeItems decodeField (memberOf "fields" d) := by
  have hne : ¬("struct".toList = "interface".toList) := by decide
  rw [decodeDefinition, h]
  simp only [if_neg hne, if_true, decodeItems, map_eq_pure_bind, bind_assoc]

theorem decodeDefinition_other {kind : Text} (h : d.member? "kind" = some (.text kind))
    (hi : kind ≠ "interface") (hs : kind ≠ "struct") : decodeDefinition d = .ok (.other kind) := by
  rw [decodeDefinition, h]
  simp only [if_neg hi, if_neg hs]

theorem decodeDefinition_malformed (h : ∀ kind, d.member? "kind" ≠ some (.text kind)) :
    decodeDefinition d = malformed .type d := by
  unfold decodeDefinition
  split
  · next kind hkind => exact absurd hkind (h kind)
  · rfl

theorem decode_eq (h : (memberOf "package" d).isObject) :
    decode name d = do
      let imports ← decodeItems decodeImport (memberOf "imports" d)
      let type ← decodeDefinition (memberOf "type" d)
      return ⟨name, type, textOf "path" (memberOf "package" d),
        textOf "name" (memberOf "package" d), imports⟩ := by
  simp only [decode, h, Bool.not_true, Bool.false_eq_true, if_false, decodeItems, bind_assoc]

theorem decode_eq_noPackage (h : ¬(memberOf "package" d).isObject) :
    decode name d = .error .noPackage := by
  simp only [decode, h, Bool.not_false, if_true]

theorem decode_eq_ok_iff {name' path package : Text} {type : Definition} {imports : List Import} :
    decode name d = .ok ⟨name', type, path, package, imports⟩ ↔
      (memberOf "package" d).isObject ∧ name = name' ∧
        textOf "path" (memberOf "package" d) = path ∧
        textOf "name" (memberOf "package" d) = package ∧
        decodeItems decodeImport (memberOf "imports" d) = .ok imports ∧
        decodeDefinition (memberOf "type" d) = .ok type := by
  by_cases hpackage : (memberOf "package" d).isObject
  · simp only [decode_eq hpackage, bind_eq_ok_iff, pure_eq_ok_iff, Declaration.mk.injEq, hpackage,
      true_and]
    constructor
    · rintro ⟨_, himports, _, htype, hname, rfl, hpath, hpackage, rfl⟩
      exact ⟨hname, hpath, hpackage, himports, htype⟩
    · rintro ⟨hname, hpath, hpackage, himports, htype⟩
      exact ⟨_, himports, _, htype, hname, rfl, hpath, hpackage, rfl⟩
  · simp only [decode_eq_noPackage hpackage, hpackage, reduceCtorEq, false_and, Bool.false_eq_true]

end Declaration

end Stencil
