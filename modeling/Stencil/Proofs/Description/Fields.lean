import Stencil.Error
import Stencil.Proofs.Description.Extraction
import Stencil.Proofs.StructTag.Segments

/-!
# Structs that cannot be described

A field can be described when the annotation under the key of the tool is accepted and the type has
a text (`Describable`). For any other field one of the two is to blame, the annotation if it is
refused and else the type (`Blames`). `extract_struct_iff` : a struct is described when all of its
fields can be, and otherwise the first one that cannot be is reported.
-/

namespace Stencil.Description

open StructTag (lookup Reaches lookup_eq_iff_reaches)

/-- The field can be described : its annotation is accepted and its type has a text. -/
structure Describable (key : Text) (f : Declaration.Field) : Prop where
  accepted : ∃ items, Entries.parse (lookup f.tag key) = .ok items
  typed : f.type.full ≠ []

/-- The error for which a field is to blame. Nothing is said of the type of a field whose annotation
is refused. -/
inductive Blames (key : Text) (f : Declaration.Field) : Error → Prop
  | refused {fault : Entries.Fault} (h : Entries.parse (lookup f.tag key) = .error fault) :
    Blames key f (.entries f.name (lookup f.tag key) fault)
  | type {items : List (Text × List Text)} (h : Entries.parse (lookup f.tag key) = .ok items)
    (hfull : f.type.full = []) : Blames key f (.resolution (.untyped f.type.kind))

variable {key : Text} {f : Declaration.Field}

/-! ## One field -/

theorem entries_eq (tag key : Text) :
    StructTag.entries tag key =
      ((Entries.parse (lookup tag key)).map Entries.flatten).mapError
        fun e => (lookup tag key, e) := by
  unfold StructTag.entries
  dsimp only
  cases Entries.parse (lookup tag key) <;> rfl

theorem extractField_of_refused {fault : Entries.Fault}
    (h : Entries.parse (lookup f.tag key) = .error fault) :
    extractField key f = .error (.entries f.name (lookup f.tag key) fault) := by
  rw [extractField, entries_eq, h]
  rfl

theorem extractField_of_untyped {items : List (Text × List Text)}
    (h : Entries.parse (lookup f.tag key) = .ok items) (hfull : f.type.full = []) :
    extractField key f = .error (.untyped f.type.kind) := by
  have htype : extractType f.type = .error (.untyped f.type.kind) := by
    rw [extractType, hfull, List.isEmpty_nil, if_pos rfl]
  rw [extractField, entries_eq, h]
  simp only [Except.map, Except.mapError, htype]
  rfl

theorem exists_extractField_of_describable (h : Describable key f) :
    ∃ f', extractField key f = .ok f' := by
  obtain ⟨⟨items, hitems⟩, hfull⟩ := h
  have hentries : StructTag.entries f.tag key = .ok (Entries.flatten items) := by
    rw [entries_eq, hitems]
    rfl
  exact ⟨⟨f.name, _, _, f.embedded⟩, extractField_eq_ok_iff.mpr
    ⟨rfl, extractType_eq_ok_iff.mpr ⟨hfull, rfl⟩, hentries, rfl⟩⟩

/-- A field can be described, or it is to blame for an error. -/
theorem describable_or_blames (key : Text) (f : Declaration.Field) :
    Describable key f ∨ ∃ e fault, extractField key f = .error fault ∧
      Failure.ofExtract fault = .error e ∧ Blames key f e := by
  cases hparse : Entries.parse (lookup f.tag key) with
  | error fault => exact .inr ⟨_, _, extractField_of_refused hparse, rfl, .refused hparse⟩
  | ok items =>
    by_cases hfull : f.type.full = []
    · exact .inr ⟨_, _, extractField_of_untyped hparse hfull, rfl, .type hparse hfull⟩
    · exact .inl ⟨⟨items, hparse⟩, hfull⟩

theorem exists_extractField_iff : (∃ f', extractField key f = .ok f') ↔ Describable key f := by
  refine ⟨?_, exists_extractField_of_describable⟩
  rintro ⟨f', hf'⟩
  rcases describable_or_blames key f with h | ⟨e, fault, hfault, -⟩
  · exact h
  · rw [hfault] at hf'
    cases hf'

/-- The error of a field is the one for which it is to blame. -/
theorem extractField_eq_error_iff {e : Failure} :
    (∃ fault, extractField key f = .error fault ∧ Failure.ofExtract fault = e) ↔
      ∃ err, e = .error err ∧ Blames key f err := by
  constructor
  · rintro ⟨fault, hfault, rfl⟩
    rcases describable_or_blames key f with h | ⟨err, fault', hfault', herr, hblames⟩
    · obtain ⟨f', hf'⟩ := exists_extractField_of_describable h
      rw [hf'] at hfault
      cases hfault
    · obtain rfl : fault' = fault := Except.error.inj (hfault'.symm.trans hfault)
      exact ⟨err, herr, hblames⟩
  · rintro ⟨err, rfl, hblames⟩
    cases hblames with
    | refused h => exact ⟨_, extractField_of_refused h, rfl⟩
    | type h hfull => exact ⟨_, extractField_of_untyped h hfull, rfl⟩

/-- A refused annotation is the text of a literal with the key of the tool. -/
theorem exists_reaches_of_refused {tag : Text} {fault : Entries.Fault}
    (h : Entries.parse (lookup tag key) = .error fault) :
    ∃ body, Reaches key tag body ∧ Escape.literal? body = some (lookup tag key) := by
  have hne : lookup tag key ≠ [] := by
    intro hnil
    rw [hnil] at h
    cases h
  exact (lookup_eq_iff_reaches hne).mp rfl

theorem message_refused (field raw : Text) (fault : Entries.Fault) :
    Error.message (.entries field raw fault) = "field " ++ field ++ ": " ++ fault.message raw := by
  unfold Error.message ExtractFault.message
  rfl

theorem message_type (kind : Text) :
    Error.message (.resolution (.untyped kind)) =
      "type of kind " ++ (if kind = [] then ("unknown" : Text) else kind) ++
        " has no display string" := by
  unfold Error.message ResolutionFault.message ExtractFault.message
  simp only [List.isEmpty_iff]

/-! ## All fields -/

theorem extractShape_struct (key : Text) (fields : List Declaration.Field) :
    extractShape key (.struct fields) = (some ∘ .struct) <$> fields.mapM (extractField key) := by
  rw [extractShape, map_eq_pure_bind]
  rfl

theorem extract_eq_map (key name : Text) (decl : Declaration) :
    extract key name (some decl) =
      (fun shape => ⟨name, some ⟨decl.packagePath, decl.packageName⟩,
        decl.imports.map fun i => ⟨i.path, i.name⟩, shape⟩) <$> extractShape key decl.type := by
  rw [extract, map_eq_pure_bind]

/-- A struct is described when each of its fields can be. Otherwise the error is that of the first
field that cannot be described : it names the field and says what the annotation has wrong, or it
names the kind of the type. An annotation is refused only for the text of a literal with the key of
the tool, so what stands under other keys is never to blame. -/
theorem extract_struct_iff (key name : Text) (decl : Declaration)
    (fields : List Declaration.Field) :
    ((∃ d, extract key name (some { decl with type := .struct fields }) = .ok d) ↔
        ∀ f ∈ fields, Describable key f) ∧
      (∀ e, (extract key name (some { decl with type := .struct fields })).mapError
          Failure.ofExtract = .error e ↔
        ∃ before f after err, fields = before ++ f :: after ∧ (∀ g ∈ before, Describable key g) ∧
          Blames key f err ∧ e = .error err) ∧
      ∀ f err, Blames key f err →
        (∃ fault body, Entries.parse (lookup f.tag key) = .error fault ∧
          err.message = "field " ++ f.name ++ ": " ++ fault.message (lookup f.tag key) ∧
          Reaches key f.tag body ∧ Escape.literal? body = some (lookup f.tag key)) ∨
        f.type.full = [] ∧ err.message = "type of kind " ++
          (if f.type.kind = [] then ("unknown" : Text) else f.type.kind) ++ " has no display string" := by
  have hextract := extract_eq_map key name { decl with type := .struct fields }
  rw [extractShape_struct] at hextract
  refine ⟨?_, fun e => ?_, ?_⟩
  · simp only [hextract, exists_map_eq_ok_iff, exists_mapM_eq_ok_iff, exists_extractField_iff]
  · simp only [hextract, mapError_eq_error_iff, map_eq_error_iff, mapM_eq_error_iff,
      exists_extractField_iff]
    constructor
    · rintro ⟨fault, ⟨before, f, after, hfields, hbefore, hfault⟩, he⟩
      obtain ⟨err, herr, hblames⟩ := extractField_eq_error_iff.mp ⟨fault, hfault, he⟩
      exact ⟨before, f, after, err, hfields, hbefore, hblames, herr⟩
    · rintro ⟨before, f, after, err, hfields, hbefore, hblames, rfl⟩
      obtain ⟨fault, hfault, he⟩ := extractField_eq_error_iff.mpr ⟨err, rfl, hblames⟩
      exact ⟨fault, ⟨before, f, after, hfields, hbefore, hfault⟩, he⟩
  · intro f err hblames
    cases hblames with
    | refused hparse =>
      obtain ⟨body, hbody, hliteral⟩ := exists_reaches_of_refused hparse
      exact .inl ⟨_, body, hparse, message_refused _ _ _, hbody, hliteral⟩
    | type hparse hfull => exact .inr ⟨hfull, message_type _⟩

/-- The annotation of the second field ends inside of quotes, and its type has no text either. The
first field has the same annotation under another key. -/
example :
    (extract "gogen" "T" (some ⟨"T",
      .struct [⟨"A", ⟨"int", "basic", []⟩, "json:\"k=\x27x\"", false⟩,
        ⟨"B", ⟨[], [], []⟩, "json:\"x\" gogen:\"k=\x27x\"", false⟩], "m/p", "p", []⟩)) =
      .error (.entries "B" "k=\x27x" (.unclosed 2)) := by
  decide +kernel

end Stencil.Description
