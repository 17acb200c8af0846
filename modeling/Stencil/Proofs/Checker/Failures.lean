import Stencil.Proofs.Checker.Noise
import Stencil.Proofs.Source.Module

/-!
# How resolving a declaration fails

Resolving a declaration is meant to fail with errors of resolution only. It ends in a crash where a
failure on the way is not looked after : where the source directory is not accessible, where the
program cannot be called, where the document exceeds a limit of the reader, and where it has a number
or `true` in the place of a list that is gone through.

`resolve_ends_iff` : a declaration is resolved, or an error of resolution is reported, exactly when
the way leads past all of them. `resolve_crashes` meets the last one.
-/

namespace Stencil

/-- `true`, or a number other than zero : it does not count as absent, and has no items. -/
def Document.IsScalar : Document → Prop
  | .bool b => b
  | .int i => i ≠ 0
  | .float x => (x == 0.0) = false
  | _ => False

/-- A document is refused for its size : a number has too many digits, or brackets are nested too
deep. -/
def Document.Cause.IsLimit : Document.Cause → Prop
  | .tooManyDigits | .tooDeep => True
  | _ => False

namespace Declaration

variable {d : Document} {P : DecodeFault → Prop}

/-! ## Parts of a declaration -/

theorem itemsOf_failsOnly_iff (hnone : ¬P .noItems) :
    FailsOnly P (itemsOf d) ↔ ¬d.IsScalar := by
  unfold itemsOf
  cases d with
  | null => exact iff_of_true failsOnly_ok id
  | text | list | object =>
    refine iff_of_true ?_ id
    split <;> exact failsOnly_ok
  | bool b => cases b <;> simp [Document.isEmpty, Document.items?, Document.IsScalar, hnone]
  | int i =>
    by_cases hi : i = 0 <;>
      simp [Document.isEmpty, Document.items?, Document.IsScalar, hi, hnone]
  | float x =>
    cases hx : x == 0.0 <;>
      simp [Document.isEmpty, Document.items?, Document.IsScalar, hx, hnone]

theorem decodeItems_failsOnly_iff {α : Type} {f : Document → Except DecodeFault α}
    (hnone : ¬P .noItems) (hf : ∀ x, FailsOnly P (f x)) :
    FailsOnly P (decodeItems f d) ↔ ¬d.IsScalar := by
  rw [decodeItems, failsOnly_bind, itemsOf_failsOnly_iff hnone]
  exact and_iff_left fun items _ => failsOnly_mapM hf items

section

variable (hP : ∀ part shown, P (.malformed part shown))
include hP

theorem malformed_failsOnly {α : Type} (part : Part) (d : Document) :
    FailsOnly P (malformed part d : Except DecodeFault α) :=
  hP part d.display

theorem decodeType_failsOnly (d : Document) : FailsOnly P (decodeType d) := by
  unfold decodeType
  split
  · exact failsOnly_ok
  · exact malformed_failsOnly hP .reference d

theorem decodeVariable_failsOnly (d : Document) : FailsOnly P (decodeVariable d) := by
  unfold decodeVariable
  split
  · exact failsOnly_bind.mpr ⟨decodeType_failsOnly hP _, fun _ _ => failsOnly_ok⟩
  · exact malformed_failsOnly hP .variable d

theorem decodeVariables_failsOnly (d : Document) : FailsOnly P (decodeVariables d) := by
  unfold decodeVariables
  split
  · exact failsOnly_ok
  · exact failsOnly_mapM (decodeVariable_failsOnly hP) _
  · exact malformed_failsOnly hP .tuple d

theorem decodeMethod_failsOnly (d : Document) : FailsOnly P (decodeMethod d) := by
  unfold decodeMethod
  split
  · exact malformed_failsOnly hP .method d
  · exact failsOnly_bind.mpr ⟨decodeVariables_failsOnly hP _, fun _ _ =>
      failsOnly_bind.mpr ⟨decodeVariables_failsOnly hP _, fun _ _ => failsOnly_ok⟩⟩

theorem decodeField_failsOnly (d : Document) : FailsOnly P (decodeField d) := by
  unfold decodeField
  split
  · exact malformed_failsOnly hP .field d
  · exact failsOnly_bind.mpr ⟨decodeType_failsOnly hP _, fun _ _ => failsOnly_ok⟩

theorem decodeImport_failsOnly (d : Document) : FailsOnly P (decodeImport d) := by
  unfold decodeImport
  split
  · exact failsOnly_ok
  · exact malformed_failsOnly hP .importEntry d

end

/-! ## Whole declarations -/

/-- The lists of a definition are no scalars. -/
structure DefinitionHasLists (d : Document) : Prop where
  methods : d.member? "kind" = some (.text "interface") → ¬(memberOf "methods" d).IsScalar
  fields : d.member? "kind" = some (.text "struct") → ¬(memberOf "fields" d).IsScalar

theorem decodeDefinition_failsOnly_iff (hnone : ¬P .noItems)
    (hP : ∀ part shown, P (.malformed part shown)) :
    FailsOnly P (decodeDefinition d) ↔ DefinitionHasLists d := by
  by_cases hinterface : d.member? "kind" = some (.text "interface")
  · have hne : d.member? "kind" ≠ some (.text "struct") := fun hstruct =>
      absurd (Document.text.inj (Option.some.inj (hinterface.symm.trans hstruct))) (by decide)
    rw [decodeDefinition_interface hinterface, failsOnly_map,
      decodeItems_failsOnly_iff hnone (decodeMethod_failsOnly hP)]
    exact ⟨fun h => ⟨fun _ => h, fun hs => absurd hs hne⟩, fun h => h.methods hinterface⟩
  by_cases hstruct : d.member? "kind" = some (.text "struct")
  · rw [decodeDefinition_struct hstruct, failsOnly_map,
      decodeItems_failsOnly_iff hnone (decodeField_failsOnly hP)]
    exact ⟨fun h => ⟨fun hi => absurd hi hinterface, fun _ => h⟩, fun h => h.fields hstruct⟩
  -- Of any other definition no list is decoded.
  refine iff_of_true ?_ ⟨fun h => absurd h hinterface, fun h => absurd h hstruct⟩
  by_cases hkind : ∃ kind, d.member? "kind" = some (.text kind)
  · obtain ⟨kind, hkind⟩ := hkind
    rw [hkind] at hinterface hstruct
    rw [decodeDefinition_other hkind (fun h => hinterface (h ▸ rfl)) fun h => hstruct (h ▸ rfl)]
    exact failsOnly_ok
  · rw [decodeDefinition_malformed fun kind h => hkind ⟨kind, h⟩]
    exact malformed_failsOnly hP .type d

/-- The lists of a declaration that decoding comes to are no scalars : it comes to the imports when
there is a package, and to the definition when all imports are decoded. -/
structure HasLists (d : Document) : Prop where
  imports : (memberOf "package" d).isObject → ¬(memberOf "imports" d).IsScalar
  definition : ∀ imports, (memberOf "package" d).isObject →
    decodeItems decodeImport (memberOf "imports" d) = .ok imports →
      DefinitionHasLists (memberOf "type" d)

theorem decode_failsOnly_iff {name : Text} (hnone : ¬P .noItems)
    (hP : ∀ part shown, P (.malformed part shown)) (hpackage : P .noPackage) :
    FailsOnly P (decode name d) ↔ HasLists d := by
  by_cases hobject : (memberOf "package" d).isObject
  · rw [decode_eq hobject, failsOnly_bind,
      decodeItems_failsOnly_iff hnone (decodeImport_failsOnly hP)]
    simp only [failsOnly_bind, decodeDefinition_failsOnly_iff hnone hP]
    exact
      ⟨fun h => ⟨fun _ => h.1, fun imports _ himports => (h.2 imports himports).1⟩, fun h =>
        ⟨h.imports hobject, fun imports himports =>
          ⟨h.definition imports hobject himports, fun _ _ => failsOnly_ok⟩⟩⟩
  · rw [decode_eq_noPackage hobject]
    exact iff_of_true hpackage ⟨fun h => absurd h hobject, fun _ h => absurd h hobject⟩

/-! ## Outputs -/

/-- What it takes to decode an output : the document exceeds no limit of the reader, and, if the type
was found, has no scalars for lists. -/
structure Readable (output : Text) : Prop where
  limits : ∀ fault, Document.read (output.dropWhile (· ≠ '\x7b')) = .error fault →
    ¬fault.cause.IsLimit
  lists : ∀ d, document output = .ok d → d.Sets "found" → HasLists d

end Declaration

namespace Failure

theorem isResolution_ofDecode_malformed (part : Declaration.Part) (shown : Text) :
    (ofDecode (.malformed part shown)).IsResolution := ⟨_, rfl⟩

theorem isResolution_ofDecode_noPackage : (ofDecode .noPackage).IsResolution := ⟨_, rfl⟩

theorem not_isResolution_ofDecode_noItems : ¬(ofDecode .noItems).IsResolution :=
  not_isResolution_crash _

theorem isResolution_ofDecode_malformedDocument_iff {output : Text} {fault : Document.Fault} :
    (ofDecode (.malformedDocument output fault)).IsResolution ↔ ¬fault.cause.IsLimit := by
  obtain ⟨cause, behind⟩ := fault
  cases cause <;> simp [ofDecode, Document.Cause.IsLimit]

theorem document_failsOnly_iff {output : Text} :
    FailsOnly (fun f => (ofDecode f).IsResolution) (Declaration.document output) ↔
      ∀ fault, Document.read (output.dropWhile (· ≠ '\x7b')) = .error fault →
        ¬fault.cause.IsLimit := by
  unfold Declaration.document
  split
  · next hnone =>
    rw [hnone]
    refine iff_of_true ⟨_, rfl⟩ fun fault h => ?_
    cases h
    exact id
  · next hdoc =>
    cases hread : Document.read (output.dropWhile (· ≠ '\x7b')) with
    | ok d => simp
    | error fault => simp [isResolution_ofDecode_malformedDocument_iff]

end Failure

namespace Checker

open Failure (IsResolution)

theorem found_failsOnly_iff {name directory : Text} {d : Document} :
    FailsOnly IsResolution
        (if (Declaration.memberOf "found" d).isEmpty then
          .error (Failure.resolution (.notDeclared name directory))
        else (Declaration.decode name d).mapError Failure.ofDecode) ↔
      (d.Sets "found" → Declaration.HasLists d) := by
  unfold Document.Sets
  cases (Declaration.memberOf "found" d).isEmpty with
  | true => simp
  | false =>
    simp only [Bool.false_eq_true, if_false, forall_const, failsOnly_mapError]
    exact Declaration.decode_failsOnly_iff Failure.not_isResolution_ofDecode_noItems
      Failure.isResolution_ofDecode_malformed Failure.isResolution_ofDecode_noPackage

theorem declaration_failsOnly_iff {name directory : Text} {a : Answer} :
    FailsOnly IsResolution (declaration name directory a) ↔
      (a.code = 0 → Declaration.Readable a.output.decodeLossy) := by
  by_cases hcode : a.code = 0
  · rw [declaration_of_success name hcode, failsOnly_bind, failsOnly_mapError,
      Failure.document_failsOnly_iff]
    simp only [found_failsOnly_iff, mapError_eq_ok_iff, hcode, forall_const]
    exact ⟨fun ⟨hlimits, hlists⟩ => ⟨hlimits, hlists⟩, fun h => ⟨h.limits, h.lists⟩⟩
  · simp only [declaration, ne_eq, hcode, not_false_eq_true, if_true, false_implies, iff_true]
    exact Failure.isResolution_resolution _

variable {settings : Settings} {given name : Text} {h : Host}

theorem answered_failsOnly_iff {c : Call} {answer : Option Answer} :
    FailsOnly IsResolution ((c.answered answer).mapError .crash) ↔
      c.Possible answer.isSome := by
  obtain ⟨hok, hpossible⟩ | ⟨⟨crash, hcrash⟩, hnot⟩ := c.answered_cases answer
  · rw [hok]
    exact iff_of_true trivial hpossible
  · rw [hcrash]
    exact iff_of_false (Failure.not_isResolution_crash crash) hnot

end Checker

end Stencil
