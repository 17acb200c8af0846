import Stencil.Description.Extract
import Stencil.Proofs.Outcome

/-!
# When a description is extracted

One lemma for each part of a declaration says exactly when it is described, and how. Of the
variables of a tuple at most the last one is variadic (`variadic_of_extractVars`).
-/

namespace Stencil.Description

open Declaration (TypeRef Variable)

/-! ## Types and variables -/

theorem extractType_eq_ok_iff {r : TypeRef} {t : GoType} :
    extractType r = .ok t ↔
      r.full ≠ [] ∧ t = GoType.of r.full (r.kind = "pointer".toList) r.short := by
  unfold extractType
  split
  · next hfull => simp [List.isEmpty_iff.mp hfull]
  · next hfull =>
    have hne : r.full ≠ [] := fun h => hfull (List.isEmpty_iff.mpr h)
    simp only [Except.ok.injEq, ne_eq, hne, not_false_eq_true, true_and, eq_comm]

theorem shortName_of_ne_nil {name short : Text} {isPointer : Bool} (h : name ≠ []) :
    (GoType.of name isPointer short).shortName ≠ [] := by
  unfold GoType.of
  split
  · exact h
  · next hshort => exact fun hnil => hshort (List.isEmpty_iff.mpr hnil)

theorem extractVars_cons_eq_ok_iff {variadic : Bool} {v : Variable} {vs : List Variable}
    {ws : List Var} :
    extractVars variadic (v :: vs) = .ok ws ↔
      ∃ t others, extractType v.type = .ok t ∧ extractVars variadic vs = .ok others ∧
        ⟨v.name, t, variadic && vs.isEmpty⟩ :: others = ws := by
  simp only [extractVars, bind_eq_ok_iff, pure_eq_ok_iff, exists_and_left]

theorem forall₂_of_extractVars {variadic : Bool} :
    ∀ {vs : List Variable} {ws : List Var}, extractVars variadic vs = .ok ws →
      List.Forall₂ (fun v w => w.name = v.name ∧ extractType v.type = .ok w.type) vs ws
  | [], ws, h => by
    obtain rfl := Except.ok.inj h
    exact .nil
  | v :: vs, ws, h => by
    obtain ⟨t, others, ht, hothers, rfl⟩ := extractVars_cons_eq_ok_iff.mp h
    exact .cons ⟨rfl, ht⟩ (forall₂_of_extractVars hothers)

/-- The last variable is variadic if the tuple is, and no other one. -/
theorem variadic_of_extractVars {variadic : Bool} :
    ∀ {vs : List Variable} {ws : List Var}, extractVars variadic vs = .ok ws →
      ∀ i (hi : i < ws.length), ws[i].variadic = (variadic && decide (i + 1 = ws.length))
  | [], ws, h => by
    obtain rfl := Except.ok.inj h
    simp
  | v :: vs, ws, h => by
    obtain ⟨t, others, -, hothers, rfl⟩ := extractVars_cons_eq_ok_iff.mp h
    have hlength : vs.length = others.length := (forall₂_of_extractVars hothers).length_eq
    rintro (_ | i) hi
    · cases vs <;> cases others <;> simp_all
    · simpa using variadic_of_extractVars hothers i (by simpa using hi)

/-! ## Methods, fields and whole descriptions -/

theorem extractMethod_eq_ok_iff {m : Declaration.Method} {name : Text} {params results : List Var}
    {variadic : Bool} :
    extractMethod m = .ok ⟨name, params, results, variadic⟩ ↔
      m.name = name ∧ extractVars m.variadic m.params = .ok params ∧
        extractVars false m.results = .ok results ∧ m.variadic = variadic := by
  simp only [extractMethod, bind_eq_ok_iff, pure_eq_ok_iff, Method.mk.injEq]
  constructor
  · rintro ⟨_, hparams, _, hresults, hname, rfl, rfl, hvariadic⟩
    exact ⟨hname, hparams, hresults, hvariadic⟩
  · rintro ⟨hname, hparams, hresults, hvariadic⟩
    exact ⟨_, hparams, _, hresults, hname, rfl, rfl, hvariadic⟩

theorem extractField_eq_ok_iff {key : Text} {f : Declaration.Field} {name : Text} {type : GoType}
    {tags : List (Text × Text)} {embedded : Bool} :
    extractField key f = .ok ⟨name, type, tags, embedded⟩ ↔
      f.name = name ∧ extractType f.type = .ok type ∧ StructTag.entries f.tag key = .ok tags ∧
        f.embedded = embedded := by
  unfold extractField
  split
  · next hentries => simp only [hentries, reduceCtorEq, false_and, and_false]
  · next hentries =>
    simp only [hentries, bind_eq_ok_iff, pure_eq_ok_iff, Field.mk.injEq, Except.ok.injEq]
    constructor
    · rintro ⟨_, htype, hname, rfl, htags, hembedded⟩
      exact ⟨hname, htype, htags, hembedded⟩
    · rintro ⟨hname, htype, htags, hembedded⟩
      exact ⟨_, htype, hname, rfl, htags, hembedded⟩

theorem extract_some_eq_ok_iff {key name : Text} {decl : Declaration} {d : Description} :
    extract key name (some decl) = .ok d ↔
      d.name = name ∧ d.package = some ⟨decl.packagePath, decl.packageName⟩ ∧
        d.imports = decl.imports.map (fun i => ⟨i.path, i.name⟩) ∧
          extractShape key decl.type = .ok d.shape := by
  simp only [extract, bind_eq_ok_iff, pure_eq_ok_iff]
  constructor
  · rintro ⟨shape, hshape, rfl⟩
    exact ⟨rfl, rfl, rfl, hshape⟩
  · rintro ⟨hname, hpackage, himports, hshape⟩
    exact ⟨d.shape, hshape, by rw [← hname, ← hpackage, ← himports]⟩

end Stencil.Description
