import Stencil.Proofs.Outcome
import Stencil.Proofs.Text.Blank
import Stencil.Source.Module

/-!
# When a source directory is found

A line of a module file declares a path as soon as it begins with `module` and a space, as there is
always a second word then (`declared?_isSome_iff`). So the text of the file never stands in the way,
but a path can, and a module file that is no file or no text (`Accessible`).

`find_failsOnly_iff` : looking for the source directory fails with errors of resolution only exactly
when it is accessible.
-/

namespace Stencil

/-! ## Errors of resolution -/

namespace Failure

/-- An error of resolution. -/
def IsResolution (e : Failure) : Prop := ∃ f, e = resolution f

@[simp] theorem isResolution_resolution (f : ResolutionFault) : (resolution f).IsResolution :=
  ⟨f, rfl⟩

@[simp] theorem not_isResolution_crash (c : Crash) : ¬(crash c).IsResolution :=
  fun ⟨_, h⟩ => nomatch h

@[simp] theorem not_isResolution_ofFile (f : FileFault) : ¬(ofFile f).IsResolution := by
  cases f <;> exact not_isResolution_crash _

end Failure

/-! ## Lines of a module file -/

namespace SourceDirectory

theorem words_module (rest : Text) :
    Text.words ("module ".toList ++ rest) = "module".toList :: Text.words rest := rfl

/-- A line that begins with `module` and a space has a second word. -/
theorem declared?_isSome_iff {line : Text} :
    (declared? line).isSome ↔ "module ".toList <+: Text.strip Text.isBlank line := by
  simp only [declared?, List.isPrefixOf_iff_prefix]
  split
  · next hmodule =>
    refine iff_of_true ?_ hmodule
    obtain ⟨rest, hrest⟩ := hmodule
    obtain ⟨c, hc, hblank⟩ : ∃ c ∈ ' ' :: rest, Text.isBlank c = false :=
      Text.stripEnd_append_cons (t := "module".toList) hrest.symm
    have hwords : Text.words rest ≠ [] := by
      intro hnil
      have hrest := (Text.wordsFrom_eq_nil_iff.mp hnil).2
      rcases List.mem_cons.mp hc with rfl | hc
      · exact absurd hblank (by decide)
      · simp [hrest c hc] at hblank
    obtain ⟨path, others, hpath⟩ := List.exists_cons_of_ne_nil hwords
    rw [← hrest, words_module, hpath]
    rfl
  · next hmodule => exact iff_of_false Bool.false_ne_true hmodule

end SourceDirectory

/-! ## Files -/

namespace FileTree

variable {t : FileTree} {current l : Location} {p : Path}

/-- Only a path that is too long keeps the search from an answer. -/
theorem find?_eq_error_iff {f : FileFault} :
    t.find? current p = .error f ↔ f = .nameTooLong ∧ t.locate current p = .error .nameTooLong := by
  unfold find?
  cases t.locate current p with
  | ok l => simp only [reduceCtorEq, and_false]
  | error g => cases g <;> simp [eq_comm]

theorem find?_eq_some_iff :
    t.find? current p = .ok (some l) ↔ t.locate current p = .ok l ∧ (t.entry? l).isSome := by
  unfold find?
  split
  · next l' hl' =>
    rw [hl', Except.ok.injEq, Except.ok.injEq]
    constructor
    · intro h
      split at h
      · next hsome => exact ⟨Option.some.inj h, Option.some.inj h ▸ hsome⟩
      · cases h
    · rintro ⟨rfl, hsome⟩
      rw [if_pos hsome]
  · simp_all
  · simp_all

theorem read_of_locate (h : t.locate current p = .ok l) :
    t.read current p =
      match t.entry? l with
      | none => .error .notFound
      | some .directory => .error .isDirectory
      | some (.file content) => .ok content := by
  rw [read, h]
  rfl

/-- What is found can be read, unless it is a directory. -/
theorem read_of_find? (h : t.find? current p = .ok (some l)) :
    t.entry? l = some .directory ∧ t.read current p = .error .isDirectory ∨
      ∃ content, t.entry? l = some (.file content) ∧ t.read current p = .ok content := by
  obtain ⟨hl, hsome⟩ := find?_eq_some_iff.mp h
  obtain ⟨entry, hentry⟩ := Option.isSome_iff_exists.mp hsome
  have hread := read_of_locate hl
  rw [hentry] at hread
  cases entry with
  | directory => exact .inl ⟨hentry, hread⟩
  | file content => exact .inr ⟨content, hentry, hread⟩

end FileTree

/-! ## Source directories -/

namespace SourceDirectory

open Failure (IsResolution)

variable {h : Host} {given : Text}

/-- What it takes to read the module file of a root : a path that is not too long, and text in the
file, if there is one. -/
structure ModuleFileAccessible (h : Host) (root : Path) : Prop where
  path : h.tree.find? h.current (root.child moduleFile) ≠ .error .nameTooLong
  text : ∀ l, h.tree.find? h.current (root.child moduleFile) = .ok (some l) →
    ∃ content text, h.tree.entry? l = some (.file content) ∧ content.decode? = some text

theorem moduleFileAccessible_iff {root : Path} {l : Location}
    (hfind : h.tree.find? h.current (root.child moduleFile) = .ok (some l)) :
    ModuleFileAccessible h root ↔
      ∃ content text, h.tree.entry? l = some (.file content) ∧ content.decode? = some text :=
  ⟨fun hfile => hfile.text l hfind, fun htext =>
    { path := by simp [hfind]
      text := fun l' hl' => by
        obtain rfl : l = l' := by simpa [hfind] using hl'
        exact htext }⟩

theorem readModulePath_failsOnly_iff (h : Host) (root : Path) :
    FailsOnly IsResolution (readModulePath h root) ↔ ModuleFileAccessible h root := by
  unfold readModulePath
  dsimp only
  split
  · next f hfind =>
    obtain rfl := (FileTree.find?_eq_error_iff.mp hfind).1
    exact iff_of_false (Failure.not_isResolution_ofFile _) fun hfile => hfile.path hfind
  · next hfind => exact iff_of_true ⟨_, rfl⟩ ⟨by simp [hfind], by simp [hfind]⟩
  next l hfind =>
  rw [moduleFileAccessible_iff hfind, Host.read]
  rcases FileTree.read_of_find? hfind with ⟨hentry, hread⟩ | ⟨content, hentry, hread⟩
  · simp [hentry, hread]
  · cases hdecode : content.decode? with
    | none => simp [hentry, hread, hdecode]
    | some text => cases hpath : modulePath? text <;> simp [hentry, hread, hdecode, hpath]

/-- What it takes to look for a source directory : a path that is not too long and, if it leads to a
directory, no path that is too long for a module file in it, and if there is a module, a module file
that can be read. -/
structure Accessible (h : Host) (given : Text) : Prop where
  path : h.tree.find? h.current (Path.ofText given) ≠ .error .nameTooLong
  start : ∀ l, h.tree.find? h.current (Path.ofText given) = .ok (some l) → h.tree.isDirectory l →
    ((Path.ofLocation l).child moduleFile).isTooLong = false
  moduleFile : ∀ l root, h.tree.find? h.current (Path.ofText given) = .ok (some l) →
    h.tree.isDirectory l → moduleRoot? h.tree l = some root →
      ModuleFileAccessible h (Path.ofLocation root)

theorem accessible_iff {l : Location}
    (hfind : h.tree.find? h.current (Path.ofText given) = .ok (some l)) :
    Accessible h given ↔ (h.tree.isDirectory l →
      ((Path.ofLocation l).child SourceDirectory.moduleFile).isTooLong = false) ∧
        ∀ root, h.tree.isDirectory l → moduleRoot? h.tree l = some root →
          ModuleFileAccessible h (Path.ofLocation root) := by
  have heq {l' : Location} (hl' : h.tree.find? h.current (Path.ofText given) = .ok (some l')) :
      l = l' := by simpa [hfind] using hl'
  constructor
  · exact fun hgiven => ⟨hgiven.start l hfind, fun root => hgiven.moduleFile l root hfind⟩
  · rintro ⟨hstart, hfile⟩
    refine ⟨by simp [hfind], fun l' hl' => ?_, fun l' root hl' => ?_⟩
    · obtain rfl := heq hl'
      exact hstart
    · obtain rfl := heq hl'
      exact hfile root

/-- Looking for a source directory fails with errors of resolution only exactly when it is
accessible. -/
theorem find_failsOnly_iff : FailsOnly IsResolution (find h given) ↔ Accessible h given := by
  unfold find
  split
  · next f hfind =>
    obtain rfl := (FileTree.find?_eq_error_iff.mp hfind).1
    exact iff_of_false (Failure.not_isResolution_ofFile _) fun hgiven => hgiven.path hfind
  · next hfind => exact iff_of_true ⟨_, rfl⟩ ⟨by simp [hfind], by simp [hfind], by simp [hfind]⟩
  next l hfind =>
  rw [accessible_iff hfind]
  by_cases hdirectory : h.tree.isDirectory l
  · cases hlong : ((Path.ofLocation l).child moduleFile).isTooLong with
    | true => simp [hdirectory]
    | false =>
      cases hroot : moduleRoot? h.tree l with
      | none => simp [hdirectory]
      | some root =>
        have hmodule := readModulePath_failsOnly_iff h (Path.ofLocation root)
        simp only [hdirectory, if_true, Bool.false_eq_true, if_false, Option.some.injEq,
          forall_const, forall_eq', true_and, ← hmodule]
        cases readModulePath h (Path.ofLocation root) <;> exact Iff.rfl
  · simp [hdirectory]

end SourceDirectory

end Stencil
