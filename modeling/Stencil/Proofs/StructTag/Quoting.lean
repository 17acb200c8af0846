import Stencil.Proofs.Literal.Agreement
import Stencil.Proofs.Literal.Quoting
import Stencil.Proofs.StructTag.Scan

/-!
# Tags of quoted values

A tag is written pair by pair, each value as the literal that `GoString.ofText` gives it.
`lookup_written` : looking up a name gives back the first value that was written under it.
-/

namespace Stencil

namespace GoString

theorem literal?_body (s : Text) : Escape.literal? (body s) = some s := by
  rw [literal?_of_reads (reads_body s), if_neg]
  exact not_or.mpr ⟨not_mem_body (.inl rfl) s, not_mem_body (.inr rfl) s⟩

end GoString

namespace StructTag

theorem isBody_of_forall {s : Text} (h : ∀ c ∈ s, c ≠ '"' ∧ c ≠ '\\') : IsBody s := by
  induction s with
  | nil => exact .nil
  | cons c s ih =>
    obtain ⟨hc, hs⟩ := List.forall_mem_cons.mp h
    exact .char hc.1 hc.2 (ih hs)

theorem isBody_of_reads {body v : Text} (h : GoString.Reads body v) : IsBody body := by
  induction h with
  | nil => exact .nil
  | char hq hb _ _ ih => exact .char hq hb ih
  | escape hp _ ih =>
    obtain ⟨l, digits, rfl, -, hdigits⟩ := GoString.exists_of_escaped hp
    refine .escape l (IsBody.append (isBody_of_forall fun c hc => ?_) ih)
    constructor <;> rintro rfl <;> exact absurd (hdigits _ hc) (by decide)

/-- A pair to be written : spaces, a name, and the text that its literal stands for. -/
structure Pair where
  spaces : Nat
  name : Text
  isName : IsName name
  value : Text

/-- The pair as it stands in a tag, its value quoted. -/
def Pair.text (p : Pair) : Text :=
  List.replicate p.spaces ' ' ++ p.name ++ ':' :: GoString.ofText p.value

theorem Pair.text_eq (p : Pair) : p.text = pairText p.spaces p.name (GoString.body p.value) := by
  rw [Pair.text, GoString.ofText_eq, pairText, List.append_assoc]

/-- The scan finds every pair that was written. -/
theorem pairs_written : ∀ ps : List Pair,
    pairs (ps.flatMap Pair.text) = ps.map fun p => (p.name, GoString.body p.value)
  | [] => rfl
  | p :: ps => by
    rw [List.flatMap_cons, p.text_eq,
      pairs_append p.isName (isBody_of_reads (GoString.reads_body p.value)), pairs_written ps,
      List.map_cons]

/-- Looking up a name gives the first value that was written under it, and nothing if
there is none. -/
theorem lookup_written (ps : List Pair) (key : Text) :
    lookup (ps.flatMap Pair.text) key = ((ps.find? (·.name = key)).map Pair.value).getD [] := by
  rw [lookup, pairs_written]
  induction ps with
  | nil => rfl
  | cons p ps ih =>
    rw [List.map_cons, List.lookup_cons, List.find?_cons]
    by_cases hp : p.name = key
    · simp [hp, GoString.literal?_body]
    · rw [beq_false_of_ne (Ne.symm hp)]
      simpa [hp] using ih

/-- Of three pairs, with spaces before two of them, two have one name. The first value under it has
a quote, a backslash and the end of a line. -/
theorem lookup_written_twice :
    let ps : List Pair :=
      [⟨0, "json", by decide, "name,omitempty"⟩, ⟨2, "alias", by decide, "a\"b\\\n"⟩,
        ⟨1, "alias", by decide, "second"⟩]
    ps.flatMap Pair.text =
        "json:\"name,omitempty\"  alias:\"a\\\"b\\\\\\n\" alias:\"second\"".toList ∧
      lookup (ps.flatMap Pair.text) "alias" = "a\"b\\\n" ∧
      lookup (ps.flatMap Pair.text) "xml" = [] := by
  intro ps
  refine ⟨by decide +kernel, ?_, ?_⟩
  · exact (lookup_written ps "alias").trans (by decide +kernel)
  · exact (lookup_written ps "xml").trans (by decide +kernel)

end StructTag

end Stencil
