import Mathlib.Data.List.Forall2
import Stencil.Proofs.StructTag.Quoting

/-!
# Safety of quoting

A literal is safe to put into a program : it has printable characters only, the quotes inside of
it are escaped, and it stands for what was quoted, with U+FFFD for each half of a surrogate pair
(`quote_safe`). Only such halves are lost, so quoting tells any two texts apart.
-/

namespace Stencil.GoString

open StructTag (IsBody isBody_of_reads)

theorem forall₂_spells : ∀ s : List CodePoint,
    List.Forall₂ Spells (s.map quoteRune) (s.map runeOf)
  | [] => .nil
  | c :: s => .cons (spells_quoteRune c) (forall₂_spells s)

theorem isPrintable_of_mem_quote {s : List CodePoint} {d : Char} (h : d ∈ quote s) :
    Text.isPrintable d.toNat = true := by
  have hmark : Text.isPrintable '"'.toNat = true := by decide
  rw [quote, List.cons_append, List.mem_cons, List.mem_append, List.mem_singleton,
    List.mem_flatMap] at h
  rcases h with rfl | ⟨c, -, hc⟩ | rfl
  · exact hmark
  · exact (spells_quoteRune c).isPrintable d hc
  · exact hmark

theorem unquote?_quote (s : List CodePoint) : unquote? (quote s) = some (s.map runeOf) :=
  unquote?_eq_some_iff.mpr (reads_flatMap_quoteRune s)

/-- A code point that is no half of a surrogate pair is that of its character. -/
theorem ofChar_runeOf {c : CodePoint} (hs : isSurrogate c.val = false) :
    CodePoint.ofChar (runeOf c) = c := by
  have hval : (runeOf c).toNat = c.val := toNat_of_rune? (rune?_val hs)
  apply Fin.ext
  rw [CodePoint.ofChar, Fin.val_ofNat, hval, Nat.mod_eq_of_lt c.isLt]

theorem map_ofChar_map_runeOf {s : List CodePoint} (hs : ∀ c ∈ s, isSurrogate c.val = false) :
    (s.map runeOf).map CodePoint.ofChar = s := by
  have hid : ∀ c ∈ s, (CodePoint.ofChar ∘ runeOf) c = id c := fun c hc => ofChar_runeOf (hs c hc)
  rw [List.map_map, List.map_congr_left hid, List.map_id]

theorem quote_inj {s t : List CodePoint} (hs : ∀ c ∈ s, isSurrogate c.val = false)
    (ht : ∀ c ∈ t, isSurrogate c.val = false) (h : quote s = quote t) : s = t := by
  have hmap : s.map runeOf = t.map runeOf := by
    have := congrArg unquote? h
    rwa [unquote?_quote, unquote?_quote, Option.some.injEq] at this
  rw [← map_ofChar_map_runeOf hs, hmap, map_ofChar_map_runeOf ht]

/-- The literal of any sequence of code points is printable, has no quote outside of an escape
between its own two, and stands for the sequence, with U+FFFD for each half of a surrogate pair.
Sequences without such halves have different literals. -/
theorem quote_safe (s : List CodePoint) :
    (∀ d ∈ quote s, Text.isPrintable d.toNat = true) ∧
      (∃ pieces, List.Forall₂ Spells pieces (s.map runeOf) ∧ IsBody pieces.flatten ∧
        quote s = '"' :: (pieces.flatten ++ ['"'])) ∧
      unquote? (quote s) = some (s.map runeOf) ∧
      ∀ t, (∀ c ∈ s, isSurrogate c.val = false) → (∀ c ∈ t, isSurrogate c.val = false) →
        quote s = quote t → s = t := by
  refine ⟨fun d hd => isPrintable_of_mem_quote hd, ?_, unquote?_quote s, fun t => quote_inj⟩
  have hflat : (s.map quoteRune).flatten = s.flatMap quoteRune := List.flatMap_def.symm
  refine ⟨s.map quoteRune, forall₂_spells s, ?_, ?_⟩
  · rw [hflat]
    exact isBody_of_reads (reads_flatMap_quoteRune s)
  · rw [hflat]
    rfl

end Stencil.GoString
