import Mathlib.Algebra.Group.Nat.Defs
import Stencil.Text.Basic

/-!
# Hexadecimal digits

`Text.hex` writes a number with a given number of digits and `Text.hexValue?` reads
digits of either case. `hexValue?_hex` : what was written is read back, whatever the
width; `length_hex` : the width is met by every number that fits in it.
-/

namespace Stencil.Text

theorem hexDigit?_digitChar : ∀ d < 16, hexDigit? (Nat.digitChar d) = some d := by
  decide

theorem hexValue?_concat (s : Text) (c : Char) :
    hexValue? (s ++ [c]) = (hexValue? s).bind fun n => (hexDigit? c).map (16 * n + ·) := by
  unfold hexValue?
  rw [List.foldl_append]
  cases List.foldl _ (some 0) s with
  | none => rfl
  | some n => cases hd : hexDigit? c <;> simp [hd]

theorem isSome_hexDigit?_of_hexValue? {s : Text} {n : Nat} (h : hexValue? s = some n) :
    ∀ c ∈ s, (hexDigit? c).isSome := by
  rcases List.eq_nil_or_concat s with rfl | ⟨t, d, rfl⟩
  · simp
  · rw [List.concat_eq_append, hexValue?_concat] at h
    obtain ⟨m, hm, h⟩ := Option.bind_eq_some_iff.mp h
    obtain ⟨x, hx, -⟩ := Option.map_eq_some_iff.mp h
    have ht := isSome_hexDigit?_of_hexValue? hm
    simpa [or_imp, forall_and, hx] using ht
termination_by s.length

theorem lt_of_isSome_hexDigit? {c : Char} (h : (hexDigit? c).isSome) : ' ' < c := by
  unfold hexDigit? at h
  split at h
  · next hc => exact Std.lt_of_lt_of_le (by decide) hc.1
  split at h
  · next hc => exact Std.lt_of_lt_of_le (by decide) hc.1
  split at h
  · next hc => exact Std.lt_of_lt_of_le (by decide) hc.1
  · cases h

theorem hexValue?_concat_digitChar {s : Text} {n d : Nat} (hs : hexValue? s = some n)
    (hd : d < 16) : hexValue? (s ++ [Nat.digitChar d]) = some (16 * n + d) := by
  simp [hexValue?_concat, hs, hexDigit?_digitChar d hd]

theorem hexValue?_toDigits (n : Nat) : hexValue? (Nat.toDigits 16 n) = some n := by
  induction n using Nat.strongRecOn with
  | _ n ih =>
    rcases Nat.lt_or_ge n 16 with h | h
    · rw [Nat.toDigits_of_lt_base h]
      simpa using hexValue?_concat_digitChar (s := []) rfl h
    · rw [Nat.toDigits_of_base_le (by decide) h,
        hexValue?_concat_digitChar (ih (n / 16) (by omega)) (Nat.mod_lt n (by decide))]
      simp [Nat.div_add_mod]

theorem hexValue?_replicate_append (s : Text) :
    ∀ k, hexValue? (List.replicate k '0' ++ s) = hexValue? s
  | 0 => rfl
  | k + 1 => hexValue?_replicate_append s k

/-- The digits of a number are read as the number. -/
theorem hexValue?_hex (width n : Nat) : hexValue? (hex width n) = some n := by
  rw [hex, hexValue?_replicate_append, hexValue?_toDigits]

/-- A number that fits in a width is written with as many digits. -/
theorem length_hex {width n : Nat} (hw : 0 < width) (h : n < 16 ^ width) :
    (hex width n).length = width := by
  have := (Nat.length_toDigits_le_iff (b := 16) (by decide) hw).mpr h
  simp only [hex, List.length_append, List.length_replicate]
  omega

end Stencil.Text
