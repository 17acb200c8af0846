import Stencil.Text.Printable

/-!
# Printable code points

A set of runs tells two numbers apart only if a boundary lies between them
(`Runs.contains_congr`), so one look at the table settles a whole range :
no half of a surrogate pair is printable.
-/

namespace Stencil

theorem Runs.contains_congr {m n : Nat} :
    ∀ {runs : List Nat}, (∀ b ∈ runs, b ≤ m ↔ b ≤ n) → contains runs m = contains runs n
  | [], _ => rfl
  | [first], h => by simp [contains, h first (by simp)]
  | first :: behind :: runs, h => by
    have hfirst := h first (by simp)
    have hbehind : m < behind ↔ n < behind := by
      have := h behind (by simp)
      omega
    rw [contains_cons_cons, contains_cons_cons, contains_congr fun b hb => h b (by simp [hb])]
    simp only [hfirst, hbehind]

namespace Text

theorem isPrintable_of_between {a b c : Char} (ha : a ≤ c) (hb : c ≤ b) (low : 0x20 ≤ a.toNat)
    (high : b.toNat < 0x7f) : isPrintable c.toNat = true :=
  isPrintable_of_ascii (Nat.le_trans low ha) (Nat.lt_of_le_of_lt hb high)

theorem printableRuns_gap : ∀ b ∈ printableRuns, b ≤ 0xd800 ∨ 0xdfff < b := by
  decide +kernel

theorem isPrintable_of_surrogate {n : Nat} (low : 0xd800 ≤ n) (high : n ≤ 0xdfff) :
    isPrintable n = false := by
  have hgap : ∀ b ∈ printableRuns, b ≤ n ↔ b ≤ 0xd800 := by
    intro b hb
    have := printableRuns_gap b hb
    omega
  rw [isPrintable, if_neg (by omega), Runs.contains_congr hgap]
  decide +kernel

end Text

end Stencil
