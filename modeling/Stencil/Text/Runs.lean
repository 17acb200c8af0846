/-!
# Sets of code points

A set of code points is given by its boundaries in rising order: the first member of each run and
the first code point behind it, in turn. `Runs.contains` reads such a list. A list of odd length
ends in a run without end.
-/

namespace Stencil.Runs

/-- Whether `n` lies in one of the runs. -/
def contains : List Nat → Nat → Bool
  | [], _ => false
  | [first], n => first ≤ n
  | first :: behind :: runs, n =>
    if n < first then false else if n < behind then true else contains runs n

/-- How far `n` lies behind the first member of its run. -/
def offset? : List Nat → Nat → Option Nat
  | first :: behind :: runs, n => if first ≤ n ∧ n < behind then some (n - first) else offset? runs n
  | _, _ => none

theorem contains_cons_cons (first behind : Nat) (runs : List Nat) (n : Nat) :
    contains (first :: behind :: runs) n =
      (decide (first ≤ n) && (decide (n < behind) || contains runs n)) := by
  rw [contains]
  by_cases h : n < first
  · have : ¬ first ≤ n := by omega
    simp [h, this]
  · have h' : first ≤ n := by omega
    by_cases hb : n < behind <;> simp [h, h', hb]

end Stencil.Runs
