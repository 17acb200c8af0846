import Stencil.Text.Blank

/-!
# Searching a part of a text

A search may be limited to the window between two positions, of which negative ones count from the
end (`window?`). `words` and `splitOn` have forms here that stop after some cuts or begin at the
end.
-/

namespace Stencil.Text

/-- A position in a text of `n` characters; a negative one counts from the end. -/
def fromEnd (n : Nat) (i : Int) : Nat := (if i < 0 then i + n else i).toNat

/-- Where the window between two positions starts, and what it holds; nothing when it ends before it
starts. -/
def window? (start stop : Option Int) (s : Text) : Option (Nat × Text) :=
  let first := (start.map (fromEnd s.length)).getD 0
  let last := min s.length ((stop.map (fromEnd s.length)).getD s.length)
  if first ≤ last then some (first, (s.take last).drop first) else none

/-- The first position of a part in a window. -/
def find? (part : Text) (start stop : Option Int) (s : Text) : Option Nat := do
  let (first, inside) ← window? start stop s
  return first + (← position? part inside)

/-- The last position of a part in a window. -/
def findLast? (part : Text) (start stop : Option Int) (s : Text) : Option Nat := do
  let (first, inside) ← window? start stop s
  return first + (← cutLast? part inside).1.length

/-- The number of times a window has a part. Nothing stands before each character and at the end. -/
def count (part : Text) (start stop : Option Int) (s : Text) : Nat :=
  match window? start stop s with
  | none => 0
  | some (_, inside) => if part.isEmpty then inside.length + 1 else countFrom part 0 inside

/-- Whether a window starts with a text. -/
def startsWith (part : Text) (start stop : Option Int) (s : Text) : Bool :=
  (window? start stop s).any fun w => part.isPrefixOf w.2

/-- Whether a window ends with a text. -/
def endsWith (part : Text) (start stop : Option Int) (s : Text) : Bool :=
  (window? start stop s).any fun w => part.isSuffixOf w.2

/-- The first words of a text, at most `limit` of them, and what is left behind them. -/
def wordsUpTo : Nat → Text → List Text
  | 0, s =>
    let rest := stripStart isBlank s
    if rest.isEmpty then [] else [rest]
  | limit + 1, s =>
    let rest := stripStart isBlank s
    if rest.isEmpty then []
    else rest.takeWhile (!isBlank ·) :: wordsUpTo limit (rest.dropWhile (!isBlank ·))

/-- A way to cut a text, used from its end. -/
def backwards (cut : Text → List Text) (s : Text) : List Text :=
  ((cut s.reverse).map List.reverse).reverse

end Stencil.Text
