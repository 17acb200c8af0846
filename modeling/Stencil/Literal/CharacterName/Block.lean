import Stencil.Text.Basic

/-!
# Blocks of named characters

The names of neighbouring characters often begin alike. A block gives the common beginning once, and
the ends of the names in the order of the characters, in rows with semicolons between them; a
character without a name of this kind has an empty end.
-/

namespace Stencil.CharacterName

/-- Names of neighbouring characters, from the code point `first` on. -/
structure Block where
  first : Nat
  start : String
  ends : List String

/-- The code point of the character with a name, if it is in the block. -/
def Block.find? (b : Block) (name : Text) : Option Nat := do
  let rest ← Text.after? b.start.toList name
  if rest.isEmpty then none
  else
    let ends := b.ends.flatMap fun row => Text.splitOn [';'] none row.toList
    return b.first + (← ends.idxOf? rest)

/-- The code point of the character with a name, if it is in one of the blocks. -/
def findIn (blocks : List Block) (name : Text) : Option Nat :=
  blocks.findSome? fun b => b.find? name

end Stencil.CharacterName
