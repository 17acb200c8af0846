import Stencil.Text.Printable

/-!
# Text as messages show it

Messages show a text between quotes, with what cannot be printed escaped. The quotes are single
ones, unless the text has single quotes and no double ones.
-/

namespace Stencil.Display

/-- One character between `quote` marks. -/
def char (quote c : Char) : Text :=
  if c = quote ∨ c = '\\' then ['\\', c]
  else if c = '\n' then "\\n"
  else if c = '\r' then "\\r"
  else if c = '\t' then "\\t"
  else if Text.isPrintable c.toNat then [c]
  else if c.toNat < 0x100 then "\\x" ++ Text.hex 2 c.toNat
  else if c.toNat < 0x10000 then "\\u" ++ Text.hex 4 c.toNat
  else "\\U" ++ Text.hex 8 c.toNat

/-- The mark that is put around a text. -/
def mark (s : Text) : Char := if s.contains '\x27' ∧ ¬ s.contains '"' then '"' else '\x27'

/-- A text between its marks. -/
def text (s : Text) : Text := mark s :: s.flatMap (char (mark s)) ++ [mark s]

end Stencil.Display
