import Stencil.Text.Basic

/-!
# White space and lines

`isBlank` is the white space of Unicode together with the four information separators.
`strip`, `words` and `lines` cut text at it. Reading a text file turns every line end into one
line feed (`unifyLineEnds`).
-/

namespace Stencil.Text

/-- White space. -/
def isBlank (c : Char) : Bool :=
  let n := c.toNat
  if n < 0x80 then (9 ≤ n && n ≤ 13) || (0x1c ≤ n && n ≤ 0x20)
  else n == 0x85 || n == 0xa0 || n == 0x1680 || (0x2000 ≤ n && n ≤ 0x200a)
    || n == 0x2028 || n == 0x2029 || n == 0x202f || n == 0x205f || n == 0x3000

/-- A character that ends a line. A carriage return together with a line feed behind it ends one
line (`lines`). -/
def isLineEnd (c : Char) : Bool :=
  let n := c.toNat
  (10 ≤ n && n ≤ 13) || (0x1c ≤ n && n ≤ 0x1e) || n == 0x85 || n == 0x2028 || n == 0x2029

/-- `s` without the leading characters of the class. -/
def stripStart (drop : Char → Bool) (s : Text) : Text := s.dropWhile drop

/-- `s` without the trailing characters of the class. -/
def stripEnd (drop : Char → Bool) (s : Text) : Text := (s.reverse.dropWhile drop).reverse

/-- `s` without the leading and the trailing characters of the class. -/
def strip (drop : Char → Bool) (s : Text) : Text := stripEnd drop (stripStart drop s)

/-- The words of `s`: its longest parts without white space. `done` is the current word, last
character first. -/
def wordsFrom : Text → Text → List Text
  | done, [] => if done.isEmpty then [] else [done.reverse]
  | done, c :: s =>
    if isBlank c then
      if done.isEmpty then wordsFrom [] s else done.reverse :: wordsFrom [] s
    else wordsFrom (c :: done) s

/-- The words of `s`: its longest parts without white space. -/
def words (s : Text) : List Text := wordsFrom [] s

/-- The lines of `s`, with their line ends when `keep` is set. `done` is the current line, last
character first. -/
def linesFrom (keep : Bool) : Text → Text → List Text
  | done, [] => if done.isEmpty then [] else [done.reverse]
  | done, '\r' :: '\n' :: s =>
    (if keep then done.reverse ++ ['\r', '\n'] else done.reverse) :: linesFrom keep [] s
  | done, c :: s =>
    if isLineEnd c then
      (if keep then done.reverse ++ [c] else done.reverse) :: linesFrom keep [] s
    else linesFrom keep (c :: done) s

/-- The lines of `s`, without their ends. A last line that is empty is no line. -/
def lines (s : Text) : List Text := linesFrom false [] s

/-- Every carriage return, with a line feed behind it or not, as one line feed. -/
def unifyLineEnds : Text → Text
  | [] => []
  | '\r' :: '\n' :: s => '\n' :: unifyLineEnds s
  | c :: s => (if c = '\r' then '\n' else c) :: unifyLineEnds s

end Stencil.Text
