import Stencil.Text.Printable

/-!
# Interpreted string literals of Go

`quote` writes any sequence of code points as a double-quoted literal in printable characters, and
`unquote?` reads one by the rules of the language. Half of a surrogate pair has no literal of its
own and is written as U+FFFD.
-/

namespace Stencil.GoString

/-- The letter of the short escape for a code point. -/
def shortEscape? (n : Nat) : Option Char :=
  match n with
  | 7 => some 'a'
  | 8 => some 'b'
  | 9 => some 't'
  | 10 => some 'n'
  | 11 => some 'v'
  | 12 => some 'f'
  | 13 => some 'r'
  | 34 => some '"'
  | 92 => some '\\'
  | _ => none

/-- Whether a code point is half of a surrogate pair. -/
def isSurrogate (n : Nat) : Bool := 0xd800 ≤ n && n ≤ 0xdfff

/-- One code point inside a literal: a short escape if there is one, else itself if printable, else
its number in hexadecimal. -/
def quoteRune (c : CodePoint) : Text :=
  let n := c.val
  match shortEscape? n with
  | some e => ['\\', e]
  | none =>
    if Text.isPrintable n then [Char.ofNat n]
    else if n < 0x80 then "\\x" ++ Text.hex 2 n
    else if isSurrogate n then "\\ufffd"
    else if n < 0x10000 then "\\u" ++ Text.hex 4 n
    else "\\U" ++ Text.hex 8 n

/-- The literal of a sequence of code points. -/
def quote (s : List CodePoint) : Text := '"' :: s.flatMap quoteRune ++ ['"']

/-- The literal of a text. -/
def ofText (s : Text) : Text := quote (s.map CodePoint.ofChar)

/-! ## Reading -/

/-- The character that a short escape stands for. -/
def ofShortEscape? : Char → Option Char
  | 'a' => some '\x07'
  | 'b' => some '\x08'
  | 'f' => some '\x0c'
  | 'n' => some '\n'
  | 'r' => some '\r'
  | 't' => some '\t'
  | 'v' => some '\x0b'
  | '\\' => some '\\'
  | '"' => some '"'
  | _ => none

/-- The character with a number, unless it is half of a surrogate pair or too large. -/
def rune? (n : Nat) : Option Char :=
  if n < 0x110000 ∧ ¬ isSurrogate n then some (Char.ofNat n) else none

/-- The value of an octal digit. -/
def octalDigit? (c : Char) : Option Nat :=
  if '0' ≤ c ∧ c ≤ '7' then some (c.toNat - 48) else none

/-- The text of a literal from behind its opening quote. A character stands for itself unless it is
a quote, a backslash or a line feed; a backslash begins a short escape, two hexadecimal digits
behind `x`, four behind `u`, eight behind `U`, or three octal digits up to `377`. -/
def unquoteBody? : Text → Option Text
  | ['"'] => some []
  | '\\' :: 'x' :: a :: b :: s => do
    return (← rune? (← Text.hexValue? [a, b])) :: (← unquoteBody? s)
  | '\\' :: 'u' :: a :: b :: c :: d :: s => do
    return (← rune? (← Text.hexValue? [a, b, c, d])) :: (← unquoteBody? s)
  | '\\' :: 'U' :: a :: b :: c :: d :: e :: f :: g :: h :: s => do
    return (← rune? (← Text.hexValue? [a, b, c, d, e, f, g, h])) :: (← unquoteBody? s)
  | '\\' :: c :: s =>
    match ofShortEscape? c with
    | some e => (unquoteBody? s).map (e :: ·)
    | none =>
      match s with
      | b :: a :: s => do
        let n := 64 * (← octalDigit? c) + 8 * (← octalDigit? b) + (← octalDigit? a)
        if n < 256 then return (← rune? n) :: (← unquoteBody? s) else none
      | _ => none
  | c :: s => if c = '"' ∨ c = '\\' ∨ c = '\n' then none else (unquoteBody? s).map (c :: ·)
  | [] => none

/-- The text of a double-quoted literal. -/
def unquote? : Text → Option Text
  | '"' :: s => unquoteBody? s
  | _ => none

end Stencil.GoString
