import Stencil.Text.Blank
import Stencil.Literal.CharacterName

/-!
# Backslash escapes

`Escape.decode?` reads the escapes of a quoted text: the usual letters, up to three octal digits,
`x`, `u` and `U` with two, four and eight hexadecimal digits, `N` with the name of a character, and
an escaped line end, which stands for nothing. A backslash before any other character is kept.
`Escape.literal?` reads the text between double quotes that must stand on one line.
-/

namespace Stencil.Escape

/-- The character that an escaped letter or mark stands for. -/
def letter? : Char → Option Char
  | '\\' => some '\\'
  | '\x27' => some '\x27'
  | '"' => some '"'
  | 'a' => some '\x07'
  | 'b' => some '\x08'
  | 'f' => some '\x0c'
  | 'n' => some '\n'
  | 'r' => some '\r'
  | 't' => some '\t'
  | 'v' => some '\x0b'
  | _ => none

/-- The value of an octal digit. -/
def octal? (c : Char) : Option Nat :=
  if '0' ≤ c ∧ c ≤ '7' then some (c.toNat - 48) else none

/-- Up to `more` further octal digits behind the value `n`, and the rest. -/
def octals : Nat → Nat → Text → Nat × Text
  | more + 1, n, c :: s =>
    match octal? c with
    | some d => octals more (8 * n + d) s
    | none => (n, c :: s)
  | _, n, s => (n, s)

/-- The number of hexadecimal digits behind an escape letter. -/
def width? : Char → Option Nat
  | 'x' => some 2
  | 'u' => some 4
  | 'U' => some 8
  | _ => none

/-- The character that an escape with `count` hexadecimal digits stands for, and the rest. -/
def hex? (count : Nat) (s : Text) : Option (Char × Text) :=
  if (s.take count).length < count then none
  else do
    let n ← Text.hexValue? (s.take count)
    if n < 0x110000 then
      some (if 0xd800 ≤ n ∧ n ≤ 0xdfff then '\ufffd' else Char.ofNat n, s.drop count)
    else none

/-- The character whose name stands in braces, and the rest. -/
def named? : Text → Option (Char × Text)
  | '\x7b' :: s => do
    let (name, rest) ← Text.cut? ['\x7d'] s
    return (← CharacterName.find? name, rest)
  | _ => none

/-- What an escape stands for, from behind its backslash, and the rest. -/
def one? : Text → Option (Text × Text)
  | [] => none
  | c :: s =>
    if c = '\n' then some ([], s)
    else match letter? c with
    | some e => some ([e], s)
    | none =>
      match octal? c with
      | some d => let (n, rest) := octals 2 d s; some ([Char.ofNat n], rest)
      | none =>
        match width? c with
        | some count => (hex? count s).map fun (e, rest) => ([e], rest)
        | none =>
          if c = 'N' then (named? s).map fun (e, rest) => ([e], rest) else some (['\\', c], s)

/-- Reads the escapes; each step takes at least one character of `fuel`. -/
def decodeFrom : Nat → Text → Option Text
  | _, [] => some []
  | 0, _ => none
  | fuel + 1, '\\' :: s => do
    let (e, rest) ← one? s
    return e ++ (← decodeFrom fuel rest)
  | fuel + 1, c :: s => (decodeFrom fuel s).map (c :: ·)

/-- The text that a text with escapes stands for, or nothing if an escape is malformed. -/
def decode? (s : Text) : Option Text := decodeFrom s.length s

/-- Whether a line feed stands in the text without a backslash before it. -/
def breaksLine : Text → Bool
  | [] => false
  | '\\' :: _ :: s => breaksLine s
  | c :: s => c = '\n' || breaksLine s

/-- The text of a literal, given what stands between its double quotes. It has no null character
and ends no line, save behind a backslash. -/
def literal? (body : Text) : Option Text :=
  let body := Text.unifyLineEnds body
  if body.contains '\x00' ∨ breaksLine body then none else decode? body

end Stencil.Escape
