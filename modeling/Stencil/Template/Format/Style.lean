import Stencil.Decimal.Fixed
import Stencil.Template.Number
import Stencil.Text.Layout

/-!
# Styles

A style says how a value is written: aligned in a width, with a sign, with a count of places, with
marks between groups of digits. `Style.text`, `Style.int?` and `Style.float` write values.
-/

namespace Stencil.Template.Format

/-- How a value is written. -/
structure Style where
  fill : Char := ' '
  /-- `<`, `>`, `^` or `=`; the last one puts the filling behind the sign. -/
  align : Option Char := none
  /-- What stands before a number that is not negative. -/
  plus : Text := []
  /-- Whether a negative number loses its sign when it is rounded to zero. -/
  unsignedZero : Bool := false
  /-- Whether the base of a number is shown, and its point and zeros are kept. -/
  alternate : Bool := false
  width : Nat := 0
  /-- What stands between groups of digits. -/
  group : Option Char := none
  precision : Option Nat := none

namespace Style

/-- What stands before the digits and the digits, filled up to the width. -/
def aligned (s : Style) (default : Char) (sign digits : Text) : Text :=
  match s.align.getD default with
  | '<' => Text.padEnd s.fill s.width (sign ++ digits)
  | '^' => -- an odd character goes behind
    let room := s.width - (sign ++ digits).length
    List.replicate (room / 2) s.fill ++ sign ++ digits ++ List.replicate (room - room / 2) s.fill
  | '=' => sign ++ Text.padStart s.fill (s.width - sign.length) digits
  | _ => Text.padStart s.fill s.width (sign ++ digits)

/-- A text in a style, of which the precision is the greatest length. -/
def text (s : Style) (default : Char) (t : Text) : Text :=
  s.aligned default [] (match s.precision with | some n => t.take n | none => t)

/-! ## Groups of digits -/

/-- Digits from the last one on, with a mark behind every `size` of them, and with zeros up to a
length. -/
def groupedFrom (size : Nat) (mark : Char) : Nat → Nat → Text → Text
  | 0, _, digits => digits
  | fuel + 1, least, digits =>
    let n := min size (max (max digits.length least) 1)
    let piece := digits.take n ++ List.replicate (n - digits.length) '0'
    let rest := digits.drop n
    if rest.isEmpty ∧ least ≤ n then piece
    else piece ++ mark :: groupedFrom size mark fuel (least - n - 1) rest

/-- The whole part of a number with marks between groups of `size` digits, and the rest of the
number, filled up to the width: with zeros that count as digits when they stand behind the sign. -/
def digits (s : Style) (sign : Text) (size : Nat) (whole rest : Text) : Text :=
  let least :=
    if s.fill = '0' ∧ s.align = some '=' then s.width - (sign.length + rest.length) else 0
  let whole :=
    match s.group with
    | some mark =>
      if whole.isEmpty then []
      else (groupedFrom size mark (whole.length + least) least whole.reverse).reverse
    | none => whole
  s.aligned '>' sign (whole ++ rest)

/-- The sign of a number. -/
def sign (s : Style) (negative : Bool) : Text := if negative then ['-'] else s.plus

/-! ## Integers -/

/-- The digits of an integer in the base of a kind, the mark of the base, and the size of the groups
of its digits. -/
def base? (kind : Char) (n : Nat) : Option (Text × Text × Nat) :=
  match kind with
  | 'd' => some ([], Text.ofNat n, 3)
  | 'b' => some ("0b", Nat.toDigits 2 n, 4)
  | 'o' => some ("0o", Nat.toDigits 8 n, 4)
  | 'x' => some ("0x", Nat.toDigits 16 n, 4)
  | 'X' => some ("0X", (Nat.toDigits 16 n).map Char.toUpper, 4)
  | _ => none

/-- An integer in the base of a kind. The precision is the least count of digits. -/
def int? (s : Style) (kind : Char) (i : Int) : Option Text := do
  let (base, digits, size) ← base? kind i.natAbs
  return s.digits (s.sign (i < 0) ++ (if s.alternate then base else [])) size
    (Text.padStart '0' (s.precision.getD 0) digits) []

/-! ## Numbers of double precision -/

/-- The ways to write a number of double precision. -/
inductive FloatForm where
  /-- The text of the number, or with a count of digits and at least one place. -/
  | plain
  | fixed
  | exponential
  | general
  | percent
  deriving DecidableEq, Repr

/-- The size of a finite number. The precision is a count of places or of digits. -/
def size (s : Style) (x : Float) : FloatForm → Text
  | .plain =>
    match s.precision with
    | none =>
      let t := if Decimal.negative x then (Decimal.text x).drop 1 else Decimal.text x
      if s.alternate && !t.contains '.' then
        t.takeWhile (· ≠ 'e') ++ '.' :: t.dropWhile (· ≠ 'e')
      else t
    | some n =>
      let count := max 1 n
      let t := Decimal.general x s.alternate count ((count : Int) - 1)
      if t.any fun c => c = '.' ∨ c = 'e' then t else t ++ ".0"
  | .fixed | .percent => Decimal.fixed x s.alternate (s.precision.getD 6)
  | .exponential => Decimal.exponential x s.alternate (s.precision.getD 6)
  | .general =>
    let count := max 1 (s.precision.getD 6)
    Decimal.general x s.alternate count count

/-- Whether a size is that of zero. -/
def isNothing (size : Text) : Bool :=
  (size.takeWhile (· ≠ 'e')).all fun c => c = '0' || c = '.'

/-- A number of double precision, perhaps in capitals. -/
def float (s : Style) (form : FloatForm) (capital : Bool) (x : Float) : Text :=
  let scaled := if form = .percent then x * 100.0 else x
  let size : Text :=
    if scaled.isNaN then "nan" else if scaled.isInf then "inf" else s.size scaled form
  let negative := Decimal.negative x && !x.isNaN && !(s.unsignedZero && isNothing size)
  let size := if capital then size.map Char.toUpper else size
  s.digits (s.sign negative) 3 (size.takeWhile Text.isDigit)
    (size.dropWhile Text.isDigit ++ (if form = .percent then ['%'] else []))

end Style

/-- The way to write a number of double precision that a kind asks for, and whether in capitals. -/
def floatForm? : Char → Option (Style.FloatForm × Bool)
  | 'f' => some (.fixed, false)
  | 'F' => some (.fixed, true)
  | 'e' => some (.exponential, false)
  | 'E' => some (.exponential, true)
  | 'g' => some (.general, false)
  | 'G' => some (.general, true)
  | _ => none

end Stencil.Template.Format
