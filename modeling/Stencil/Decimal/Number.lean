import Stencil.Decimal.Shortest

/-!
# Numbers of double precision as text

A number is written with the fewest digits that read back: positionally while its first digit
stands at `10 ^ -4` to `10 ^ 15`, otherwise with an exponent of at least two digits
(`Decimal.text`). `Decimal.toFloat` reads a decimal of any size.
-/

namespace Stencil.Decimal

/-- The binary form of a finite number other than zero, its sign left out. -/
def binary (x : Float) : Binary :=
  let bits : Nat := x.toBits.toNat % pow2 63
  let fraction : Nat := bits % pow2 52
  let power : Nat := bits / pow2 52
  if power = 0 then ⟨fraction, -1074⟩ else ⟨fraction + pow2 52, (power : Int) - 1075⟩

/-- Whether the sign bit of a number is set. -/
def negative (x : Float) : Bool := pow2 63 ≤ x.toBits.toNat

/-- Whether a number is a zero of either sign. -/
def isZero (x : Float) : Bool := x.toBits.toNat % pow2 63 = 0

/-- The digits, of which the last stands at `10 ^ exponent`, positionally or with an exponent. -/
def layout (digits : Text) (exponent : Int) : Text :=
  let n := digits.length
  let point := exponent + n
  if -4 < point ∧ point ≤ 16 then
    if point ≤ 0 then "0." ++ List.replicate (-point).toNat '0' ++ digits
    else if exponent ≥ 0 then digits ++ List.replicate exponent.toNat '0' ++ ".0"
    else digits.take point.toNat ++ '.' :: digits.drop point.toNat
  else
    let power := point - 1
    let size := Text.ofNat power.natAbs
    digits.take 1 ++ (if n = 1 then [] else '.' :: digits.drop 1)
      ++ 'e' :: (if power < 0 then '-' else '+')
        :: (if size.length < 2 then '0' :: size else size)

/-- The text of a number: the fewest digits that read back, or the names of infinity and of what
is no number. -/
def text (x : Float) : Text :=
  if x.isNaN then "nan"
  else
    let size : Text :=
      if x.isInf then "inf"
      else if isZero x then "0.0"
      else
        let d := shortest (binary x)
        layout (Text.ofNat d.digits) d.exponent
    if negative x then '-' :: size else size

/-- The number of double precision nearest to a decimal. -/
def toFloat (d : Decimal) : Float :=
  let size : Int := d.exponent + (Nat.toDigits 10 d.digits).length
  if d.digits = 0 then 0.0
  else if 310 < size then 1.0 / 0.0
  else if size < -330 then 0.0
  else if d.exponent < 0 then Float.ofScientific d.digits true d.exponent.natAbs
  else Float.ofScientific d.digits false d.exponent.natAbs

/-- The number of double precision nearest to a fraction, or nothing when it is too large. -/
def ratio? (num den : Nat) : Option Float :=
  if num = 0 then some 0.0
  else
    let bits : Int := (Nat.log2 num : Int) - Nat.log2 den
    let q : Int := max (bits - 54) (-1075)
    let n := num * pow2 (-q).toNat
    let d := den * pow2 q.toNat
    let whole := n / d
    let sticky := if n % d = 0 then 0 else 1
    let drop := Nat.log2 whole + 1 - 53
    let drop := if q + drop < -1074 then (-1074 - q).toNat else drop
    let unit := pow2 drop
    let kept := whole / unit
    let rest := (whole % unit) * 2 + sticky
    let rounded :=
      if rest > unit ∨ (rest = unit ∧ kept % 2 = 1) then kept + 1 else kept
    let power := q + drop
    if (Nat.log2 rounded : Int) + power ≥ 1024 then none
    else some (Float.scaleB (Float.ofNat rounded) power)

/-- The number of double precision nearest to an integer, or nothing when it is too large. -/
def ofInt? (i : Int) : Option Float :=
  (ratio? i.natAbs 1).map fun x => if i < 0 then -x else x

/-- The integer part of a finite number. -/
def truncated (x : Float) : Int :=
  if isZero x then 0
  else
    let b := binary x
    let size : Nat := if b.q < 0 then b.m / pow2 (-b.q).toNat else b.m * pow2 b.q.toNat
    if negative x then -(size : Int) else size

/-- How a finite number compares with an integer, exactly. -/
def compareInt (x : Float) (i : Int) : Ordering :=
  if isZero x then compare 0 i
  else
    let b := binary x
    let m : Int := if negative x then -(b.m : Int) else b.m
    if b.q < 0 then compare m (i * pow2 (-b.q).toNat) else compare (m * pow2 b.q.toNat) i

end Stencil.Decimal
