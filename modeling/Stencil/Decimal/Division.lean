import Stencil.Decimal.Number

/-!
# Quotients rounded down

The remainder of two numbers of double precision is exact. From it come the quotient rounded down
and the remainder that has the sign of the divisor.
-/

namespace Stencil.Decimal

/-- The remainder of a division whose quotient is rounded towards zero: it has the sign of `x`, and
is exact. -/
def remainder (x y : Float) : Float :=
  if x.isNaN || y.isNaN || x.isInf || y == 0.0 then 0.0 / 0.0
  else if y.isInf || x == 0.0 then x
  else
    let a := binary x
    let b := binary y
    let q := min a.q b.q
    let r := (a.m * pow2 (a.q - q).toNat) % (b.m * pow2 (b.q - q).toNat)
    let size := Float.scaleB (Float.ofNat r) q
    if negative x then -size else size

/-- A zero with the sign of `x`. -/
def zeroLike (x : Float) : Float := if negative x then -0.0 else 0.0

/-- The remainder with the sign of the divisor, which is not zero. -/
def moduloDown (x y : Float) : Float :=
  let r := remainder x y
  if r == 0.0 then zeroLike y
  else if (y < 0.0) != (r < 0.0) then r + y
  else r

/-- The quotient rounded down; the divisor is not zero. -/
def divideDown (x y : Float) : Float :=
  let r := remainder x y
  let quotient := (x - r) / y
  let quotient := if r != 0.0 && (y < 0.0) != (r < 0.0) then quotient - 1.0 else quotient
  if quotient == 0.0 then zeroLike (x / y)
  else
    let whole := quotient.floor
    if quotient - whole > 0.5 then whole + 1.0 else whole

end Stencil.Decimal
