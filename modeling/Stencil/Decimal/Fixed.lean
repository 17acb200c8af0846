import Stencil.Decimal.Number

/-!
# Numbers with a given count of digits

A number of double precision is rounded exactly to a count of places behind the point (`fixed`) or
to a count of digits (`exponential`, `general`); a half goes to the even neighbour. A point with
nothing behind it, and zeros at the end, are left out unless they are to be kept.
-/

namespace Stencil.Decimal

/-- The quotient of natural numbers, rounded to the nearest one, a half to the even one. -/
def roundQuotient (num den : Nat) : Nat :=
  let whole := num / den
  let twice := 2 * (num % den)
  if den < twice ∨ (twice = den ∧ whole % 2 = 1) then whole + 1 else whole

/-- A number times a power of ten, rounded. -/
def scaled (b : Binary) (places : Int) : Nat :=
  roundQuotient (b.m * pow2 b.q.toNat * pow10 places.toNat)
    (pow2 (-b.q).toNat * pow10 (-places).toNat)

/-- Digits with a point before the last `places` of them. -/
def pointed (keep : Bool) (places : Nat) (digits : Text) : Text :=
  let digits := List.replicate (places + 1 - digits.length) '0' ++ digits
  let whole := digits.length - places
  if places = 0 ∧ ¬ keep then digits else digits.take whole ++ '.' :: digits.drop whole

/-- The size of a finite number with a count of places behind the point. -/
def fixed (x : Float) (keep : Bool) (places : Nat) : Text :=
  pointed keep places (Text.ofNat (if isZero x then 0 else scaled (binary x) places))

/-- The first digits of the size of a finite number, `places + 1` of them, and the power of ten at
which the first one stands. -/
def leading (x : Float) (places : Nat) : Nat × Int :=
  if isZero x then (0, 0)
  else
    let b := binary x
    let power := (Interval.around b).magnitude - 1
    let n := scaled b (places - power)
    if pow10 (places + 1) ≤ n then (n / 10, power + 1) else (n, power)

/-- A power of ten behind its mark: at least two digits, after a sign. -/
def exponentText (power : Int) : Text :=
  let size := Text.ofNat power.natAbs
  'e' :: (if power < 0 then '-' else '+') :: (if size.length < 2 then '0' :: size else size)

/-- The size of a finite number with an exponent and a count of places behind the point. -/
def exponential (x : Float) (keep : Bool) (places : Nat) : Text :=
  let (digits, power) := leading x places
  pointed keep places (Text.ofNat digits) ++ exponentText power

/-- Digits without zeros at the end of a fraction. -/
def withoutZeros (s : Text) : Text :=
  if s.contains '.' then
    let kept := (s.reverse.dropWhile (· = '0')).reverse
    if kept.getLast? = some '.' then kept.dropLast else kept
  else s

/-- The size of a finite number with a count of digits: positionally if the first one stands at
`10 ^ -4` or above and below `10 ^ limit`, otherwise with an exponent. -/
def general (x : Float) (keep : Bool) (digits : Nat) (limit : Int) : Text :=
  let (n, power) := leading x (digits - 1)
  let trim (s : Text) := if keep then s else withoutZeros s
  if -4 ≤ power ∧ power < limit then trim (fixed x keep (digits - 1 - power).toNat)
  else trim (pointed keep (digits - 1) (Text.ofNat n)) ++ exponentText power

end Stencil.Decimal
