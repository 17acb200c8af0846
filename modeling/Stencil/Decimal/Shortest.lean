import Stencil.Text.Basic

/-!
# Shortest decimals

`Decimal.shortest` finds the fewest digits that read back as a positive number `m * 2 ^ q` of
double precision, and of those the digits nearest to it. A decimal reads back when it lies between
the points half-way to the neighbouring numbers, these points included when `m` is even. For each
count of digits the two neighbours of the number on that grid are tried, the fewest digits first.
-/

namespace Stencil

/-- The number `digits * 10 ^ exponent`. -/
structure Decimal where
  digits : Nat
  exponent : Int
  deriving Repr, DecidableEq, Inhabited

namespace Decimal

/-- A power of two. -/
def pow2 (n : Nat) : Nat := Nat.pow 2 n

/-- A power of ten. -/
def pow10 (n : Nat) : Nat := Nat.pow 10 n

/-- A positive number of double precision, as `m * 2 ^ q`. -/
structure Binary where
  m : Nat
  q : Int

/-- Positive fractions with the number between the points half-way to its neighbours, over one
denominator. -/
structure Interval where
  low : Nat
  value : Nat
  high : Nat
  denominator : Nat
  closed : Bool

/-- The decimals that read back as `b`. The neighbour below is nearer when `m` is the least of its
binade. -/
def Interval.around (b : Binary) : Interval :=
  let below := if b.m = pow2 52 ∧ -1074 < b.q then 1 else 2
  let up := b.q.toNat
  let down := (-b.q).toNat
  { low := (4 * b.m - below) * pow2 up
    value := 4 * b.m * pow2 up
    high := (4 * b.m + 2) * pow2 up
    denominator := 4 * pow2 down
    closed := b.m % 2 = 0 }

/-- Whether `d * 10 ^ k` lies in the interval. -/
def Interval.holds (i : Interval) (d : Nat) (k : Int) : Bool :=
  let n := d * pow10 k.toNat * i.denominator
  let scale := pow10 (-k).toNat
  if i.closed then i.low * scale ≤ n && n ≤ i.high * scale
  else i.low * scale < n && n < i.high * scale

/-- The number of digits before the point; zero or less counts the zeros behind it. -/
def Interval.magnitude (i : Interval) : Int :=
  if i.denominator ≤ i.value then (Nat.toDigits 10 (i.value / i.denominator)).length
  else
    let n := (Nat.toDigits 10 (i.denominator / i.value)).length
    if i.denominator ≤ i.value * pow10 (n - 1) then 2 - n else 1 - n

/-- The better of the two neighbours of the number with the last digit at `10 ^ k`. -/
def Interval.neighbour? (i : Interval) (k : Int) : Option Nat :=
  let n := i.value * pow10 (-k).toNat
  let unit := i.denominator * pow10 k.toNat
  let d := n / unit
  match i.holds d k, i.holds (d + 1) k with
  | true, true => some (if 2 * (n - d * unit) < unit ∨ (2 * (n - d * unit) = unit ∧ d % 2 = 0)
      then d else d + 1)
  | true, false => some d
  | false, true => some (d + 1)
  | false, false => none

/-- Tries the remaining counts of digits. -/
def Interval.search (i : Interval) (magnitude : Int) : Nat → Nat → Decimal
  | 0, _ => ⟨i.value / i.denominator, 0⟩
  | more + 1, count =>
    let k := magnitude - count
    match i.neighbour? k with
    | some d => ⟨d, k⟩
    | none => i.search magnitude more (count + 1)

/-- Moves the zeros at the end of the digits into the exponent. -/
def trimmed : Nat → Decimal → Decimal
  | 0, d => d
  | fuel + 1, d =>
    if d.digits ≠ 0 ∧ d.digits % 10 = 0 then trimmed fuel ⟨d.digits / 10, d.exponent + 1⟩ else d

/-- The fewest digits that read back as `b`. -/
def shortest (b : Binary) : Decimal :=
  let i := Interval.around b
  trimmed 400 (i.search i.magnitude 17 1)

end Decimal

end Stencil
