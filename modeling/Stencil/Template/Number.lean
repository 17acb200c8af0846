import Stencil.Decimal.Division
import Stencil.Template.Value

/-!
# Numbers of templates

A number is an integer of any size or a number of double precision. Integers stay exact; an
operation with one number of double precision gives another one, and an integer too large for that
is a fault. The truth values count as one and zero.
-/

namespace Stencil.Template

/-- A number. -/
inductive Number where
  | int (i : Int)
  | float (x : Float)
  deriving Inhabited

namespace Number

/-- The number that a value is, if it is one. -/
def ofValue? : Value → Option Number
  | .bool b => some (.int (if b then 1 else 0))
  | .int i => some (.int i)
  | .float x => some (.float x)
  | _ => none

/-- The value that a number is. -/
def value : Number → Value
  | .int i => .int i
  | .float x => .float x

/-- A number in double precision. -/
def toFloat : Number → Except Crash Float
  | .float x => .ok x
  | .int i =>
    match Decimal.ofInt? i with
    | some x => .ok x
    | none => .error .overflow

/-! ## Order -/

/-- How a number of double precision compares with an integer, exactly. -/
def compareInt? (x : Float) (i : Int) : Option Ordering :=
  if x.isNaN then none
  else if x.isInf then some (if x < 0.0 then .lt else .gt)
  else some (Decimal.compareInt x i)

/-- How two numbers compare; what is no number compares with nothing. -/
def compare? : Number → Number → Option Ordering
  | .int a, .int b => some (compare a b)
  | .float x, .float y =>
    if x < y then some .lt else if y < x then some .gt else if x == y then some .eq else none
  | .float x, .int b => compareInt? x b
  | .int a, .float y => (compareInt? y a).map Ordering.swap

/-! ## Arithmetic -/

/-- The quotient of two integers in double precision. -/
def divideInts (a b : Int) : Except Crash Number :=
  if b = 0 then .error .divisionByZero
  else
    match Decimal.ratio? a.natAbs b.natAbs with
    | none => .error .overflow
    | some x => .ok (.float (if (a < 0) != (b < 0) then -x else x))

/-- A power in double precision. One that is not a real number is a fault. -/
def powerFloats (x y : Float) : Except Crash Number :=
  if y == 0.0 then .ok (.float 1.0)
  else if x == 0.0 && y < 0.0 then .error .divisionByZero
  else if x < 0.0 && !x.isInf && !y.isInf && y.floor != y then .error .badValue
  else
    let z := x ^ y
    if z.isInf && !x.isInf && !y.isInf then .error .overflow else .ok (.float z)

/-- An operation in double precision. -/
def onFloats (op : BinaryOp) (x y : Float) : Except Crash Number :=
  match op with
  | .add => .ok (.float (x + y))
  | .sub => .ok (.float (x - y))
  | .mul => .ok (.float (x * y))
  | .div => if y == 0.0 then .error .divisionByZero else .ok (.float (x / y))
  | .floordiv =>
    if y == 0.0 then .error .divisionByZero else .ok (.float (Decimal.divideDown x y))
  | .mod => if y == 0.0 then .error .divisionByZero else .ok (.float (Decimal.moduloDown x y))
  | .pow => powerFloats x y

/-- An operation on two numbers. Quotients of integers are rounded down, but for `/`, which gives
a number of double precision, as does a power with a negative exponent. -/
def apply (op : BinaryOp) : Number → Number → Except Crash Number
  | .int a, .int b =>
    match op with
    | .add => .ok (.int (a + b))
    | .sub => .ok (.int (a - b))
    | .mul => .ok (.int (a * b))
    | .div => divideInts a b
    | .floordiv => if b = 0 then .error .divisionByZero else .ok (.int (Int.fdiv a b))
    | .mod => if b = 0 then .error .divisionByZero else .ok (.int (Int.fmod a b))
    | .pow =>
      if 0 ≤ b then .ok (.int (Int.pow a b.toNat))
      else if a = 0 then .error .divisionByZero
      else do powerFloats (← toFloat (.int a)) (← toFloat (.int b))
  | a, b => do onFloats op (← toFloat a) (← toFloat b)

/-- The number with its sign changed. -/
def negate : Number → Number
  | .int i => .int (-i)
  | .float x => .float (-x)

end Number

end Stencil.Template
