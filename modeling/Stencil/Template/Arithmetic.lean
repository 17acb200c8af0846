import Stencil.Template.Format.Percent
import Stencil.Template.Number

/-!
# Operators on values

The arithmetic operators work on numbers; `+` also joins texts, lists and tuples, `*` repeats them,
and `%` on a text fills in its marks. An operand that is absent is a fault, any other operand that
does not fit one without a message.
-/

namespace Stencil.Template

/-- A row as often as an integer says; not at all when it is negative. -/
def repeated {α : Type} (row : List α) (times : Int) : Eval (List α) := do
  if sizeLimit ≤ times.natAbs then crash .overflow
  enough (times.toNat * row.length)
  return (List.replicate times.toNat row).flatten

/-- The value with an operator between two values. -/
def binary (op : BinaryOp) (a b : Value) : Eval Value := do
  match op, a, b with
  | .mod, .text s, v => return .text (← Format.fill s v)
  | _, .absent _ missing key, _ => refuse missing key
  | _, _, .absent _ missing key => refuse missing key
  | .add, .text s, .text t => return .text (s ++ t)
  | .add, .tuple s, .tuple t => return .tuple (s ++ t)
  | .add, .list p, .list q => newList ((← itemsAt p) ++ (← itemsAt q))
  | op, a, b =>
    match Number.ofValue? a, Number.ofValue? b with
    | some x, some y =>
      match x.apply op y with
      | .ok z => return z.value
      | .error c => crash c
    | _, _ =>
      match op, a, integer? b, integer? a, b with
      | .mul, .text s, some n, _, _ => return .text (← repeated s n)
      | .mul, .tuple s, some n, _, _ => return .tuple (← repeated s n)
      | .mul, .list p, some n, _, _ => newList (← repeated (← itemsAt p) n)
      | .mul, _, _, some n, .text s => return .text (← repeated s n)
      | .mul, _, _, some n, .tuple s => return .tuple (← repeated s n)
      | .mul, _, _, some n, .list p => newList (← repeated (← itemsAt p) n)
      | _, _, _, _, _ => crash .wrongType

/-- The value with its sign changed. -/
def negated (v : Value) : Eval Value := do
  match v with
  | .absent _ missing key => refuse missing key
  | v =>
    match Number.ofValue? v with
    | some x => return x.negate.value
    | none => crash .wrongType

/-- The value with a plus sign before it. -/
def plus (v : Value) : Eval Value := do
  match v with
  | .absent _ missing key => refuse missing key
  | v =>
    match Number.ofValue? v with
    | some x => return x.value
    | none => crash .wrongType

end Stencil.Template
