import Stencil.Template.Sequence

/-!
# Arguments of calls

A callable that takes its arguments by position alone reads them with `positional`; one that names
its parameters, with `fit`, which gives each parameter its argument or nothing. Arguments that do
not fit, and values that are not what a parameter takes, are faults without a message.
-/

namespace Stencil.Template

namespace Args

/-- The arguments by position, `least` to `most` of them, when there are none by name. -/
def positional? (least most : Nat) (a : Args) : Option (List Value) :=
  if a.named.isEmpty ∧ least ≤ a.positional.length ∧ a.positional.length ≤ most then
    some a.positional
  else none

/-- The argument of each parameter, by position or by name; the first `least` have one. -/
def fit? (names : List Text) (least : Nat) (a : Args) : Option (List (Option Value)) :=
  let n := a.positional.length
  if n ≤ names.length
      ∧ (a.named.all fun p => (names.drop n).contains p.1)
      ∧ ((names.drop n).take (least - n)).all fun name => (a.named.lookup name).isSome then
    some (a.positional.map some ++ (names.drop n).map fun name => a.named.lookup name)
  else none

end Args

section

variable {m : Type → Type} [Monad m] [MonadExcept Stop m] {α : Type}

/-- What is there; otherwise a fault without a message. -/
def require : Option α → m α
  | some a => return a
  | none => crash .wrongType

/-- The arguments by position, `least` to `most` of them. -/
def positional (least most : Nat) (a : Args) : m (List Value) :=
  require (a.positional? least most)

/-- Fails unless there are no arguments. -/
def noArguments (a : Args) : m Unit := do discard (positional 0 0 a)

/-- A text. -/
def asText : Value → m Text
  | .text s => return s
  | _ => crash .wrongType

/-- An integer. -/
def asInt (v : Value) : m Int := require (integer? v)

/-- An integer that says yes or no. -/
def asFlag (v : Value) : m Bool := do
  let i ← asInt v
  if precisionLimit < i.natAbs then crash .overflow else return i != 0

/-- An integer that can be a size. -/
def asSize (v : Value) : m Int := do
  let i ← asInt v
  if sizeLimit ≤ i.natAbs then crash .overflow else return i

/-- An integer that can be a size, or what stands for one that is left out. -/
def asSizeOr (default : Int) : Option Value → m Int
  | none => return default
  | some v => asSize v

/-- A width for which there is room. -/
def asWidth (v : Value) : m Int := do
  let i ← asSize v
  enough i.toNat
  return i

/-- An integer, or what stands for one that is left out. -/
def asIntOr (default : Int) : Option Value → m Int
  | none => return default
  | some v => asInt v

/-- A position, which may be nothing. -/
def asBound : Option Value → m (Option Int)
  | none => return none
  | some .none => return none
  | some v => return some (← asInt v)

end

end Stencil.Template
