import Stencil.Template.Value

/-!
# Going through values

A `Source` gives one value after the other (`Source.next`). It looks at a list or a table when it is
asked for the next item, so it sees what was put there since; a table has to keep its size.

A loop takes the values of its source (`Loop.pull`). The body may look at the value of the next
round before it begins (`Loop.peek`), or ask for the number of all rounds (`Loop.length`); the loop
has to take values for that which it gives to the body later. A loop with a condition takes its
values by request.
-/

namespace Stencil.Template

/-- The places of the items of a range. -/
def rangeLength (start stop step : Int) : Nat :=
  if 0 < step then if start < stop then ((stop - start - 1) / step + 1).toNat else 0
  else if stop < start then ((start - stop - 1) / (-step) + 1).toNat else 0

/-- A part of an entry of a table, as a value. -/
def viewItem (part : DictPart) (entry : Value × Value) : Value :=
  match part with
  | .keys => entry.1
  | .values => entry.2
  | .items => .tuple [entry.1, entry.2]

namespace Source

/-- A source with nothing to come. -/
def done : Source := .values []

/-- The first of some slots of a table that is not empty, with its position. -/
def firstFilled? (slots : List (Option (Value × Value) × Nat)) : Option ((Value × Value) × Nat) :=
  slots.findSome? fun (slot, i) => slot.map (·, i)

/-- The next value of a source, and the source behind it. -/
def next : Source → Eval (Option (Value × Source))
  | .values [] => return none
  | .values (v :: rest) => return some (v, .values rest)
  | .counting _ _ 0 => return none
  | .counting first step (n + 1) => return some (.int first, .counting (first + step) step n)
  | .list p i => do return (← itemsAt p)[i]?.map (·, .list p (i + 1))
  | .listBack _ 0 => return none
  | .listBack p (i + 1) => do return (← itemsAt p)[i]?.map (·, .listBack p i)
  | .entries part p size i left => do
    let slots ← slotsAt p
    if slots.reduceOption.length ≠ size then crash .badValue
    else
      match firstFilled? (slots.zipIdx.drop i), left with
      | none, _ => return none
      | some _, 0 => crash .badValue
      | some (e, j), left + 1 => return some (viewItem part e, .entries part p size (j + 1) left)
  | .entriesBack part p size i => do
    let slots ← slotsAt p
    if slots.reduceOption.length ≠ size then crash .badValue
    else return (firstFilled? (slots.zipIdx.take i).reverse).map fun (e, j) =>
      (viewItem part e, .entriesBack part p size j)
  | .stream p => do return (← ask (.item p)).map (·, .stream p)
  | .loop p => do return (← ask (.round p)).map fun v => (.tuple [v, .loop p], .loop p)

/-- The number of values that a source has without the store. -/
def own : Source → Nat
  | .values rest => rest.length
  | .counting _ _ count => count
  | _ => 0

/-- A bound on the steps through a source: there are steps for what it has and for what is in the
store at the beginning, and for as much that is added as there is room for. -/
def steps (source : Source) : Eval Nat := do
  return source.own + (← look Store.size) + room

/-- What a function makes of the values of a source, one by one. -/
def each {α : Type} (f : Value → Eval α) : Nat → Source → Eval (List α)
  | 0, _ => crash .noRoom
  | fuel + 1, source => do
    match ← source.next with
    | none => return []
    | some (v, rest) =>
      let a ← f v
      return a :: (← each f fuel rest)

/-- All values of a source. -/
def all (source : Source) : Eval (List Value) := do
  source.each pure (← source.steps)

/-- Up to `n` values of a source. -/
def take : Nat → Source → Eval (List Value)
  | 0, _ => return []
  | n + 1, source => do
    match ← source.next with
    | none => return []
    | some (v, rest) => return v :: (← take n rest)

end Source

/-- The number of things in a value, if it has one; `ofLoop` counts the rounds of a loop. -/
def sizeWith? (ofLoop : Place → Eval Nat) : Value → Eval (Option Nat)
  | .text s => return some s.length
  | .tuple items => return some items.length
  | .list p => do return some (← itemsAt p).length
  | .dict p => do return some (← entriesAt p).length
  | .view _ p => do return some (← entriesAt p).length
  | .range start stop step =>
    let n := rangeLength start stop step
    if sizeLimit ≤ n then crash .overflow else return some n
  | .loop p => some <$> ofLoop p
  | .absent true _ _ => return some 0
  | _ => return none

namespace Loop

/-- Takes the next value of the source of a loop. -/
def take (p : Place) : Eval (Option Value) := do
  match ← (← loopAt p).source.next with
  | some (v, source) =>
    changeLoop p fun l => { l with source }
    return some v
  | none =>
    changeLoop p fun l => { l with source := .done }
    return none

/-- Takes the next value for which there is a round. -/
def pull (p : Place) : Eval (Option Value) := do
  if (← loopAt p).gate.isSome then ask (.value p) else take p

/-- The value of the next round, which begins with that; `pull` takes it. -/
def advance (pull : Eval (Option Value)) (p : Place) : Eval (Option Value) := do
  let next ← (match (← loopAt p).after with
    | some v => return some v
    | none => pull : Eval (Option Value))
  if next.isSome then
    changeLoop p fun l =>
      { l with index := l.index + 1, before := l.current, current := next, after := none }
  return next

/-- The value of the next round. -/
def peek (p : Place) : Eval (Option Value) := do
  match (← loopAt p).after with
  | some v => return some v
  | none =>
    let next ← pull p
    changeLoop p fun l => { l with after := next }
    return next

/-- What a computation gives until it gives nothing, as `f` changes it. -/
def each {α : Type} (next : Eval (Option Value)) (f : Value → Eval α) : Nat → Eval (List α)
  | 0 => crash .noRoom
  | fuel + 1 => do
    match ← next with
    | none => return []
    | some v =>
      let a ← f v
      return a :: (← each next f fuel)

/-- The number of all rounds when the values to come have to be taken for it. -/
def countAll (p : Place) : Eval Nat := do
  let rest ← each (pull p) pure (← (← loopAt p).source.steps)
  changeLoop p fun l => { l with source := .values rest, gate := none }
  let l ← loopAt p
  return rest.length + l.index + l.after.toList.length

/-- The number of all rounds of a loop. The fuel bounds how many loops go through one another. -/
def lengthFrom : Nat → Place → Eval Nat
  | 0, _ => crash .tooDeep
  | fuel + 1, p => do
    let l ← loopAt p
    match l.total with
    | some n => return n
    | none =>
      let size ← (if l.gate.isSome then return none else sizeWith? (lengthFrom fuel) l.items :
        Eval (Option Nat))
      let n ← (match size with
        | some n => return n
        | none => countAll p : Eval Nat)
      changeLoop p fun l => { l with total := some n }
      return n

/-- The number of all rounds of a loop. -/
def length (p : Place) : Eval Nat := lengthFrom (p + 1) p

end Loop

end Stencil.Template
