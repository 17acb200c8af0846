import Stencil.Template.Compare

/-!
# Values as sequences

`Source.of` is what a loop goes through: the characters of a text, the items of a list, the keys of
a table. `iterate` gives all of it at once; a stream is used up by it. `truth` says which values
count as true: all but nothing, zero and what is empty. Positions count from the front, negative
ones from the back (`position?`); `slice` takes every so many items between two positions.
-/

namespace Stencil.Template

/-- The integer that a value is, if it can be a position. -/
def integer? : Value → Option Int
  | .int i => some i
  | .bool b => some (if b then 1 else 0)
  | _ => none

/-! ## Loops over values -/

/-- What a loop over the entries of the table at a place goes through. -/
def Source.ofEntries (part : DictPart) (p : Place) : Eval Source := do
  let n := (← entriesAt p).length
  return .entries part p n 0 n

/-- What a loop over a value goes through. -/
def Source.of : Value → Eval Source
  | .text s => return .values (s.map fun c => .text [c])
  | .tuple items => return .values items
  | .list p => return .list p 0
  | .dict p => ofEntries .keys p
  | .view part p => ofEntries part p
  | .range start stop step => return .counting start step (rangeLength start stop step)
  | .stream p => return .stream p
  | .loop p => return .loop p
  | .absent true _ _ => return .done
  | .absent false missing key => refuse missing key
  | _ => crash .wrongType

/-- The items of a range. -/
def rangeItems (start stop step : Int) : List Value :=
  (List.range (rangeLength start stop step)).map fun (i : Nat) => .int (start + i * step)

/-- All that a loop over a value goes through. -/
def iterate : Value → Eval (List Value)
  | .text s => return s.map fun c => .text [c]
  | .tuple items => return items
  | .list p => itemsAt p
  | .dict p => do return (← entriesAt p).map (viewItem .keys)
  | .view part p => do return (← entriesAt p).map (viewItem part)
  | .range start stop step => do
    enough (rangeLength start stop step)
    return rangeItems start stop step
  | v => do (← Source.of v).all

/-- The first thing that a loop over a value goes through. -/
def takeFirst (v : Value) : Eval (Option Value) := do
  return (← (← Source.of v).next).map Prod.fst

/-- The number of things in a value. -/
def length (v : Value) : Eval Nat := do
  match v with
  | .absent false missing key => refuse missing key
  | v =>
    match ← sizeWith? Loop.length v with
    | some n => return n
    | none => crash .wrongType

/-- Whether a value counts as true. -/
def truth : Value → Eval Bool
  | .none => return false
  | .bool b => return b
  | .int i => return i != 0
  | .float x => return x != 0.0
  | .text s => return !s.isEmpty
  | .tuple items => return !items.isEmpty
  | .list p => do return !(← itemsAt p).isEmpty
  | .dict p => do return !(← entriesAt p).isEmpty
  | .view _ p => do return !(← entriesAt p).isEmpty
  | .range start stop step => return rangeLength start stop step != 0
  | .loop p => do return (← Loop.length p) != 0
  | .absent true _ _ => return false
  | .absent false missing key => refuse missing key
  | _ => return true

/-- Whether a value is among what a source gives, up to the first one that is equal to it. -/
def Source.contains (v : Value) : Nat → Source → Eval Bool
  | 0, _ => crash .noRoom
  | fuel + 1, source => do
    match ← source.next with
    | none => return false
    | some (w, rest) => if ← equal w v then return true else contains v fuel rest

/-- The position of an integer in a range. -/
def rangePosition? (start stop step i : Int) : Option Nat :=
  let n := rangeLength start stop step
  let at' := (i - start) / step
  if n ≠ 0 ∧ (i - start) % step = 0 ∧ 0 ≤ at' ∧ at' < n then some at'.toNat else none

/-- Whether a value is in another: a text as a part, a key in a table, a number in a range, anything
else as an item. -/
def contains (v container : Value) : Eval Bool := do
  match container, v with
  | .text s, .text part => return (Text.cut? part s).isSome
  | .text _, _ => crash .wrongType
  | .dict p, _ => return (← find? v (← entriesAt p)).isSome
  | .view .keys p, _ => return (← find? v (← entriesAt p)).isSome
  | .range start stop step, v =>
    match integer? v with
    | some i => return (rangePosition? start stop step i).isSome
    | none => isAmong v (← iterate container)
  | .list p, _ => isAmong v (← itemsAt p)
  | container, _ =>
    let source ← Source.of container
    source.contains v (← source.steps)

/-- A position in a row of `n` items, counted from the front. -/
def position? (n : Nat) (i : Int) : Option Nat :=
  let i := if i < 0 then i + n else i
  if 0 ≤ i ∧ i < n then some i.toNat else none

/-- The item at a position. -/
def nth? {α : Type} (items : List α) (i : Int) : Option α :=
  (position? items.length i).bind (items[·]?)

/-- A bound of a slice, moved into the row: counted from the back when negative, and not below
`least` or above `most`. -/
def bound (n : Nat) (least most i : Int) : Int :=
  max least (min most (if i < 0 then i + n else i))

/-- The positions that a slice takes from a row of `n` items: where it starts, where it stops, and
the step, which is not zero. -/
def sliceBounds (n : Nat) (start stop : Option Int) (step : Int) : Int × Int × Int :=
  if 0 < step then
    ((start.map (bound n 0 n)).getD 0, (stop.map (bound n 0 n)).getD n, step)
  else
    ((start.map (bound n (-1) (n - 1))).getD (n - 1), (stop.map (bound n (-1) (n - 1))).getD (-1),
      step)

/-- The items of a row at the positions of a range. -/
def pick {α : Type} (items : List α) (start stop step : Int) : List α :=
  let row := items.toArray
  (List.range (rangeLength start stop step)).filterMap fun (i : Nat) =>
    row[(start + i * step).toNat]?

/-- A bound or the step of a slice, which may be left out. -/
def sliceBound : Value → Eval (Option Int)
  | .none => return none
  | v =>
    match integer? v with
    | some i => return some i
    | none => crash .wrongType

/-- Every so many items of a value between two positions. -/
def slice (v start stop step : Value) : Eval Value := do
  let bounds (n : Nat) : Eval (Int × Int × Int) := do
    let step := (← sliceBound step).getD 1
    if step = 0 then crash .badValue
    else
      let start ← sliceBound start
      let stop ← sliceBound stop
      return sliceBounds n start stop step
  match v with
  | .text s =>
    let (start, stop, step) ← bounds s.length
    return .text (pick s start stop step)
  | .tuple items =>
    let (start, stop, step) ← bounds items.length
    return .tuple (pick items start stop step)
  | .list p =>
    let items ← itemsAt p
    let (start, stop, step) ← bounds items.length
    newList (pick items start stop step)
  | .range first last by' =>
    let (start, stop, step) ← bounds (rangeLength first last by')
    return .range (first + start * by') (first + stop * by') (by' * step)
  | .absent _ missing key => refuse missing key
  | _ => crash .wrongType

end Stencil.Template
