import Stencil.Template.Argument

/-!
# Lists and tables

`callList` and `callDict` call the methods of lists and tables, which change them in place; a table
keeps its keys in the order in which they came. `sortBy` sorts values by keys and keeps those with
equal keys in order.
-/

namespace Stencil.Template

/-! ## Sorting -/

/-- Puts a value with its key behind those whose keys are not greater. -/
def insertSorted (key v : Value) : List (Value × Value) → Eval (List (Value × Value))
  | [] => return [(key, v)]
  | (k, w) :: rest => do
    if ← ordered .lt key k then return (key, v) :: (k, w) :: rest
    else return (k, w) :: (← insertSorted key v rest)

/-- Sorts values with keys, those with equal keys in the order in which they stand. -/
def sortKeyed (items : List (Value × Value)) : Eval (List (Value × Value)) :=
  items.foldlM (fun sorted (k, v) => insertSorted k v sorted) []

/-- Sorts values with keys, the greatest first when `descending`. -/
def sortBy (descending : Bool) (items : List (Value × Value)) : Eval (List Value) := do
  if descending then return ((← sortKeyed items.reverse).map Prod.snd).reverse
  else return (← sortKeyed items).map Prod.snd

/-! ## Lists -/

/-- Where a value stands first among others. -/
def indexAmong (v : Value) : Nat → List Value → Eval (Option Nat)
  | _, [] => return none
  | i, w :: rest => do if ← equal w v then return some i else indexAmong v (i + 1) rest

/-- The number of values that are equal to `v`. -/
def countAmong (v : Value) : List Value → Eval Nat
  | [] => return 0
  | w :: rest => do
    let n ← countAmong v rest
    if ← equal w v then return n + 1 else return n

/-- Calls the method that counts a value among the items of a list or a tuple. -/
def countIn (items : List Value) (a : Args) : Eval Value := do
  let args ← positional 1 1 a
  return .int (← countAmong (args.head?.getD .none) items)

/-- Calls the method that looks for a value among the items of a list or a tuple, perhaps only
between two positions. -/
def indexIn (items : List Value) (a : Args) : Eval Value := do
  let args ← positional 1 3 a
  let start := (← asBound args[1]?).getD 0
  let stop := (← asBound args[2]?).getD items.length
  let first := (bound items.length 0 items.length start).toNat
  let last := (bound items.length 0 items.length stop).toNat
  match ← indexAmong (args.head?.getD .none) first ((items.take last).drop first) with
  | some i => return .int i
  | none => crash .badValue

/-- Calls the method that counts a value in a range. -/
def countInRange (start stop step : Int) (a : Args) : Eval Value := do
  let args ← positional 1 1 a
  let v := args.head?.getD .none
  match integer? v with
  | some i => return .int (if (rangePosition? start stop step i).isSome then 1 else 0)
  | none => return .int (← countAmong v (← iterate (.range start stop step)))

/-- Calls the method that looks for a value in a range. -/
def indexInRange (start stop step : Int) (a : Args) : Eval Value := do
  let args ← positional 1 1 a
  let v := args.head?.getD .none
  let found ← (match integer? v with
    | some i => return rangePosition? start stop step i
    | none => do indexAmong v 0 (← iterate (.range start stop step)) : Eval (Option Nat))
  match found with
  | some i => return .int i
  | none => crash .badValue

/-- Puts a value behind the items of the list at a place. -/
def appendTo (p : Place) (v : Value) : Eval Unit := do write p (.list ((← itemsAt p) ++ [v]))

/-- Calls a method of the list at a place. -/
def callList (m : ListMethod) (p : Place) (a : Args) : Eval Value := do
  let items ← itemsAt p
  let put (items : List Value) : Eval Value := do
    write p (.list items)
    return .none
  match m with
  | .append =>
    let args ← positional 1 1 a
    put (items ++ args)
  | .clear => noArguments a; put []
  | .copy => noArguments a; newList items
  | .count => countIn items a
  | .extend =>
    let args ← positional 1 1 a
    match args.head?.getD .none with
    | v@(.stream _) | v@(.loop _) =>
      let source ← Source.of v
      discard (source.each (appendTo p) (← source.steps))
      return .none
    | v => do
      let more ← iterate v
      put (items ++ more)
  | .index => indexIn items a
  | .insert =>
    match ← positional 2 2 a with
    | [i, v] =>
      let i := (bound items.length 0 items.length (← asSize i)).toNat
      put (items.take i ++ v :: items.drop i)
    | _ => crash .wrongType
  | .pop =>
    let args ← positional 0 1 a
    match position? items.length (← asSizeOr (-1) args.head?) with
    | some i =>
      discard (put (items.take i ++ items.drop (i + 1)))
      return items[i]?.getD .none
    | none => crash .badIndex
  | .remove =>
    let args ← positional 1 1 a
    match ← indexAmong (args.head?.getD .none) 0 items with
    | some i => put (items.take i ++ items.drop (i + 1))
    | none => crash .badValue
  | .reverse => noArguments a; put items.reverse
  | .sort =>
    if a.positional.isEmpty then
      let args ← require (a.fit? ["key", "reverse"] 0)
      match args.head?.join with
      | none | some .none =>
        let descending ← (match (args.getLast?).join with
          | none => return false
          | some v => asFlag v : Eval Bool)
        let sorted ← sortBy descending (items.map fun v => (v, v))
        put sorted
      | some _ => crash .wrongType
    else crash .wrongType

/-! ## Tables -/

/-- Gives a key of the table at a place its value. -/
def setEntry (p : Place) (key v : Value) : Eval Unit := do
  hashable key
  let slots ← insert key v (← slotsAt p)
  write p (.dict slots)

/-- Sets the entry that a pair of values makes. -/
def setPair (p : Place) (pair : Value) : Eval Unit := do
  match ← iterate pair with
  | [key, v] => setEntry p key v
  | _ => crash .badValue

/-- Adds entries to the table at a place: those of another table or pairs, and those by name. -/
def update (p : Place) (a : Args) : Eval Unit := do
  match a.positional with
  | [] => pure ()
  | [.dict q] => (← entriesAt q).forM fun e => setEntry p e.1 e.2
  | [.absent _ missing key] => refuse missing key
  | [other] =>
    let source ← Source.of other
    discard (source.each (setPair p) (← source.steps))
  | _ => crash .wrongType
  a.named.forM fun e => setEntry p (.text e.1) e.2

/-- Calls a method of the table at a place. -/
def callDict (m : DictMethod) (p : Place) (a : Args) : Eval Value := do
  match m with
  | .clear =>
    noArguments a
    write p (.dict [])
    return .none
  | .copy => noArguments a; newDict (← entriesAt p)
  | .fromKeys =>
    let args ← positional 1 2 a
    let source ← Source.of (args.head?.getD .none)
    let q ← allocate (.dict [])
    discard (source.each (setEntry q · ((args.drop 1).head?.getD .none)) (← source.steps))
    return .dict q
  | .get =>
    let args ← positional 1 2 a
    return (← find? (args.head?.getD .none) (← entriesAt p)).getD ((args.drop 1).head?.getD .none)
  | .items => noArguments a; return .view .items p
  | .keys => noArguments a; return .view .keys p
  | .values => noArguments a; return .view .values p
  | .pop =>
    let args ← positional 1 2 a
    let key := args.head?.getD .none
    match ← find? key (← entriesAt p), (args.drop 1).head? with
    | some v, _ =>
      let slots ← remove key (← slotsAt p)
      write p (.dict slots)
      return v
    | none, some v => return v
    | none, none => crash .missingKey
  | .popitem =>
    noArguments a
    match Source.firstFilled? (← slotsAt p).zipIdx.reverse with
    | some (e, i) =>
      write p (.dict ((← slotsAt p).take i))
      return .tuple [e.1, e.2]
    | none => crash .missingKey
  | .setdefault =>
    let args ← positional 1 2 a
    let key := args.head?.getD .none
    match ← find? key (← entriesAt p) with
    | some v => return v
    | none =>
      let v := (args.drop 1).head?.getD .none
      setEntry p key v
      return v
  | .update =>
    update p a
    return .none

/-- A new table of the entries that the arguments give. -/
def newTable (a : Args) : Eval Value := do
  let p ← allocate (.dict [])
  update p a
  return .dict p

/-- The range that one to three bounds give. -/
def newRange (a : Args) : Eval Value := do
  match ← positional 1 3 a with
  | [stop] => return .range 0 (← asInt stop) 1
  | [start, stop] => return .range (← asInt start) (← asInt stop) 1
  | [start, stop, step] =>
    let start ← asInt start
    let stop ← asInt stop
    let step ← asInt step
    if step = 0 then crash .badValue else return .range start stop step
  | _ => crash .wrongType

end Stencil.Template
