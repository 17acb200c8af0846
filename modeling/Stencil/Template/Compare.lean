import Stencil.Template.Number
import Stencil.Template.Show

/-!
# Comparing values

`equal` compares values by what they hold: numbers by size, lists and tuples item by item, tables
key by key whatever their order, objects of one class field by field. Values of different kinds
differ. `ordered` compares numbers, texts, lists and tuples; nothing else has an order. What is
absent can be compared with nothing, unless it is lenient.

A key of a table has to be `hashable`; `find?` looks it up.
-/

namespace Stencil.Template

/-- Whether two ranges have the same items. -/
def sameRange (start stop step start' stop' step' : Int) : Bool :=
  let n := rangeLength start stop step
  n = rangeLength start' stop' step' && (n = 0 || (start = start' && (n = 1 || step = step')))

/-! ## Equality -/

mutual

/-- Whether two values are equal; `inner` compares what is at two places. -/
def equalWith (inner : Place → Place → Eval Bool) : Value → Value → Eval Bool
  | .tuple a, .tuple b => equalAll inner a b
  | .record kind a, .record kind' b =>
    if kind = kind' then equalFields inner a b else return false
  | .list p, .list p' => if p = p' then return true else inner p p'
  | .dict p, .dict p' => if p = p' then return true else inner p p'
  | .stream p, .stream p' => return p == p'
  | .loop p, .loop p' => return p == p'
  | .view part p, .view part' p' => return part == part' && p == p'
  | .none, .none => return true
  | .text s, .text s' => return s == s'
  | .range a b c, .range a' b' c' => return sameRange a b c a' b' c'
  | .method v m, .method v' m' => if m = m' then equalWith inner v v' else return false
  | .helper h, .helper h' => return h == h'
  | .builtin b, .builtin b' => return b == b'
  | .routine n _ _ p, .routine n' _ _ p' => return n == n' && p == p'
  | .absent true _ _, .absent true _ _ => return true
  | .absent false missing key, _ => refuse missing key
  | _, .absent false missing key => refuse missing key
  | a, b =>
    match Number.ofValue? a, Number.ofValue? b with
    | some x, some y => return x.compare? y == some .eq
    | _, _ => return false

/-- Whether values are equal, one by one. -/
def equalAll (inner : Place → Place → Eval Bool) : List Value → List Value → Eval Bool
  | a :: as, b :: bs => do
    if ← equalWith inner a b then equalAll inner as bs else return false
  | [], [] => return true
  | _, _ => return false

/-- Whether the values of fields are equal, one by one. -/
def equalFields (inner : Place → Place → Eval Bool) :
    List (Text × Value) → List (Text × Value) → Eval Bool
  | (_, a) :: as, (_, b) :: bs => do
    if ← equalWith inner a b then equalFields inner as bs else return false
  | [], [] => return true
  | _, _ => return false

end

/-- The first entry of a table whose key is equal to a value. -/
def entryWith? (inner : Place → Place → Eval Bool) (key : Value) :
    List (Value × Value) → Eval (Option (Value × Value))
  | [] => return none
  | (k, v) :: rest => do
    if ← equalWith inner k key then return some (k, v) else entryWith? inner key rest

/-- Whether a table has the value of each entry under its key. -/
def entriesWithin (inner : Place → Place → Eval Bool) (entries : List (Value × Value)) :
    List (Value × Value) → Eval Bool
  | [] => return true
  | (k, v) :: rest => do
    match ← entryWith? inner k entries with
    | none => return false
    | some (_, w) =>
      if ← equalWith inner v w then entriesWithin inner entries rest else return false

/-- Whether the lists or the tables at two places are equal. The fuel bounds how deep lists and
tables are nested. -/
def equalAt : Nat → Place → Place → Eval Bool
  | 0, _, _ => crash .tooDeep
  | fuel + 1, p, p' => do
    match ← look (·.object p), ← look (·.object p') with
    | .list items, .list items' =>
      if items.length = items'.length then equalAll (equalAt fuel) items items' else return false
    | .dict slots, .dict slots' =>
      let entries := slots.reduceOption
      let entries' := slots'.reduceOption
      if entries.length = entries'.length then entriesWithin (equalAt fuel) entries' entries
      else return false
    | _, _ => return false

/-- Whether two values are equal. -/
def equal (a b : Value) : Eval Bool := equalWith (equalAt frames) a b

/-- Whether a value is among others. -/
def isAmong (v : Value) : List Value → Eval Bool
  | [] => return false
  | w :: rest => do if ← equal w v then return true else isAmong v rest

/-! ## Keys of tables -/

mutual

/-- Fails when a value cannot be a key: a list, a table, or what has one inside. -/
def hashable : Value → Eval Unit
  | .list _ => crash .wrongType
  | .dict _ => crash .wrongType
  | .view part _ => if part = .values then return () else crash .wrongType
  | .absent false missing key => refuse missing key
  | .tuple items => hashableAll items
  | .record _ fields => hashableFields fields
  | _ => return ()

/-- Fails when one of the values cannot be a key. -/
def hashableAll : List Value → Eval Unit
  | [] => return ()
  | v :: rest => do hashable v; hashableAll rest

/-- Fails when the value of a field cannot be a key. -/
def hashableFields : List (Text × Value) → Eval Unit
  | [] => return ()
  | (_, v) :: rest => do hashable v; hashableFields rest

end

/-- The value of a key. -/
def find? (key : Value) (entries : List (Value × Value)) : Eval (Option Value) := do
  hashable key
  return (← entryWith? (equalAt frames) key entries).map Prod.snd

/-- Gives a key its value, in its old slot if it is there. -/
def insert (key value : Value) :
    List (Option (Value × Value)) → Eval (List (Option (Value × Value)))
  | [] => return [some (key, value)]
  | none :: rest => return none :: (← insert key value rest)
  | some (k, v) :: rest => do
    if ← equal k key then return some (k, value) :: rest
    else return some (k, v) :: (← insert key value rest)

/-- Empties the slot of a key. -/
def remove (key : Value) : List (Option (Value × Value)) → Eval (List (Option (Value × Value)))
  | [] => return []
  | none :: rest => return none :: (← remove key rest)
  | some (k, v) :: rest => do
    if ← equal k key then return none :: rest else return some (k, v) :: (← remove key rest)

/-! ## Order -/

/-- Whether an order between two things makes a comparison true. -/
def accepts : Comparison → Ordering → Bool
  | .lt, o => o == .lt
  | .lteq, o => o != .gt
  | .gt, o => o == .gt
  | .gteq, o => o != .lt
  | .eq, o => o == .eq
  | .ne, o => o != .eq
  | .in, _ => false
  | .notin, _ => false

/-- The order of two texts, by code points. -/
def compareTexts (a b : Text) : Ordering :=
  if Text.less a b then .lt else if a = b then .eq else .gt

mutual

/-- Whether two values stand in an order; `inner` compares what is at two places. -/
def orderedWith (inner : Place → Place → Eval Bool) (op : Comparison) : Value → Value → Eval Bool
  -- a strict value comes before a lenient one
  | .absent true _ _, .absent false missing key => refuse missing key
  | .absent _ missing key, _ => refuse missing key
  | _, .absent _ missing key => refuse missing key
  | .text a, .text b => return accepts op (compareTexts a b)
  | .tuple a, .tuple b => orderedItems inner op a b
  | .list p, .list p' => inner p p'
  | a, b =>
    match Number.ofValue? a, Number.ofValue? b with
    | some x, some y => return (x.compare? y).any (accepts op)
    | _, _ => crash .wrongType

/-- Whether two rows of values stand in an order: the first two values that differ decide, then the
lengths. -/
def orderedItems (inner : Place → Place → Eval Bool) (op : Comparison) :
    List Value → List Value → Eval Bool
  | a :: as, b :: bs => do
    if ← equal a b then orderedItems inner op as bs else orderedWith inner op a b
  | [], [] => return accepts op .eq
  | [], _ :: _ => return accepts op .lt
  | _ :: _, [] => return accepts op .gt

end

/-- Whether the lists at two places stand in an order. The fuel bounds how deep lists are nested. -/
def orderedAt (op : Comparison) : Nat → Place → Place → Eval Bool
  | 0, _, _ => crash .tooDeep
  | fuel + 1, p, p' => do
    orderedItems (orderedAt op fuel) op (← itemsAt p) (← itemsAt p')

/-- Whether two values stand in an order. -/
def ordered (op : Comparison) (a b : Value) : Eval Bool :=
  orderedWith (orderedAt op frames) op a b

end Stencil.Template
