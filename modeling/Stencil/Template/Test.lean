import Stencil.Template.Argument
import Stencil.Template.Arithmetic
import Stencil.Template.TextMethods

/-!
# Tests

A test tells whether a value has a property: `x is defined`. Tests have names (`Test.named?`); some
take an argument.
-/

namespace Stencil.Template

/-- The properties that can be tested. -/
inductive Test where
  | odd | even | divisibleby | defined | undefined | filter | test | isNone | boolean | isFalse
  | isTrue
  | integer | float | lower | upper | string | mapping | number | sequence | iterable | callable
  | sameas | escaped | in
  | compare (op : Comparison)
  deriving DecidableEq, Repr

namespace Test

/-- The tests by name. -/
def table : List (String × Test) :=
  [("odd", .odd), ("even", .even), ("divisibleby", .divisibleby), ("defined", .defined),
    ("undefined", .undefined), ("filter", .filter), ("test", .test), ("none", .isNone),
    ("boolean", .boolean), ("false", .isFalse), ("true", .isTrue), ("integer", .integer),
    ("float", .float), ("lower", .lower), ("upper", .upper), ("string", .string),
    ("mapping", .mapping), ("number", .number), ("sequence", .sequence), ("iterable", .iterable),
    ("callable", .callable), ("sameas", .sameas), ("escaped", .escaped), ("in", .in),
    ("==", .compare .eq), ("eq", .compare .eq), ("equalto", .compare .eq), ("!=", .compare .ne),
    ("ne", .compare .ne), (">", .compare .gt), ("gt", .compare .gt), ("greaterthan", .compare .gt),
    ("ge", .compare .gteq), (">=", .compare .gteq), ("<", .compare .lt), ("lt", .compare .lt),
    ("lessthan", .compare .lt), ("<=", .compare .lteq), ("le", .compare .lteq)]

/-- The test with a name. -/
def named? (name : Text) : Option Test := Template.named? table name

/-- Whether a value is absent. -/
def isAbsent : Value → Bool
  | .absent _ _ _ => true
  | _ => false

/-- Whether a value is a number; the truth values are. -/
def isNumber (v : Value) : Bool := (Number.ofValue? v).isSome

/-- Whether a value has a length and items by position or key. -/
def isSequence : Value → Bool
  | .text _ | .tuple _ | .list _ | .dict _ | .range _ _ _ | .absent true _ _ => true
  | _ => false

/-- Whether a value can be called. -/
def isCallable : Value → Bool
  | .method _ _ | .helper _ | .builtin _ | .routine _ _ _ _ | .loop _ | .absent _ _ _ => true
  | _ => false

/-- Whether a loop can run over a value. -/
def isIterable : Value → Eval Bool
  | .absent false missing key => refuse missing key
  | .text _ | .tuple _ | .list _ | .dict _ | .stream _ | .view _ _ | .range _ _ _ | .loop _
  | .absent true _ _ => return true
  | _ => return false

/-- Whether two values are one. -/
def isSame : Value → Value → Eval Bool
  | .absent _ _ _, _ => return false
  | _, .absent _ _ _ => return false
  | .bool a, .bool b => return a == b
  | .bool _, _ => return false
  | _, .bool _ => return false
  | .list p, .list p' => return p == p'
  | .dict p, .dict p' => return p == p'
  | .float _, .int _ => return false
  | .int _, .float _ => return false
  | a, b => equal a b

/-- Compares two values; all but equality need an order. -/
def compareBy (op : Comparison) (a b : Value) : Eval Bool := do
  match op with
  | .eq => equal a b
  | .ne => return !(← equal a b)
  | .in => contains a b
  | .notin => return !(← contains a b)
  | op => ordered op a b

/-- Whether a value leaves a remainder in a division. -/
def leaves (v divisor remainder : Value) : Eval Bool := do
  equal (← binary .mod v divisor) remainder

/-- Whether a value has a property that needs no argument; `filters` tells which filters there
are. -/
def holds (filters : Text → Bool) (t : Test) (v : Value) : Eval Bool := do
  match t, v with
  | .odd, v => leaves v (.int 2) (.int 1)
  | .even, v => leaves v (.int 2) (.int 0)
  | .defined, v => return !isAbsent v
  | .undefined, v => return isAbsent v
  | .filter, .text n => return filters n
  | .test, .text n => return (named? n).isSome
  | .isNone, .none => return true
  | .boolean, .bool _ => return true
  | .isFalse, .bool b => return !b
  | .isTrue, .bool b => return b
  | .integer, .int _ => return true
  | .float, .float _ => return true
  | .lower, v => return isOfClass .islower (← shown v)
  | .upper, v => return isOfClass .isupper (← shown v)
  | .string, .text _ => return true
  | .mapping, .dict _ => return true
  | .number, v => return isNumber v
  -- the rounds of a loop are counted before it turns out that it has no items by position
  | .sequence, .loop p => do
    discard (attempt (Loop.length p))
    return false
  | .sequence, v => return isSequence v
  | .iterable, v => isIterable v
  | .callable, v => return isCallable v
  | .filter, v | .test, v => do
    hashable v
    return false
  | _, _ => return false

/-- The name of the argument that a test takes. -/
def parameter? : Test → Option Text
  | .divisibleby => some "num"
  | .sameas => some "other"
  | .in => some "seq"
  | .compare _ => some "b"
  | _ => none

/-- Whether a value has a property. -/
def run (filters : Text → Bool) (t : Test) (v : Value) (a : Args) : Eval Bool := do
  match t.parameter? with
  | none => noArguments a; t.holds filters v
  | some name =>
    let args ← require (match t with
      | .compare _ => a.positional? 1 1
      | _ => (a.fit? [name] 1).map fun args => args.filterMap id)
    let other := args.head?.getD .none
    match t with
    | .divisibleby => leaves v other (.int 0)
    | .sameas => isSame v other
    | .in => contains v other
    | .compare op => compareBy op v other
    | _ => return false

end Test

end Stencil.Template
